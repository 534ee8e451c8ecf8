import Schemata.Failure
import Schemata.Model.Basic
import Schemata.Text.Plural
/-!
# Normal form of a model

`Model.normalize` reads a model of unknown provenance.  Every entity gets a primary key named `id`
in front of its fields unless it has a field of that name; a missing table name becomes the plural
of the entity's name, a missing description the empty text, and missing relationships the empty
list.
-/

namespace Schemata

/-! ## 1. Failures -/

/-- Why a value is no model. -/
inductive Model.Fault
  | notMap (kind : Value.Kind)
  | entitiesNotList
  | entityNotMap (index : Nat)
  | noFields (index : Nat) (name : Value)
  | shape (complaints : List Complaint)
  deriving Repr

/-- The text of a fault. -/
def Model.Fault.message : Model.Fault → String
  | notMap kind => "expected a mapping, got " ++ kind.name
  | entitiesNotList => "'entities' must be a list"
  | entityNotMap index => "entity #" ++ toString index ++ " is not a mapping"
  | noFields index name =>
    if name.isWritable then
      "entity #" ++ toString index ++ " (" ++ name.literal ++ ") has no 'fields' list"
    else Written.limitMessage ""
  | shape complaints =>
    "model does not match the canonical shape (" ++ toString complaints.length ++ " error(s)): " ++
      ((complaints.head?.map fun c => c.cause.message).getD "")

/-- A fault as a failure of its stage. -/
def Model.Fault.toFailure (f : Model.Fault) : Failure := ⟨.normalization, f.message⟩

/-- Whether a fault is a failure of its stage.  Where the name of an entity has no text, there is no
message to fail with, and what comes out is the error of writing it. -/
def Model.Fault.isFailure : Model.Fault → Bool
  | noFields _ name => name.isWritable
  | _ => true

/-- What is told of a fault where no failure is looked at. -/
def Model.Fault.report (f : Model.Fault) : String :=
  if f.isFailure then f.toFailure.sentence else f.message

/-! ## 2. Entities -/

namespace Entity

/-- The name of the primary key. -/
def keyName : String := "id"

/-- The primary key of an entity that has none. -/
def synthesizedKey : Value :=
  .obj [("name", .str keyName), ("type", .str "number"), ("required", .bool true),
    ("description", .str "Unique identifier"),
    ("constraints", .obj [("primary", .bool true), ("autoIncrement", .bool true)])]

/-- Whether a field is named like the primary key. -/
def isKey : Value → Bool
  | .map entries =>
    match Value.member? "name" entries with
    | some (.str s) => s = keyName
    | _ => false
  | _ => false

/-- The fields with a primary key among them. -/
def keyedFields (fields : List Value) : List Value :=
  if fields.any isKey then fields else synthesizedKey :: fields

/-- Whether an optional value counts as given. -/
def isGiven (v : Option Value) : Bool := (v.map Value.isTruthy).getD false

/-- The entries with a table name; it is only made up from a name that is a text. -/
def withTableName (entries : List (Scalar × Value)) : List (Scalar × Value) :=
  if isGiven (Value.member? "tableName" entries) then entries
  else
    match Value.member? "name" entries with
    | some (.str name) =>
      if name = "" then entries
      else Entries.put (.str "tableName") (.str (Text.plural name)) entries
    | _ => entries

/-- The entries with a description. -/
def withDescription (entries : List (Scalar × Value)) : List (Scalar × Value) :=
  match Value.member? "description" entries with
  | none | some .null => Entries.put (.str "description") (.str "") entries
  | some _ => entries

/-- An entity with everything that can be made up. -/
def prepare (index : Nat) : Value → Except Model.Fault Value
  | .map entries =>
    match Value.member? "fields" entries with
    | some (.list fields) =>
      let keyed := Entries.put (.str "fields") (.list (keyedFields fields)) entries
      .ok (.map (withDescription (withTableName keyed)))
    | _ => .error (.noFields index ((Value.member? "name" entries).getD .null))
  | _ => .error (.entityNotMap index)

/-- All entities with everything that can be made up, counted from an index. -/
def prepareAll (index : Nat) : List Value → Except Model.Fault (List Value)
  | [] => .ok []
  | v :: rest => do return (← prepare index v) :: (← prepareAll (index + 1) rest)

end Entity

/-! ## 3. Models -/

namespace Model

/-- The value of a model with everything that can be made up. -/
def prepare : Value → Except Fault Value
  | .map entries =>
    match Value.member? "entities" entries with
    | some (.list entities) => do
      let prepared ← Entity.prepareAll 0 entities
      let relationships := match Value.member? "relationships" entries with
        | none | some .null => .list []
        | some v => v
      return .obj [("entities", .list prepared), ("relationships", relationships)]
    | _ => .error .entitiesNotList
  | v => .error (.notMap v.kind)

/-- The normal form of a model. -/
def normalize (raw : Value) : Except Fault Model := do
  match Model.read (← prepare raw) with
  | .ok m => return m
  | .bad complaints => throw (.shape complaints)

end Model

end Schemata
