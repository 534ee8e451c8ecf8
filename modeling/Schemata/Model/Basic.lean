import Schemata.Model.Cardinality
import Schemata.Model.Constraints
import Schemata.Model.FieldType
/-!
# Entity-relationship models

A model is a list of entities with their fields, and a list of relationships between entities by
name.  The order of entities, fields and relationships is significant.

* `Model.read` reads a model out of a loosely typed value, `Model.toWire` writes it back.
* `Model.entity?` looks an entity up by name: of several with one name the first counts.
* `Model.resolve` gives the two entities of a relationship, `Model.resolved` those relationships
  that have both.
-/

namespace Schemata

open Coercion

/-! ## 1. Fields -/

/-- A named and typed attribute of an entity.  The type token is kept as it was given. -/
structure Field where
  name : String
  type : String
  required : Bool
  description : Option String
  constraints : Option Constraints
  deriving Repr

namespace Field

/-- The name of the record in complaints. -/
def recordName : String := "FieldDefinition"

/-- Whether a field is required; null means no. -/
def readRequired : Value → Checked Bool
  | .null => .ok false
  | v => boolean v

/-- Reads a field. -/
def read (v : Value) : Checked Field :=
  record recordName v fun es =>
    Checked.ok Field.mk
      |>.and (Coercion.required es ["name"] nonEmptyText)
      |>.and (Coercion.required es ["type"] text)
      |>.and (optionalField es ["required"] false readRequired)
      |>.and (optionalField es ["description"] none (optional text))
      |>.and (optionalField es ["constraints"] none (optional Constraints.read))

/-- The abstract type of the field. -/
def kind (f : Field) : FieldType := FieldType.parse f.type

/-- The constraints, empty when none were supplied. -/
def rules (f : Field) : Constraints := f.constraints.getD .empty

/-- Whether the field is the primary key. -/
def isPrimary (f : Field) : Bool := f.rules.primary.getD false

/-- Whether the field's values are unique. -/
def isUnique (f : Field) : Bool := f.rules.unique.getD false

/-- Whether the field counts itself up. -/
def isAutoIncrement (f : Field) : Bool := f.rules.autoIncrement.getD false

/-- The constraint map as supplied. -/
def wireConstraints (f : Field) : Value :=
  .obj (match f.constraints with
    | some c => c.wire
    | none => [])

/-- The field as supplied. -/
def toWire (f : Field) : Value :=
  .obj ([("name", .str f.name), ("type", .str f.type), ("required", .bool f.required)] ++
    (f.description.map fun d => ("description", Value.str d)).toList ++
    (f.constraints.map fun _ => ("constraints", f.wireConstraints)).toList)

/-- A short name of the field for messages. -/
def inspect (f : Field) : String :=
  "<Field " ++ f.name ++ " " ++ f.type ++ (if f.isPrimary then " PK" else "") ++
    (if f.required then " REQUIRED" else "") ++ ">"

end Field

/-! ## 2. Entities -/

/-- A named record type: one table, one resource. -/
structure Entity where
  name : String
  tableName : String
  description : Option String
  fields : List Field
  deriving Repr

namespace Entity

/-- The name of the record in complaints. -/
def recordName : String := "EntityDefinition"

/-- Reads an entity. -/
def read (v : Value) : Checked Entity :=
  record recordName v fun es =>
    Checked.ok Entity.mk
      |>.and (required es ["name"] nonEmptyText)
      |>.and (optionalField es ["tableName", "table_name"] "" text)
      |>.and (optionalField es ["description"] none (optional text))
      |>.and (required es ["fields"] (listOf Field.read))

/-- The names of the fields. -/
def fieldNames (e : Entity) : List String := e.fields.map Field.name

/-- The first field of a name. -/
def field? (e : Entity) (name : String) : Option Field := e.fields.find? fun f => f.name = name

/-- The description, or another text when it is absent or empty. -/
def describedAs (description : Option String) (other : String) : String :=
  match description with
  | some d => if d = "" then other else d
  | none => other

/-- The description, or the name when there is none. -/
def title (e : Entity) : String := describedAs e.description e.name

/-- The entity on the wire. -/
def toWire (e : Entity) : Value :=
  .obj [("name", .str e.name), ("tableName", .str e.tableName),
    ("description", .ofOption e.description), ("fields", .list (e.fields.map Field.toWire))]

/-- A short name of the entity for messages. -/
def inspect (e : Entity) : String :=
  "<Entity " ++ e.name ++ " (" ++ e.tableName ++ ", " ++ toString e.fields.length ++ " fields)>"

end Entity

/-! ## 3. Relationships -/

/-- A typed and directed association between two entities by name.  `wire` keeps the relationship
as supplied, further keys and nulls included. -/
structure Relationship where
  source : String
  target : String
  type : Option String
  description : Option String
  wire : Entries String Value
  deriving Repr

namespace Relationship

/-- The name of the record in complaints. -/
def recordName : String := "RelationshipDefinition"

/-- The wire name of a supplied key. -/
def wireNameOf (key : String) : String :=
  if key = "source" then "from" else if key = "target" then "to" else key

/-- The relationship as supplied, under wire names; of two spellings the later value counts. -/
def wireOf (entries : List (Scalar × Value)) : Entries String Value :=
  Entries.ofList ((textEntries entries).map fun (k, v) => (wireNameOf k, v))

/-- Reads a relationship. -/
def read (v : Value) : Checked Relationship :=
  record recordName v fun es =>
    (Checked.ok Relationship.mk
      |>.and (required es ["from", "source"] text)
      |>.and (required es ["to", "target"] text)
      |>.and (optionalField es ["type"] none (optional text))
      |>.and (optionalField es ["description"] none (optional text))
      |>.and (.ok (wireOf es))).withMore (keyComplaints es)

/-- The cardinality of the relationship. -/
def cardinality (r : Relationship) : Cardinality :=
  match r.type with
  | some t => Cardinality.parse t
  | none => .unknown

/-- The label of an edge: the description, or else the type token. -/
def label (r : Relationship) : String := Entity.describedAs r.description (r.type.getD "")

/-- The relationship on the wire. -/
def toWire (r : Relationship) : Value := .obj r.wire

/-- A short name of a relationship for messages, from its ends and its type. -/
def inspectParts (source type target : String) : String :=
  "<Relationship " ++ source ++ " -[" ++ type ++ "]-> " ++ target ++ ">"

/-- A short name of the relationship for messages. -/
def inspect (r : Relationship) : String :=
  inspectParts r.source (Value.ofOption r.type).display r.target

end Relationship

/-! ## 4. Models -/

/-- A model.  `index` holds entities under the names by which they are looked up; it is made when
the model is read. -/
structure Model where
  entities : List Entity
  relationships : List Relationship
  index : Entries String Entity
  deriving Repr

namespace Model

/-- The index of entities: a name that is there keeps its entity. -/
def indexOf (entities : List Entity) : Entries String Entity :=
  Entries.addAll [] (entities.map fun e => (e.name, e))

/-- The model of entities and relationships. -/
def of (entities : List Entity) (relationships : List Relationship) : Model :=
  ⟨entities, relationships, indexOf entities⟩

/-- The name of the record in complaints. -/
def recordName : String := "CanonicalModel"

/-- Reads relationships; null stands for none. -/
def readRelationships : Value → Checked (List Relationship)
  | .null => .ok []
  | v => listOf Relationship.read v

/-- Reads a model. -/
def read (v : Value) : Checked Model :=
  record recordName v fun es =>
    Checked.ok Model.of
      |>.and (optionalField es ["entities"] [] (listOf Entity.read))
      |>.and (optionalField es ["relationships"] [] readRelationships)

/-- The entity that a name is looked up as. -/
def entity? (m : Model) (name : String) : Option Entity := m.index.lookup name

/-- The two entities of a relationship, if both ends name one. -/
def resolve (m : Model) (r : Relationship) : Option (Entity × Entity) :=
  match m.entity? r.source, m.entity? r.target with
  | some source, some target => some (source, target)
  | _, _ => none

/-- A relationship with the entities at its ends. -/
structure Link where
  relationship : Relationship
  source : Entity
  target : Entity
  deriving Repr

/-- The relationships with both ends, in order. -/
def resolved (m : Model) : List Link :=
  m.relationships.filterMap fun r => (m.resolve r).map fun (s, t) => ⟨r, s, t⟩

/-- The names of the entities. -/
def entityNames (m : Model) : List String := m.entities.map Entity.name

/-- The number of fields of all entities. -/
def totalFields (m : Model) : Nat := m.entities.foldl (fun n e => n + e.fields.length) 0

/-- The model on the wire. -/
def toWire (m : Model) : Value :=
  .obj [("entities", .list (m.entities.map Entity.toWire)),
    ("relationships", .list (m.relationships.map Relationship.toWire))]

/-- A short name of the model for messages. -/
def inspect (m : Model) : String :=
  "<CanonicalModel " ++ toString m.entities.length ++ " entities, " ++ toString m.totalFields ++
    " fields, " ++ toString m.relationships.length ++ " relationships>"

end Model

end Schemata
