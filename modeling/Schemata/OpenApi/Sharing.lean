import Schemata.OpenApi.Document
import Schemata.Yaml.Object
import Schemata.Yaml.Tree
/-!
# What a description holds several times

An example that is taken from the choices of its property is the first choice itself.  The choices
themselves are the objects of the input, which may hold one object at several places; a default is
a copy of its own, which repeats what it is a copy of.

`Sharing.document` is the description again, put together from parts that know what their objects
come from.  `Sharing.identity` is what the whole then knows of its places.
-/

namespace Schemata.OpenApi

open Yaml (Objects Part)

/-- What an object of a description comes from. -/
inductive Origin
  /-- The object that was made for a place of the description. -/
  | made (place : Spot)
  /-- An object of the input. -/
  | taken (n : Nat)
  /-- The copy of an object of the input that was made for a property. -/
  | copied (property : Spot) (n : Nat)
  deriving DecidableEq, Repr

/-! ## 1. Parts that know their objects -/

/-- A value, and what the objects at its places come from. -/
structure Traced where
  value : Value
  origin : Yaml.Identity Origin

namespace Traced

/-- A value that is made where it stands, and nowhere else. -/
def fresh (v : Value) : Traced := ⟨v, fun _ => none⟩

/-- A value whose objects have names. -/
def named (v : Value) (name : Spot → Origin) : Traced := ⟨v, fun place => some (name place)⟩

/-- The items of a list whose objects have names. -/
def items (vs : List Value) (name : Spot → Origin) : List Traced :=
  vs.zipIdx.map fun x => named x.1 fun place => name (.index x.2 :: place)

/-- A list that is made of parts. -/
def list (parts : List Traced) : Traced where
  value := .list (parts.map value)
  origin
    | .index i :: place => parts[i]?.bind fun t => t.origin place
    | _ => none

/-- A map that is made of parts. -/
def obj (parts : Entries String Traced) : Traced where
  value := .obj (parts.map fun p => (p.1, p.2.value))
  origin
    | .key (.str key) :: place => (parts.lookup key).bind fun t => t.origin place
    | _ => none

/-- Entries that are made where they stand. -/
def freshEntries (es : Entries String Value) : Entries String Traced :=
  es.map fun p => (p.1, fresh p.2)

end Traced

/-! ## 2. Places of the input -/

/-- The input of a description: its objects, the part that the model is, and the model. -/
structure Sharing where
  objects : Objects
  whole : Part
  model : Model

namespace Sharing

/-- The part of the input that holds the constraints of a field, by the indexes of its entity and of
the field.  A field that was added to the front has no place in the input. -/
def constraints? (s : Sharing) (i : Nat) (e : Entity) (j : Nat) : Option Part := do
  let fields ← s.objects.partAt? s.whole [.name "entities", .index i, .name "fields"]
  let .object n := fields | none
  let .list given ← s.objects[n]? | none
  let added := e.fields.length - given.length
  if j < added then none
  else s.objects.partAt? fields [.index (j - added), .name "constraints"]

/-- The fields of an entity, each with the part of the input that holds its constraints. -/
def fields (s : Sharing) (i : Nat) (e : Entity) : List (Field × Option Part) :=
  e.fields.zipIdx.map fun x => (x.1, s.constraints? i e x.2)

/-- Whether an object is a pair of atoms, which a copy shares with what it is a copy of. -/
def isPairOfAtoms (s : Sharing) (n : Nat) : Bool :=
  match s.objects[n]? with
  | some (.pair (.atom _) (.atom _)) => true
  | _ => false

/-! ## 3. Fields -/

/-- The place of a property. -/
def propertySpot (entity field : String) : Spot :=
  [.name "components", .name "schemas", .name entity, .name "properties", .name field]

variable (s : Sharing) (entity : String) (f : Field) (rules : Option Part)

/-- The object at a place in the choices of a field. -/
def inChoices (inside : Spot) : Origin :=
  match rules.bind fun p => s.objects.partAt? p (.name "enum" :: inside) with
  | some (.object n) => .taken n
  | _ => .made (propertySpot entity f.name ++ .name "enum" :: inside)

/-- The object at a place in the default of a field. -/
def inDefault (inside : Spot) : Origin :=
  let property := propertySpot entity f.name
  match rules.bind fun p => s.objects.partAt? p (.name "default" :: inside) with
  | some (.object n) => if s.isPairOfAtoms n then .taken n else .copied property n
  | _ => .made (property ++ .name "default" :: inside)

/-- The choices of a field. -/
def choices? : Option (List Traced) :=
  (usableChoices f).map fun vs => Traced.items vs (s.inChoices entity f rules)

/-- The default of a field. -/
def default? : Option Traced :=
  (usableDefault f).map fun v => .named v (s.inDefault entity f rules)

/-- The schema of a field, a map of its own whose list of choices is made for it. -/
def property : Traced :=
  .obj (Traced.freshEntries (propertyHead f) ++
    ((s.default? entity f rules).map fun t => ("default", t)).toList ++
    ((s.choices? entity f rules).map fun ts => ("enum", Traced.list ts)).toList)

/-- The example value of a field: the first of its choices, or one of its type. -/
def sample (stamp : String) : Traced :=
  ((s.choices? entity f rules).bind List.head?).getD (.fresh (typeExample f stamp))

/-! ## 4. The description -/

/-- The schema of an entity. -/
def component (i : Nat) (e : Entity) (stamp : String) : Traced :=
  let fields := s.fields i e
  .obj ([("type", .fresh (.str "object")),
      ("properties", .obj (Entries.ofList
        (fields.map fun f => (f.1.name, s.property e.name f.1 f.2))))] ++
    Traced.freshEntries (requiredEntry e) ++
    [("example", .obj (Entries.ofList
      (fields.map fun f => (f.1.name, s.sample e.name f.1 f.2 stamp))))])

/-- The schemas of the entities; of two entities with one name the later counts. -/
def schemas (stamp : String) : Entries String Traced :=
  Entries.ofList (s.model.entities.zipIdx.map fun x => (x.1.name, s.component x.2 x.1 stamp))

/-- The document of the model. -/
def document (config : Config) (stamp : String) : Traced :=
  .obj (Traced.freshEntries [("openapi", .str version), ("info", info config),
      ("servers", .list (config.servers.map Server.toValue)),
      ("paths", .obj (paths config s.model))] ++
    [("components", .obj (("schemas", .obj (s.schemas stamp)) ::
      Traced.freshEntries [("responses", .obj sharedResponses)]))] ++
    Traced.freshEntries [("tags", .list (s.model.entities.map tag))])

/-- What the objects at the places of the document come from.  Settings and the time of making have
no part in it. -/
@[inline]
def identity : Yaml.Identity Origin := (s.document {} "").origin

end Sharing

end Schemata.OpenApi
