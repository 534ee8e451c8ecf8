import Schemata.Edit
import Schemata.MetaSchema.Verdict
import Schemata.Value.Operation
/-!
# Records whose fields are not checked

An `Unchecked` record holds any value in any field: a constraint map, a relationship, a server or a
verdict that was assigned to after it was read, or that was put together without being read.

* `Unchecked.set` assigns a value without looking at it.
* What is derived from such a record is derived from whatever its fields hold.  The wire form stays
  the one it was read from, until that is put out of the way.
-/

namespace Schemata

/-! ## 1. Records -/

/-- A field of a record: its name, and the name of it on the wire. -/
structure Unchecked.Slot where
  name : String
  wireName : String
  deriving DecidableEq, Repr

/-- A record without checks.  `values` are those of the fields that were given, by name; `extras`
what was stored under other names; `privates` what the record keeps beside its fields. -/
structure Unchecked where
  record : String
  slots : List Unchecked.Slot
  /-- Whether values can be stored under other names. -/
  isOpen : Bool
  derived : List String
  values : Entries String Value
  extras : Entries String Value := []
  privates : Entries String Value := []
  deriving Repr

namespace Unchecked

/-- The value of a field; null if it was not given. -/
def get (u : Unchecked) (name : String) : Value := (u.values.lookup name).getD .null

/-- The name under which a record keeps the wire form that it was read from. -/
def wireName : String := "_wire"

/-- Stores a value under a private name; a name that the record does not know is never read. -/
def setPrivate (u : Unchecked) (attr : String) (v : Value) : Unchecked :=
  if Entries.contains attr u.privates then { u with privates := Entries.put attr v u.privates }
  else u

/-- Assigns a value. -/
def set (u : Unchecked) (attr : String) (v : Value) : Except Edit.Fault Unchecked :=
  if Edit.isPrivate attr then .ok (u.setPrivate attr v)
  else if (u.derived ++ Edit.derivedNames).contains attr then
    .error (.readOnly u.record attr)
  else if (u.slots.map Slot.name).contains attr then
    .ok { u with values := Entries.put attr v u.values }
  else if u.isOpen then .ok { u with extras := Entries.put attr v u.extras }
  else .error (.noField u.record attr)

/-- The fields that were given, in the order of the record, and then the rest. -/
def dump (u : Unchecked) : Value :=
  .obj ((u.slots.filterMap fun s => (u.values.lookup s.name).map fun v => (s.wireName, v)) ++
    u.extras)

/-- The record on the wire: as it was read if that is known. -/
def toWire (u : Unchecked) : Value :=
  match u.privates.lookup wireName with
  | none | some .null => u.dump
  | some v => v

/-- Puts a record together from entries: a field is given under its wire name, or else under its
own.  What is given under a private name is stored there as well. -/
def fill (u : Unchecked) (entries : Entries String Value) : Unchecked :=
  let filled := u.slots.foldl (fun u s =>
    let take (name : String) (v : Value) : Unchecked :=
      { u with values := u.values ++ [(s.name, v)], extras := Entries.erase name u.extras }
    match u.extras.lookup s.wireName, u.extras.lookup s.name with
    | some v, _ => take s.wireName v
    | none, some v => take s.name v
    | none, none => u) { u with values := [], extras := entries }
  filled.extras.foldl (fun u e => u.setPrivate e.1 e.2) filled

end Unchecked

/-! ## 2. Constraints -/

namespace Constraints

/-- The fields of a constraint map. -/
def slots : List Unchecked.Slot := ConstraintKey.all.map fun k => ⟨k.fieldName, k.wireName⟩

/-- The name under which the constraints that could not be read are kept. -/
def rejectedName : String := "_rejected"

/-- An unchecked constraint map without fields. -/
def blank : Unchecked :=
  { record := recordName, slots := slots, isOpen := true
    derived := ["has_default", "rejected_keys"], values := []
    privates := [(Unchecked.wireName, .null), (rejectedName, .list [])] }

/-- The typed value of a constraint, null where there is none. -/
def typed (c : Constraints) : ConstraintKey → Value
  | .primary => (c.primary.map Value.bool).getD .null
  | .unique => (c.unique.map Value.bool).getD .null
  | .autoIncrement => (c.autoIncrement.map Value.bool).getD .null
  | .maxLength => (c.maxLength.map Value.int).getD .null
  | .minLength => (c.minLength.map Value.int).getD .null
  | .minimum => (c.minimum.map Number.toValue).getD .null
  | .maximum => (c.maximum.map Number.toValue).getD .null
  | .default => c.default.getD .null
  | .choices => (c.choices.map Value.list).getD .null
  | .pattern => .ofOption c.pattern
  | .items => (c.items.map Value.obj).getD .null

/-- The constraints that were read from entries, as an unchecked record.  A constraint that could
not be read is not among them, under whatever name it was given. -/
def unchecked (c : Constraints) (entries : Entries String Value) : Unchecked :=
  let rejected := ConstraintKey.all.filter fun k => c.rejected.contains k.wireName
  let accepted := entries.filter fun e => !rejected.any fun k => k.names.contains e.1
  let filled := { blank with privates := [] }.fill accepted
  { filled with
    values := filled.values.map fun (name, v) =>
      (name, ((ConstraintKey.all.find? fun k => k.fieldName = name).map c.typed).getD v)
    privates := [(Unchecked.wireName, .obj c.wire), (rejectedName, .texts c.rejected)] }

/-- The constraints that could not be read, as far as what is stored in their place can be gone
through. -/
def rejectedUnchecked (u : Unchecked) : Except Value.Lack (List Value) :=
  ((u.privates.lookup rejectedName).getD .null).parts

/-- An unchecked constraint map for a reader, as far as its choices can be gone through. -/
def describeUnchecked (u : Unchecked) : Except Value.Lack String := do
  let given (name : String) (f : Value → String) : Option String :=
    match u.get name with
    | .null => none
    | v => some (f v)
  let choices ← match u.get "enum" with
    | .null => pure none
    | v => do pure (some (", ".intercalate ((← v.parts).map Value.plain)))
  return parenthesized (annotations (u.get "primary").isTruthy (u.get "unique").isTruthy
    (u.get "auto_increment").isTruthy (given "max_length" Value.display)
    (given "min_length" Value.display) (given "minimum" Value.plain) (given "maximum" Value.plain)
    ((u.values.lookup "default").map Value.plain) choices)

end Constraints

/-! ## 3. Relationships -/

namespace Relationship

/-- An unchecked relationship without fields. -/
def blank : Unchecked :=
  { record := recordName
    slots := [⟨"source", "from"⟩, ⟨"target", "to"⟩, ⟨"type", "type"⟩,
      ⟨"description", "description"⟩]
    isOpen := true
    derived := ["kind", "label"]
    values := []
    privates := [(Unchecked.wireName, .null)] }

/-- The relationship that was read from entries, as an unchecked record. -/
def unchecked (r : Relationship) (entries : Entries String Value) : Unchecked :=
  let typed : Entries String Value :=
    [("source", .str r.source), ("target", .str r.target), ("type", .ofOption r.type),
      ("description", .ofOption r.description)]
  let filled := { blank with privates := [] }.fill entries
  { filled with
    values := filled.values.map fun (name, v) => (name, (typed.lookup name).getD v)
    privates := [(Unchecked.wireName, r.toWire)] }

/-- The cardinality of an unchecked relationship. -/
def cardinalityUnchecked (u : Unchecked) : Cardinality :=
  match u.get "type" with
  | .str t => Cardinality.parse t
  | _ => .unknown

/-- The label of an unchecked relationship: the first of description and type that counts as
given. -/
def labelUnchecked (u : Unchecked) : Value :=
  if (u.get "description").isTruthy then u.get "description"
  else if (u.get "type").isTruthy then u.get "type"
  else .str ""

/-- A short name of an unchecked relationship for messages. -/
def inspectUnchecked (u : Unchecked) : String :=
  inspectParts (u.get "source").display (u.get "type").display (u.get "target").display

end Relationship

/-! ## 4. Closed records -/

/-- A server as an unchecked record. -/
def Server.unchecked (s : Server) : Unchecked :=
  { record := Server.recordName
    slots := [⟨"url", "url"⟩, ⟨"description", "description"⟩]
    isOpen := false
    derived := []
    values := [("url", .str s.url), ("description", .str s.description)] }

/-- A verdict as an unchecked record. -/
def MetaSchema.Verdict.unchecked (v : MetaSchema.Verdict) : Unchecked :=
  let values := match v.toValue with
    | .map es => Coercion.textEntries es
    | _ => []
  { record := MetaSchema.Verdict.recordName
    slots := values.map fun e => ⟨e.1, e.1⟩
    isOpen := false
    derived := []
    values := values }

/-! ## 5. Writing closed records

A field, an entity or a model that was put together without checks has plain values where parts
with a wire form belong, so it can be written only when those are absent. -/

namespace Unchecked

/-- Why a record cannot be written. -/
inductive Fault
  | absent (record attr : String)
  | lack (l : Value.Lack)
  deriving Repr

/-- The text of a fault. -/
def Fault.message : Fault → String
  | absent record attr => "'" ++ record ++ "' object has no attribute '" ++ attr ++ "'"
  | lack l => l.message

/-- The value of a field that has to be given. -/
def demand (u : Unchecked) (name : String) : Except Fault Value :=
  match u.values.lookup name with
  | some v => .ok v
  | none => .error (.absent u.record name)

/-- The parts of a list, none of which has the member that is asked for. -/
def withoutParts (member : String) (v : Value) : Except Fault (List Value) :=
  match v.parts with
  | .ok [] => .ok []
  | .ok (part :: _) => .error (.lack (.member part.kind member))
  | .error l => .error (.lack l)

end Unchecked

/-- An unchecked field without values. -/
def Field.blank : Unchecked :=
  { record := Field.recordName
    slots := [⟨"name", "name"⟩, ⟨"type", "type"⟩, ⟨"required", "required"⟩,
      ⟨"description", "description"⟩, ⟨"constraints", "constraints"⟩]
    isOpen := false
    derived := Field.derivedNames
    values := [] }

/-- An unchecked field on the wire. -/
def Field.writeUnchecked (u : Unchecked) : Except Unchecked.Fault Value := do
  let name ← u.demand "name"
  let type ← u.demand "type"
  let required := (u.values.lookup "required").getD (.bool false)
  let description : Entries String Value := match u.get "description" with
    | .null => []
    | v => [("description", v)]
  match u.get "constraints" with
  | .null => return .obj ([("name", name), ("type", type), ("required", required)] ++ description)
  | v => throw (.lack (.member v.kind "to_wire"))

/-- An unchecked entity without values. -/
def Entity.blank : Unchecked :=
  { record := Entity.recordName
    slots := [⟨"name", "name"⟩, ⟨"table_name", "tableName"⟩, ⟨"description", "description"⟩,
      ⟨"fields", "fields"⟩]
    isOpen := false
    derived := Entity.derivedNames
    values := [] }

/-- An unchecked entity on the wire. -/
def Entity.writeUnchecked (u : Unchecked) : Except Unchecked.Fault Value := do
  let name ← u.demand "name"
  let fields ← u.demand "fields"
  return .obj [("name", name), ("tableName", (u.values.lookup "table_name").getD (.str "")),
    ("description", u.get "description"),
    ("fields", .list (← Unchecked.withoutParts "to_wire" fields))]

/-- An unchecked model without values. -/
def Model.blank : Unchecked :=
  { record := Model.recordName
    slots := [⟨"entities", "entities"⟩, ⟨"relationships", "relationships"⟩]
    isOpen := false
    derived := Model.derivedNames
    values := [] }

/-- An unchecked model on the wire; its entities are looked at by name first. -/
def Model.writeUnchecked (u : Unchecked) : Except Unchecked.Fault Value := do
  let entities := (u.values.lookup "entities").getD (.list [])
  let relationships := (u.values.lookup "relationships").getD (.list [])
  return .obj [("entities", .list (← Unchecked.withoutParts "name" entities)),
    ("relationships", .list (← Unchecked.withoutParts "to_wire" relationships))]

/-! ## 6. Models in use -/

/-- A model in use: something else may have been stored in place of the table in which it looks up
entities by name. -/
structure Model.InUse where
  model : Model
  table : Option Value := none

namespace Model.InUse

/-- The name under which a model keeps its table of entities. -/
def tableName : String := "_entity_map"

/-- Assigns a value. -/
def set (u : InUse) (attr : String) (v : Value) : Except Edit.Fault InUse :=
  if attr = tableName then .ok { u with table := some v }
  else (u.model.set attr v).map fun m => { u with model := m }

/-- Assigns to a model in use; records can be assigned to its fields alone. -/
def assign (u : InUse) : Assignment → Except Edit.Fault InUse
  | .value attr v => u.set attr v
  | a => (u.model.assign a).map fun m => { u with model := m }

/-- What is found under a name, as messages show it. -/
def find? (u : InUse) (name : String) : Except Unchecked.Fault (Option String) :=
  match u.table with
  | none => .ok ((u.model.entity? name).map Entity.inspect)
  | some (.map entries) =>
    match Value.member? name entries with
    | none | some .null => .ok none
    | some v => .ok (some v.literal)
  | some v => .error (.lack (.member v.kind "get"))

/-- What is found at the ends of a relationship, if there is something at both. -/
def resolve (u : InUse) (r : Relationship) : Except Unchecked.Fault (Option (String × String)) := do
  match ← u.find? r.source, ← u.find? r.target with
  | some source, some target => return some (source, target)
  | _, _ => return none

end Model.InUse

end Schemata
