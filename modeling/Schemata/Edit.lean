import Schemata.Config
import Schemata.Model.Basic
/-!
# Assignments to records

`Field.set`, `Entity.set`, `Model.set` and `Config.set` assign a loosely typed value to a field of a
record.  The value is read as it is when the whole record is read; a value that does not fit changes
nothing.

* Names derived from other fields cannot be assigned, nor can names that are no fields.
* `Model.assign` takes lists of records as well, as far as they are records already.
* `Model.set` leaves alone the index in which names are looked up.
-/

namespace Schemata

open Coercion

namespace Edit

/-- Why an assignment fails. -/
inductive Fault
  | complaints (cs : List Complaint)
  | readOnly (record attr : String)
  | noField (record attr : String)
  deriving Repr

/-- The text of a fault; complaints have texts of their own. -/
def Fault.message : Fault → String
  | complaints cs => "; ".intercalate (cs.map fun c => c.cause.message)
  | readOnly record attr =>
    "property '" ++ attr ++ "' of '" ++ record ++ "' object has no setter"
  | noField record attr =>
    "\"" ++ record ++ "\" object has no field \"" ++ attr ++ "\""

/-- Whether a name is private: anything can be stored under it. -/
def isPrivate (attr : String) : Bool := attr.startsWith "_"

/-- Assigns a value that has been read. -/
def assign {α ρ : Type} (attr : String) (value : Checked α) (update : α → ρ) :
    Except Fault ρ :=
  match value.under (.key attr) with
  | .ok a => .ok (update a)
  | .bad cs => .error (.complaints cs)

/-- What assigning to a name that is no field does to a record of checked fields. -/
def refuse {ρ : Type} (record : String) (derived : List String) (attr : String) (r : ρ) :
    Except Fault ρ :=
  if isPrivate attr then .ok r
  else if derived.contains attr then .error (.readOnly record attr)
  else .error (.complaints [⟨[.key attr], .noAttribute attr⟩])

/-- An item of a list that is assigned: a record, or a value that a record is read from. -/
inductive Item (ρ : Type)
  | record (r : ρ)
  | loose (v : Value)

/-- What an item is taken for: a record is not looked at again. -/
def Item.read {ρ : Type} (read : Value → Checked ρ) : Item ρ → Checked ρ
  | record r => .ok r
  | loose v => read v

/-- Names that every record derives. -/
def derivedNames : List String := ["model_extra", "model_fields_set"]

end Edit

namespace Field

/-- Names derived from other fields. -/
def derivedNames : List String :=
  ["field_type", "rules", "is_primary", "is_unique", "is_auto_increment"] ++ Edit.derivedNames

/-- Assigns a value to a field's attribute. -/
def set (f : Field) (attr : String) (v : Value) : Except Edit.Fault Field :=
  match attr with
  | "name" => Edit.assign attr (nonEmptyText v) fun x => { f with name := x }
  | "type" => Edit.assign attr (text v) fun x => { f with type := x }
  | "required" => Edit.assign attr (readRequired v) fun x => { f with required := x }
  | "description" =>
    Edit.assign attr (optional text v) fun x => { f with description := x }
  | "constraints" =>
    Edit.assign attr (optional Constraints.read v) fun x => { f with constraints := x }
  | _ => Edit.refuse recordName derivedNames attr f

end Field

namespace Entity

/-- Names derived from other fields. -/
def derivedNames : List String := "field_names" :: Edit.derivedNames

/-- Assigns a value to an entity's attribute. -/
def set (e : Entity) (attr : String) (v : Value) : Except Edit.Fault Entity :=
  match attr with
  | "name" => Edit.assign attr (nonEmptyText v) fun x => { e with name := x }
  | "table_name" => Edit.assign attr (text v) fun x => { e with tableName := x }
  | "description" =>
    Edit.assign attr (optional text v) fun x => { e with description := x }
  | "fields" => Edit.assign attr (listOf Field.read v) fun x => { e with fields := x }
  | _ => Edit.refuse recordName derivedNames attr e

end Entity

namespace Model

/-- Names derived from other fields. -/
def derivedNames : List String := ["entity_names", "total_fields"] ++ Edit.derivedNames

/-- Assigns a value to a model's attribute.  Names are still looked up in the index that was made
when the model was read. -/
def set (m : Model) (attr : String) (v : Value) : Except Edit.Fault Model :=
  match attr with
  | "entities" =>
    Edit.assign attr (listOf Entity.read v) fun x => { m with entities := x }
  | "relationships" =>
    Edit.assign attr (readRelationships v) fun x => { m with relationships := x }
  | _ => Edit.refuse recordName derivedNames attr m

/-- What is assigned to a model: a value, or a list with records in it. -/
inductive Assignment
  | value (attr : String) (v : Value)
  | entities (items : List (Edit.Item Entity))
  | relationships (items : List (Edit.Item Relationship))

/-- Assigns to a model. -/
def assign (m : Model) : Assignment → Except Edit.Fault Model
  | .value attr v => m.set attr v
  | .entities items =>
    Edit.assign "entities" (Checked.each (Edit.Item.read Entity.read) 0 items) fun x =>
      { m with entities := x }
  | .relationships items =>
    Edit.assign "relationships" (Checked.each (Edit.Item.read Relationship.read) 0 items) fun x =>
      { m with relationships := x }

end Model

namespace Config

/-- Assigns a value to a setting. -/
def set (c : Config) (attr : String) (v : Value) : Except Edit.Fault Config :=
  let textual (update : String → Config) := Edit.assign attr (text v) update
  match attr with
  | "schema_id" => textual fun x => { c with schemaId := x }
  | "schema_title" => textual fun x => { c with schemaTitle := x }
  | "schema_description" => textual fun x => { c with schemaDescription := x }
  | "api_title" => textual fun x => { c with apiTitle := x }
  | "api_description" => textual fun x => { c with apiDescription := x }
  | "api_version" => textual fun x => { c with apiVersion := x }
  | "contact_name" => textual fun x => { c with contactName := x }
  | "contact_url" => textual fun x => { c with contactUrl := x }
  | "servers" => Edit.assign attr (listOf Server.read v) fun x => { c with servers := x }
  | "default_page_size" =>
    Edit.assign attr (readPageSize v) fun x => { c with defaultPageSize := x }
  | "code_example_base_url" => textual fun x => { c with exampleBaseUrl := x }
  | "diagram_type" => textual fun x => { c with diagramType := x }
  | "include_alternative_diagrams" =>
    Edit.assign attr (boolean v) fun x => { c with includeAlternatives := x }
  | "parallel" => Edit.assign attr (boolean v) fun x => { c with parallel := x }
  | "max_workers" => Edit.assign attr (readWorkers v) fun x => { c with maxWorkers := x }
  | _ => Edit.refuse recordName Edit.derivedNames attr c

end Config

end Schemata
