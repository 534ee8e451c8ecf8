import Schemata.Proofs.Names
import Schemata.Proofs.Tables
/-!
# The model behind a document

The schema document has all that a model has, though not in the places where a model has it: type
tokens, constraint maps and table names stand under `metadata`, required fields are listed apart,
and descriptions that are missing or empty have been filled in.

* `Recovery.model`: reads a document back.
* `Model.filled`: a model with the descriptions and constraint maps that its document gives it.
* `recover_document`: what is read from the document of a model without repeated names is that
  model, filled.
-/

namespace Schemata

/-! ## 1. Reading a document back -/

namespace Recovery

/-- The entries of the map under a key. -/
def members? (key : String) (v : Value) : Option (Entries String Value) :=
  match v.get? key with
  | some (.map entries) => some (Coercion.textEntries entries)
  | _ => none

/-- The field that a property is the schema of. -/
def field (required : List Value) : String × Value → Option Value
  | (name, property) => do
    let type ← property.at? ["metadata", "originalType"]
    let description ← property.at? ["description"]
    let constraints ← property.at? ["metadata", "constraints"]
    return .obj [("name", .str name), ("type", type),
      ("required", .bool (Convert.isRequired required (.str name))),
      ("description", description), ("constraints", constraints)]

/-- The entity that a definition is the schema of. -/
def entity : String × Value → Option Value
  | (name, definition) => do
    let table ← definition.at? ["metadata", "tableName"]
    let description ← definition.at? ["title"]
    let properties ← members? "properties" definition
    let fields ← properties.mapM (field (definition.itemsUnder "required"))
    return .obj [("name", .str name), ("tableName", table), ("description", description),
      ("fields", .list fields)]

/-- The model that a document is made of. -/
def model (document : Value) : Option Value := do
  let definitions ← members? "definitions" document
  let entities ← definitions.mapM entity
  let relationships ← document.at? ["relationships"]
  return .obj [("entities", .list entities), ("relationships", relationships)]

end Recovery

/-! ## 2. What a document fills in -/

/-- A field with a description and a constraint map, which may be empty. -/
def Field.filled (f : Field) : Field :=
  { f with description := some (f.description.getD ""), constraints := some f.rules }

/-- An entity with its fields filled, and with its name for a description where it has none, or an
empty one. -/
def Entity.filled (e : Entity) : Entity :=
  { e with
    description := some
      (if e.description = none ∨ e.description = some "" then e.name else e.description.getD "")
    fields := e.fields.map Field.filled }

/-- A model with its entities filled. -/
def Model.filled (m : Model) : Model := { m with entities := m.entities.map Entity.filled }

/-! ## 3. What is read back -/

namespace Recovery

theorem members?_obj {key : String} {es sub : Entries String Value}
    (h : es.lookup key = some (.obj sub)) : members? key (.obj es) = some sub := by
  rw [members?, Value.get?_obj, h]
  exact congrArg some (Coercion.textEntries_textMembers sub)

theorem field_property (f : Field) {required : List Value}
    (hrequired : Convert.isRequired required (.str f.name) = f.required) :
    field required (f.name, JsonSchema.property f) = some f.filled.toWire := by
  have hmetadata : (JsonSchema.property f).get? "metadata" = some (JsonSchema.fieldMetadata f) := by
    rw [Convert.property_eq, Value.get?_obj, Convert.lookup_metadata]
  have htype : (JsonSchema.property f).at? ["metadata", "originalType"] = some (.str f.type) := by
    rw [Value.at?_cons, hmetadata]
    rfl
  have hconstraints : (JsonSchema.property f).at? ["metadata", "constraints"]
      = some (.obj f.rules.wire) := by
    rw [Value.at?_cons, hmetadata, ← Convert.wireConstraints_eq]
    rfl
  have hdescription : (JsonSchema.property f).at? ["description"]
      = some (.str (f.description.getD "")) := rfl
  simp only [field, htype, hdescription, hconstraints, hrequired]
  rfl

/-- The title of an entity is the description that is filled in. -/
theorem title_eq (e : Entity) : e.filled.description = some e.title := by
  obtain ⟨name, table, description, fields⟩ := e
  cases description with
  | none => rfl
  | some text =>
    by_cases htext : text = "" <;> simp [Entity.filled, Entity.title, Entity.describedAs, htext]

theorem entity_definition {e : Entity} (hfields : e.fieldNames.Nodup) :
    entity (e.name, JsonSchema.definition e) = some e.filled.toWire := by
  have hproperties : members? "properties" (JsonSchema.definition e)
      = some (e.fields.map fun f => (f.name, JsonSchema.property f)) :=
    members?_obj (Convert.lookup_properties hfields)
  have hread : (e.fields.map fun f => (f.name, JsonSchema.property f)).mapM
      (field ((JsonSchema.definition e).itemsUnder "required"))
        = some (e.fields.map fun f => f.filled.toWire) := by
    rw [List.mapM_map]
    exact mapM_eq_pure fun f hf => field_property f
      ((Convert.isRequired_texts _ _).trans (Convert.contains_required hfields hf))
  have htable : (JsonSchema.definition e).at? ["metadata", "tableName"]
      = some (.str e.tableName) := rfl
  have htitle : (JsonSchema.definition e).at? ["title"] = some (.str e.title) := rfl
  simp only [entity, htable, htitle, hproperties, hread, Option.bind_eq_bind, Option.bind_some]
  rw [Entity.toWire, title_eq, Entity.filled, List.map_map]
  rfl

theorem model_documentAt {m : Model} (hentities : m.entityNames.Nodup)
    (hfields : ∀ e ∈ m.entities, e.fieldNames.Nodup) (config : Config) (stamp : String) :
    model (JsonSchema.documentAt config m stamp) = some m.filled.toWire := by
  have hdefinitions : members? "definitions" (JsonSchema.documentAt config m stamp)
      = some (m.entities.map fun e => (e.name, JsonSchema.definition e)) := by
    obtain ⟨es, hes, hlookup⟩ := Convert.lookup_definitions hentities config stamp
    rw [hes, members?_obj hlookup]
  have hread : (m.entities.map fun e => (e.name, JsonSchema.definition e)).mapM entity
      = some (m.entities.map fun e => e.filled.toWire) := by
    rw [List.mapM_map]
    exact mapM_eq_pure fun e he => entity_definition (hfields e he)
  have hrelationships : (JsonSchema.documentAt config m stamp).at? ["relationships"]
      = some (.list (m.relationships.map Relationship.toWire)) := rfl
  simp only [model, hdefinitions, hread, hrelationships, Option.bind_eq_bind, Option.bind_some]
  rw [Model.toWire, Model.filled, List.map_map]
  rfl

end Recovery

/-- **A document tells its model.**  Of a model in which the lint reports no repeated names, what is
read back from the schema document is that model on the wire, with its entities and fields in order:
names, table names, type tokens, required flags, constraint maps and relationships as they are.  The
description of an entity is as it is, too, unless it is missing or empty: then its name stands for
it.  A field without a description or a constraint map has an empty one.  Neither the settings nor
the time matter. -/
theorem recover_document {m : Model}
    (hentities : ∀ i ∈ Lint.entityNames m, i.code ≠ "DUPLICATE_ENTITY_NAME")
    (hfields : ∀ i ∈ Lint.fieldNames m, i.code ≠ "DUPLICATE_FIELD_NAME")
    {config : Config} {clock : Clock} {schema : Value}
    (hs : JsonSchema.document config clock m = .ok schema) :
    Recovery.model schema = some m.filled.toWire := by
  obtain ⟨stamp, -, rfl⟩ := JsonSchema.document_eq_ok hs
  exact Recovery.model_documentAt (Lint.entityNames_nodup_iff.mp hentities)
    (Lint.fieldNames_nodup_iff.mp hfields) config stamp

/-- A box with a description, whose tags are texts, with a constraint that no schema knows; and a
lid whose description is empty. -/
def taggedBox : Model :=
  .of [⟨"box", "crates", some "A crate with labels", [⟨"size", "Decimal", true, none, none⟩,
        ⟨"tags", "array", false, some "Labels", some (.ofEntries [(.str "items", .obj
          [("type", .str "string")]), (.str "sorted", .null)])⟩]⟩,
      ⟨"lid", "lids", some "", []⟩]
    [⟨"box", "lid", none, none, [("from", .str "box"), ("to", .str "lid"), ("deep", .bool true)]⟩]

/-- Its document tells the description of the box, the type tokens and the constraint that no schema
knows; the lid has its name for a description. -/
theorem recover_document_box :
    ∃ schema, JsonSchema.document {} .standard taggedBox = .ok schema ∧
      (∀ i ∈ Lint.entityNames taggedBox, i.code ≠ "DUPLICATE_ENTITY_NAME") ∧
      (∀ i ∈ Lint.fieldNames taggedBox, i.code ≠ "DUPLICATE_FIELD_NAME") ∧
      Recovery.model schema = some (.obj [
        ("entities", .list [
          .obj [("name", .str "box"), ("tableName", .str "crates"),
            ("description", .str "A crate with labels"), ("fields", .list [
              .obj [("name", .str "size"), ("type", .str "Decimal"), ("required", .bool true),
                ("description", .str ""), ("constraints", .obj [])],
              .obj [("name", .str "tags"), ("type", .str "array"), ("required", .bool false),
                ("description", .str "Labels"), ("constraints", .obj
                  [("items", .obj [("type", .str "string")]), ("sorted", .null)])]])],
          .obj [("name", .str "lid"), ("tableName", .str "lids"), ("description", .str "lid"),
            ("fields", .list [])]]),
        ("relationships", .list [.obj [("from", .str "box"), ("to", .str "lid"),
          ("deep", .bool true)]])]) := by
  obtain ⟨schema, hs⟩ : ∃ schema, JsonSchema.document {} .standard taggedBox = .ok schema :=
    ⟨_, rfl⟩
  have hentities : ∀ i ∈ Lint.entityNames taggedBox, i.code ≠ "DUPLICATE_ENTITY_NAME" := by
    decide +kernel
  have hfields : ∀ i ∈ Lint.fieldNames taggedBox, i.code ≠ "DUPLICATE_FIELD_NAME" := by
    decide +kernel
  exact ⟨schema, hs, hentities, hfields, recover_document hentities hfields hs⟩

end Schemata
