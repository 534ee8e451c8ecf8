import Schemata.JsonSchema
import Schemata.Proofs.Interface
/-!
# The documents of one model agree

The JSON Schema document, the component schemas and the three sets of client snippets are filled by
loops of their own over one model.  An entity or field that has the name of an earlier one takes
its place there, so that what a document says of a name comes from the last bearer, at the place of
the first.

* `documents_agree`: all five maps by entity have the same keys in the same order, and under each
  of them definition, component and example have the same fields in the same order, and the same
  fields are required.
* `describeAlike`: definition and component of one entity, field by field.
-/

namespace Schemata

open Value (textKeys)

/-! ## 1. One entity -/

/-- A definition and a component schema that agree on the names of the fields, the component also in
its example, and on the required ones.  A component has no empty list of required fields. -/
structure DescribeAlike (definition component : Value) (fields needed : List String) :
    Prop where
  properties : definition.keysAt? ["properties"] = some (textKeys fields)
  componentProperties : component.keysAt? ["properties"] = some (textKeys fields)
  sample : component.keysAt? ["example"] = some (textKeys fields)
  required : definition.at? ["required"] = some (.texts needed)
  componentRequired :
    component.at? ["required"] = if needed = [] then none else some (.texts needed)

theorem definition_properties (e : Entity) :
    (JsonSchema.definition e).at? ["properties"]
      = some (.obj (Entries.ofList (e.fields.map fun f => (f.name, JsonSchema.property f)))) := by
  simp [JsonSchema.definition, Value.at?, Value.get?_obj, List.lookup_cons]

theorem definition_required (e : Entity) :
    (JsonSchema.definition e).at? ["required"]
      = some (.texts (OpenApi.requiredNames e)) := by
  simp [JsonSchema.definition, OpenApi.requiredNames, Value.at?, Value.get?_obj, List.lookup_cons]

theorem component_properties (e : Entity) (stamp : String) :
    (OpenApi.componentSchema e stamp).at? ["properties"]
      = some (.obj (Entries.ofList
          (e.fields.map fun f => (f.name, OpenApi.propertySchema f)))) := by
  simp [OpenApi.componentSchema, Value.at?, Value.get?_obj, List.lookup_cons]

theorem component_example (e : Entity) (stamp : String) :
    (OpenApi.componentSchema e stamp).at? ["example"]
      = some (.obj (OpenApi.exampleRecord e stamp)) := by
  simp only [OpenApi.componentSchema, OpenApi.requiredEntry, Value.at?, Value.get?_obj]
  split <;> simp [List.lookup_cons]

theorem component_required (e : Entity) (stamp : String) :
    (OpenApi.componentSchema e stamp).at? ["required"]
      = if OpenApi.requiredNames e = [] then none
        else some (.texts (OpenApi.requiredNames e)) := by
  simp only [OpenApi.componentSchema, OpenApi.requiredEntry, Value.at?, Value.get?_obj,
    List.isEmpty_iff]
  split <;> simp [List.lookup_cons]

/-- The keys of a map that is made of the fields of an entity. -/
theorem keys_ofList_fields (e : Entity) (value : Field → Value) :
    (Entries.ofList (e.fields.map fun f => (f.name, value f))).keys = e.fieldNames.eraseDups :=
  Entries.keys_ofList_map e.fields Field.name value

/-- **One entity.**  What is made of it for either document names its fields where they first
occur. -/
theorem describeAlike (e : Entity) (stamp : String) :
    DescribeAlike (JsonSchema.definition e) (OpenApi.componentSchema e stamp)
      e.fieldNames.eraseDups (OpenApi.requiredNames e) where
  properties := by
    rw [Value.keysAt?_of_at? (definition_properties e), keys_ofList_fields]
  componentProperties := by
    rw [Value.keysAt?_of_at? (component_properties e stamp), keys_ofList_fields]
  sample := by
    rw [Value.keysAt?_of_at? (component_example e stamp), OpenApi.exampleRecord,
      keys_ofList_fields]
  required := definition_required e
  componentRequired := component_required e stamp

/-! ## 2. Maps by entity -/

/-- The last entity of a name. -/
def Model.lastNamed? (m : Model) (name : String) : Option Entity :=
  m.entities.reverse.find? fun e => name == e.name

theorem Model.lastNamed?_of_mem {m : Model} {name : String} (h : name ∈ m.entityNames) :
    ∃ e ∈ m.entities, e.name = name ∧ m.lastNamed? name = some e := by
  obtain ⟨e₀, he₀, hname⟩ := List.mem_map.mp h
  have hsome : (m.lastNamed? name).isSome = true := by
    rw [Model.lastNamed?, List.find?_isSome]
    exact ⟨e₀, List.mem_reverse.mpr he₀, by simp [hname]⟩
  obtain ⟨e, he⟩ := Option.isSome_iff_exists.mp hsome
  have hbeq : (name == e.name) = true := by
    unfold Model.lastNamed? at he
    simpa using List.find?_some he
  exact ⟨e, List.mem_reverse.mp (List.mem_of_find?_eq_some he), (eq_of_beq hbeq).symm, he⟩

theorem lookup_ofList_entities (m : Model) (value : Entity → Value) (name : String) :
    (Entries.ofList (m.entities.map fun e => (e.name, value e))).lookup name
      = (m.lastNamed? name).map value := by
  rw [Entries.lookup_ofList_map]
  rfl

theorem definitions_at? {config : Config} {clock : Clock} {m : Model} {schema : Value}
    (h : JsonSchema.document config clock m = .ok schema) :
    schema.at? ["definitions"] = some (.obj (JsonSchema.definitions m)) := by
  obtain ⟨stamp, -, rfl⟩ := JsonSchema.document_eq_ok h
  rfl

/-- The definitions are listed by the names of the entities. -/
theorem definitions_keysAt? {config : Config} {clock : Clock} {m : Model} {schema : Value}
    (h : JsonSchema.document config clock m = .ok schema) :
    schema.keysAt? ["definitions"] = some (textKeys m.entityNames.eraseDups) := by
  rw [Value.keysAt?_of_at? (definitions_at? h), JsonSchema.definitions, Entries.keys_ofList_map,
    Model.entityNames]

/-- The kinds of client snippets. -/
def snippetKinds : List String := ["javascript", "python", "curl"]

/-- The snippets of every kind are listed by the names of the entities. -/
theorem codeExamples_keys {entities : List Entity} {base path stamp : String} {examples : Value}
    (h : OpenApi.codeExamples entities base path stamp = .ok examples) :
    ∀ kind ∈ snippetKinds,
      examples.keysAt? [kind] = some (textKeys (entities.map Entity.name).eraseDups) := by
  obtain ⟨each, heach, hpure⟩ := bind_eq_ok.mp h
  cases hpure
  have hnames : each.map Prod.fst = entities.map Entity.name := by
    refine map_mapM_eq (fun e p hp => ?_) heach
    obtain ⟨s, _, hs⟩ := bind_eq_ok.mp hp
    cases hs
    rfl
  intro kind hkind
  simp only [snippetKinds, List.mem_cons, List.not_mem_nil, or_false] at hkind
  rcases hkind with rfl | rfl | rfl <;>
    simp [Value.keysAt?, Value.at?, Value.get?_obj, List.lookup_cons, Value.keys?_obj,
      Entries.keys_ofList_map, hnames]

/-! ## 3. All documents -/

/-- **The documents agree.**  For any model, repeated names included: wherever both documents are
made, be it with different settings or at different times, everything that is listed by entity has
the names of the entities for keys, each where it first occurs, and under every name definition and
component describe the same entity alike. -/
theorem documents_agree {config config' : Config} {clock clock' : Clock} {m : Model}
    {schema api : Value} (hs : JsonSchema.document config clock m = .ok schema)
    (ha : OpenApi.generate config' clock' m = .ok api) :
    schema.keysAt? ["definitions"] = some (textKeys m.entityNames.eraseDups) ∧
    api.keysAt? ["openApiSpec", "components", "schemas"]
      = some (textKeys m.entityNames.eraseDups) ∧
    (∀ kind ∈ snippetKinds,
      api.keysAt? ["codeExamples", kind] = some (textKeys m.entityNames.eraseDups)) ∧
    ∀ name ∈ m.entityNames, ∃ e ∈ m.entities, e.name = name ∧
      ∃ definition component,
        schema.at? ["definitions", name] = some definition ∧
        api.at? ["openApiSpec", "components", "schemas", name] = some component ∧
        DescribeAlike definition component e.fieldNames.eraseDups (OpenApi.requiredNames e) := by
  obtain ⟨stamp, spec, -, hd⟩ := OpenApi.exists_description ha
  have hdefs := definitions_at? hs
  refine ⟨?_, ?_, ?_, ?_⟩
  · rw [Value.keysAt?_of_at? hdefs, JsonSchema.definitions, Entries.keys_ofList_map]
    rfl
  · rw [Value.keysAt?, hd.at?_spec, ← Value.keysAt?, Value.keysAt?_of_at? hd.schemasAt,
      OpenApi.schemas, Entries.keys_ofList_map]
    rfl
  · intro kind hkind
    obtain ⟨base, path, examples, hexamples, hat⟩ := hd.examplesAt
    have hcut : ["codeExamples", kind] = ["codeExamples"] ++ [kind] := rfl
    rw [hcut, Value.keysAt?_append, hat, Option.bind_some, codeExamples_keys hexamples kind hkind]
    rfl
  · intro name hname
    obtain ⟨e, he, hen, hlast⟩ := Model.lastNamed?_of_mem hname
    refine ⟨e, he, hen, _, _, ?_, ?_, describeAlike e stamp⟩
    · have hcut : ["definitions", name] = ["definitions"] ++ [name] := rfl
      rw [hcut, Value.at?_append, hdefs, Option.bind_some, Value.at?_cons, Value.get?_obj,
        JsonSchema.definitions, lookup_ofList_entities, hlast]
      rfl
    · have hcut : ["components", "schemas", name] = ["components", "schemas"] ++ [name] := rfl
      rw [hd.at?_spec, hcut, Value.at?_append, hd.schemasAt, Option.bind_some, Value.at?_cons,
        Value.get?_obj, OpenApi.schemas, lookup_ofList_entities, hlast]
      rfl

/-- Two users around an order; the second has two fields of one name. -/
def twins : Model :=
  .of [⟨"user", "users", none, [⟨"id", "number", true, none, none⟩]⟩,
    ⟨"order", "orders", none, []⟩,
    ⟨"user", "people", none, [⟨"x", "string", true, none, none⟩,
      ⟨"y", "date", false, none, none⟩, ⟨"x", "array", false, none, none⟩]⟩] []

/-- A moment later than that of the standard clock. -/
def later : Clock := .at ⟨⟨2024, 1, 15⟩, 10, 30, 1, 0, some .utc⟩

theorem documents_agree_twins :
    ∃ schema api, JsonSchema.document {} .standard twins = .ok schema ∧
      OpenApi.generate {} later twins = .ok api ∧
      schema.keysAt? ["definitions"] = some (textKeys ["user", "order"]) ∧
      (∀ kind ∈ snippetKinds,
        api.keysAt? ["codeExamples", kind] = some (textKeys ["user", "order"])) ∧
      ∃ definition component,
        schema.at? ["definitions", "user"] = some definition ∧
        api.at? ["openApiSpec", "components", "schemas", "user"] = some component := by
  have hs : (JsonSchema.document {} .standard twins).toBool = true := by decide +kernel
  have ha : (OpenApi.generate {} later twins).toBool = true := by decide +kernel
  obtain ⟨schema, hs⟩ := toBool_eq_true.mp hs
  obtain ⟨api, ha⟩ := toBool_eq_true.mp ha
  have hnames : twins.entityNames.eraseDups = ["user", "order"] := by decide
  obtain ⟨hdefs, -, hsnippets, hentity⟩ := documents_agree hs ha
  rw [hnames] at hdefs hsnippets
  obtain ⟨e, -, -, definition, component, hd, hc, -⟩ := hentity "user" (by decide)
  exact ⟨schema, api, hs, ha, hdefs, hsnippets, definition, component, hd, hc⟩

end Schemata
