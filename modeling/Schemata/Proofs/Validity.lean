import Schemata.MetaSchema.Verdict
import Schemata.Proofs.Completeness
import Schemata.Proofs.Draft
import Schemata.Proofs.Echo
import Schemata.Proofs.Names
import Schemata.Proofs.Renderings
/-!
# When a schema document is valid

The schema document of a model is judged by the draft that it names.  Everything that it copies from
the model has to suit the draft there.

* `Field.IsSound`: what the copied constraints of a field have to be.
* `accepts_property_iff`, `accepts_definition_iff`, `accepts_documentAt_iff`: the draft accepts
  exactly what is sound, from the fields up.
* `schema_valid_iff`: the verdict on the document of a model in which the lint finds no error.
-/

namespace Schemata

open Schemata.Convert (propertyEntries definitionEntries property_eq definition_eq)
open MetaSchema (Accepts Dialect Form violations)
open MetaSchema.Draft202012 (Suits suits_iff suits_of_none suits_of_accepts accepts_obj_of_suits)

/-! ## 1. Documents of JSON -/

/-- The constraints that documents copy are of JSON. -/
structure Constraints.AreJson (c : Constraints) : Prop where
  default : ∀ v, c.default = some v → v.isJson = true
  choices : ∀ vs, c.choices = some vs → (Value.list vs).isJson = true
  items : ∀ es, c.items = some es → (Value.obj es).isJson = true
  wire : (Value.obj c.wire).isJson = true

/-- The entries of a map of JSON under other names are of JSON. -/
theorem Value.isJson_renamed {given : List (Scalar × Value)} (h : (map given).isJson = true)
    (rename : String → String) :
    (obj (Entries.ofList ((Coercion.textEntries given).map fun (k, v) => (rename k, v)))).isJson
      = true := by
  refine isJson_obj.mpr fun p hp => ?_
  obtain ⟨q, hq, rfl⟩ := List.mem_map.mp (Entries.mem_ofList hp)
  exact hereditary_isJson.entry h (Coercion.mem_textEntries.mp hq)

theorem Constraints.areJson_ofEntries {given : List (Scalar × Value)}
    (h : (Value.map given).isJson = true) : (ofEntries given).AreJson where
  default v hv := Value.hereditary_isJson.field h hv
  choices vs hvs := by
    obtain ⟨v, hv, -, hlist⟩ := view?_eq_some.mp hvs
    exact Coercion.isJson_of_list (Value.hereditary_isJson.field h hv) hlist
  items es hes := by
    obtain ⟨v, hv, -, hread⟩ := view?_eq_some.mp hes
    exact Coercion.isJson_of_dictionary (Value.hereditary_isJson.field h hv) hread
  wire := Value.isJson_renamed h ConstraintKey.wireNameOf

/-- The constraints of a model of JSON are of JSON. -/
theorem Model.areJson_rules {raw : Value} {m : Model} (hraw : raw.isJson = true)
    (hm : Model.normalize raw = .ok m) {e : Entity} (he : e ∈ m.entities) {f : Field}
    (hf : f ∈ e.fields) : f.rules.AreJson := by
  obtain ⟨given, hgiven, hjson⟩ := Model.exists_given Value.hereditary_isJson rfl hraw hm he hf
  rw [hgiven]
  exact Constraints.areJson_ofEntries hjson

theorem Relationship.isJson_toWire {v : Value} {r : Relationship} (hv : v.isJson = true)
    (hr : Relationship.read v = .ok r) : r.toWire.isJson = true := by
  obtain ⟨given, rfl, -, -, -, -, hwire, -⟩ := Relationship.read_eq_ok.mp hr
  rw [toWire, hwire]
  exact Value.isJson_renamed hv wireNameOf

/-- The relationships of a model of JSON are echoed as JSON. -/
theorem Model.isJson_relationships {raw : Value} {m : Model} (hraw : raw.isJson = true)
    (hm : Model.normalize raw = .ok m) {r : Relationship} (hr : r ∈ m.relationships) :
    r.toWire.isJson = true := by
  have hmem : Checked.ok r ∈ (givenRelationships raw).map Relationship.read := by
    rw [map_read_givenRelationships hm]
    exact List.mem_map_of_mem hr
  obtain ⟨v, hv, hread⟩ := List.mem_map.mp hmem
  obtain ⟨entries, u, items, rfl, hu, hitems, hitem⟩ := Value.mem_itemsUnder hv
  have hlist := Coercion.isJson_of_list (Value.hereditary_isJson.member hraw hu) hitems
  exact Relationship.isJson_toWire (Value.hereditary_isJson.item hlist hitem) hread

namespace JsonSchema

/-- What holds of an entry that may be left out. -/
theorem forall_mem_optional {key : String} {o : Option Value} {P : String × Value → Prop} :
    (∀ p ∈ entry? key o, P p) ↔ ∀ v, o = some v → P (key, v) := by
  cases o <;> simp [ entry?]

/-- The limits of a field, by its kind. -/
theorem forall_mem_limits {f : Field} {P : String × Value → Prop}
    (htext : f.kind.isText = true →
      (∀ n, f.rules.maxLength = some n → P ("maxLength", .int n)) ∧
      (∀ n, f.rules.minLength = some n → P ("minLength", .int n)) ∧
      ∀ s, f.rules.pattern = some s → P ("pattern", .str s))
    (hnumeric : (∀ x, f.rules.minimum = some x → P ("minimum", x.toValue)) ∧
      ∀ x, f.rules.maximum = some x → P ("maximum", x.toValue))
    (harray : f.kind = .array → ∀ es, f.rules.items = some es → P ("items", .obj es)) :
    ∀ p ∈ limits f, P p := by
  unfold limits
  split
  · rename_i hkind
    obtain ⟨hmax, hmin, hpattern⟩ := htext hkind
    rw [List.forall_mem_append, List.forall_mem_append]
    simp only [forall_mem_optional, Option.map_eq_some_iff, forall_exists_index, and_imp,
      forall_apply_eq_imp_iff₂]
    exact ⟨⟨hmax, hmin⟩, hpattern⟩
  · split
    · rw [List.forall_mem_append]
      simp only [forall_mem_optional, Option.map_eq_some_iff, forall_exists_index, and_imp,
        forall_apply_eq_imp_iff₂]
      exact hnumeric
    · split
      · rename_i hkind
        simp only [forall_mem_optional, Option.map_eq_some_iff, forall_exists_index, and_imp,
          forall_apply_eq_imp_iff₂]
        exact harray hkind
      · simp

/-- The entries of the schema of a field. -/
theorem forall_mem_property {f : Field} {P : String × Value → Prop} :
    (∀ p ∈ propertyEntries f, P p) ↔
      P ("description", .str (f.description.getD "")) ∧ P ("type", .str f.kind.jsonType.name) ∧
      (∀ s, f.kind.format = some s → P ("format", .str s)) ∧ (∀ p ∈ limits f, P p) ∧
      (∀ v, f.rules.default = some v → P ("default", v)) ∧
      (∀ vs, f.rules.choices = some vs → P ("enum", .list vs)) ∧
      P ("metadata", fieldMetadata f) := by
  unfold propertyEntries
  simp only [List.forall_mem_append, List.forall_mem_cons, List.not_mem_nil, false_implies,
    implies_true, and_true, forall_mem_optional, Option.map_eq_some_iff, forall_exists_index,
    and_imp, forall_apply_eq_imp_iff₂, and_assoc]

theorem isJson_property {f : Field} (h : f.rules.AreJson) : (property f).isJson = true := by
  rw [property_eq, Value.isJson_obj, forall_mem_property]
  refine ⟨rfl, rfl, fun _ _ => rfl, ?_, h.default, h.choices, ?_⟩
  · refine forall_mem_limits (fun _ => ⟨fun _ _ => rfl, fun _ _ => rfl, fun _ _ => rfl⟩) ?_
      fun _ => h.items
    have hnumber : ∀ x : Number, x.toValue.isJson = true := fun x => by cases x <;> rfl
    exact ⟨fun x _ => hnumber x, fun x _ => hnumber x⟩
  · rw [fieldMetadata, Value.isJson_obj]
    simp only [List.forall_mem_cons, List.not_mem_nil, false_implies, implies_true, and_true]
    refine ⟨rfl, rfl, ?_⟩
    rw [Convert.wireConstraints_eq]
    exact h.wire

theorem isJson_properties {e : Entity} (h : ∀ f ∈ e.fields, f.rules.AreJson) :
    (Value.obj (Entries.ofList (e.fields.map fun f => (f.name, property f)))).isJson = true := by
  refine Value.isJson_obj.mpr fun p hp => ?_
  obtain ⟨f, hf, rfl⟩ := List.mem_map.mp (Entries.mem_ofList hp)
  exact isJson_property (h f hf)

theorem isJson_definition {e : Entity} (h : ∀ f ∈ e.fields, f.rules.AreJson) :
    (definition e).isJson = true := by
  rw [definition_eq, Value.isJson_obj]
  unfold definitionEntries
  simp only [List.forall_mem_cons, List.not_mem_nil, false_implies, implies_true, and_true]
  exact ⟨rfl, rfl, rfl, isJson_properties h, Value.isJson_texts _, rfl, rfl⟩

theorem isJson_definitions {m : Model} (h : ∀ e ∈ m.entities, ∀ f ∈ e.fields, f.rules.AreJson) :
    (Value.obj (definitions m)).isJson = true := by
  refine Value.isJson_obj.mpr fun p hp => ?_
  obtain ⟨e, he, rfl⟩ := List.mem_map.mp (Entries.mem_ofList hp)
  exact isJson_definition (h e he)

/-- **The document of a model of JSON is of JSON.** -/
theorem isJson_documentAt {raw : Value} {m : Model} (hraw : raw.isJson = true)
    (hm : Model.normalize raw = .ok m) (config : Config) (stamp : String) :
    (documentAt config m stamp).isJson = true := by
  have hrules : ∀ e ∈ m.entities, ∀ f ∈ e.fields, f.rules.AreJson := fun e he f hf =>
    Model.areJson_rules hraw hm he hf
  have hechoed : (Value.list (m.relationships.map Relationship.toWire)).isJson = true := by
    rw [Value.isJson, Value.areJson_iff, List.forall_mem_map]
    exact fun r hr => Model.isJson_relationships hraw hm hr
  unfold documentAt
  rw [Value.isJson_obj]
  simp only [List.forall_mem_cons, List.not_mem_nil, false_implies, implies_true, and_true]
  exact ⟨rfl, rfl, rfl, rfl, rfl, isJson_definitions hrules, hechoed, rfl⟩

end JsonSchema

/-! ## 2. What the draft accepts -/

/-- What the constraints of a field have to be for the draft: lengths of texts are no less than
zero, and the schema of the items of a list is a document of the draft itself. -/
structure Field.IsSound (f : Field) : Prop where
  maxLength : f.kind.isText = true → ∀ n, f.rules.maxLength = some n → 0 ≤ n
  minLength : f.kind.isText = true → ∀ n, f.rules.minLength = some n → 0 ≤ n
  items : f.kind = .array → ∀ es, f.rules.items = some es →
    violations .draft202012 (.obj es) = []

instance (f : Field) : Decidable f.IsSound :=
  decidable_of_iff
    ((f.kind.isText = true → f.rules.maxLength.all (fun n => decide (0 ≤ n)) = true) ∧
      (f.kind.isText = true → f.rules.minLength.all (fun n => decide (0 ≤ n)) = true) ∧
      (f.kind = .array →
        f.rules.items.all (fun es => (violations .draft202012 (.obj es)).isEmpty) = true)) <| by
    simp only [Option.all_eq_true, decide_eq_true_eq, List.isEmpty_iff]
    exact ⟨fun ⟨hmax, hmin, hitems⟩ => ⟨hmax, hmin, hitems⟩, fun ⟨hmax, hmin, hitems⟩ =>
      ⟨hmax, hmin, hitems⟩⟩

namespace JsonSchema

open MetaSchema

/-! ### Fields -/

theorem lookup_minLength (f : Field) :
    (propertyEntries f).lookup "minLength"
      = if f.kind.isText then f.rules.minLength.map Value.int else none := by
  have hlimits : (limits f).lookup "minLength"
      = if f.kind.isText then f.rules.minLength.map Value.int else none := by
    unfold limits
    split
    · simp [List.lookup_append, Convert.lookup_ofEntry]
    · split
      · simp [List.lookup_append, Convert.lookup_ofEntry]
      · split <;> simp [Convert.lookup_ofEntry]
  simp [propertyEntries, List.lookup_cons, List.lookup_append, Convert.lookup_ofEntry, hlimits]

theorem mem_typeNames (t : JsonType) : t.name ∈ TypeName.all.map TypeName.text := by
  cases t <;> decide

theorem accepts_document_iff {v : Value} (hjson : v.isJson = true) :
    Accepts .draft202012 Draft202012.document v ↔ Accepts .draft202012 Draft202012.schema v :=
  accepts_singleton.trans (obeys_whole_iff hjson)

/-- **Fields**: the draft accepts the schema of a field exactly if its constraints are sound. -/
theorem accepts_property_iff {f : Field} (hrules : f.rules.AreJson) :
    Accepts .draft202012 Draft202012.schema (property f) ↔ f.IsSound := by
  have hjson : (Value.obj (propertyEntries f)).isJson = true := isJson_property hrules
  rw [property_eq]
  constructor
  · intro h
    refine ⟨fun htext n hn => ?_, fun htext n hn => ?_, fun harray es hes => ?_⟩
    · have hlookup : (propertyEntries f).lookup "maxLength" = some (.int n) := by
        rw [Convert.lookup_maxLength, if_pos htext, hn]
        rfl
      exact accepts_count_iff.mp ((suits_iff rfl).mp (suits_of_accepts hjson h hlookup))
    · have hlookup : (propertyEntries f).lookup "minLength" = some (.int n) := by
        rw [lookup_minLength, if_pos htext, hn]
        rfl
      exact accepts_count_iff.mp ((suits_iff rfl).mp (suits_of_accepts hjson h hlookup))
    · have hlookup : (propertyEntries f).lookup "items" = some (.obj es) := by
        rw [Convert.lookup_items, if_pos harray, hes]
        rfl
      have hitems := (suits_iff rfl).mp (suits_of_accepts hjson h hlookup)
      exact (violations_eq_nil_iff (hrules.items es hes)).mpr
        ((accepts_document_iff (hrules.items es hes)).mp hitems)
  · intro h
    refine accepts_obj_of_suits hjson (forall_mem_property.mpr ⟨?_, ?_, ?_, ?_, ?_, ?_, ?_⟩)
    · exact (suits_iff rfl).mpr (accepts_text _)
    · exact (suits_iff rfl).mpr (accepts_typeNames (mem_typeNames _))
    · exact fun s _ => (suits_iff rfl).mpr (accepts_text s)
    · refine forall_mem_limits (fun htext => ⟨?_, ?_, ?_⟩) ⟨?_, ?_⟩ fun harray es hes => ?_
      · exact fun n hn => (suits_iff rfl).mpr (accepts_count_iff.mpr (h.maxLength htext n hn))
      · exact fun n hn => (suits_iff rfl).mpr (accepts_count_iff.mpr (h.minLength htext n hn))
      · exact fun s _ => (suits_iff rfl).mpr (accepts_text s)
      · exact fun x _ => (suits_iff rfl).mpr (accepts_number x)
      · exact fun x _ => (suits_iff rfl).mpr (accepts_number x)
      · have hitems := (violations_eq_nil_iff (hrules.items es hes)).mp (h.items harray es hes)
        exact (suits_iff rfl).mpr ((accepts_document_iff (hrules.items es hes)).mpr hitems)
    · exact fun v _ => suits_of_none rfl
    · exact fun vs _ => (suits_iff rfl).mpr (accepts_anyList vs)
    · exact suits_of_none rfl

/-! ### Entities -/

theorem nodup_required {e : Entity} (h : e.fieldNames.Nodup) :
    ((e.fields.filter Field.required).map Field.name).Nodup :=
  h.sublist ((List.filter_sublist).map Field.name)

/-- **Entities**: the draft accepts the definition of an entity whose fields have names of their own
exactly if all its fields are sound. -/
theorem accepts_definition_iff {e : Entity} (hrules : ∀ f ∈ e.fields, f.rules.AreJson)
    (hnames : e.fieldNames.Nodup) :
    Accepts .draft202012 Draft202012.schema (definition e) ↔ ∀ f ∈ e.fields, f.IsSound := by
  have hjson : (Value.obj (definitionEntries e)).isJson = true := isJson_definition hrules
  have hproperties : Suits ("properties",
      .obj (Entries.ofList (e.fields.map fun f => (f.name, property f)))) ↔
        ∀ f ∈ e.fields, f.IsSound := by
    rw [suits_iff rfl]
    refine (accepts_documentMap_iff (isJson_properties hrules)).trans ?_
    rw [Entries.ofList_map_of_nodup hnames, List.forall_mem_map]
    exact forall₂_congr fun f hf => accepts_property_iff (hrules f hf)
  rw [← hproperties, definition_eq]
  constructor
  · intro h
    exact suits_of_accepts hjson h rfl
  · intro h
    refine accepts_obj_of_suits hjson ?_
    unfold definitionEntries
    simp only [List.forall_mem_cons, List.not_mem_nil, false_implies, implies_true, and_true]
    refine ⟨?_, ?_, ?_, h, ?_, ?_, ?_⟩
    · exact (suits_iff rfl).mpr (accepts_typeNames (mem_typeNames .object))
    · exact (suits_iff rfl).mpr (accepts_text _)
    · exact (suits_iff rfl).mpr (accepts_text _)
    · exact (suits_iff rfl).mpr (accepts_names (nodup_required hnames))
    · exact (suits_iff rfl).mpr ((accepts_document_iff rfl).mpr (Draft202012.accepts_bool false))
    · exact suits_of_none rfl

/-! ### Models -/

theorem accepts_identifier_iff {s : String} :
    Accepts .draft202012 [.types [.string], .form .reference] (.str s) ↔
      Form.reference.holds s = true := by
  rw [accepts_cons, accepts_singleton, obeys_types_iff, obeys_form_iff]
  exact and_iff_right rfl

/-- **Models**: the draft accepts the document of a model whose entities, and the fields of each,
have names of their own exactly if its identifier is a reference and all its fields are sound. -/
theorem accepts_documentAt_iff {m : Model} {config : Config} {stamp : String}
    (hjson : (documentAt config m stamp).isJson = true)
    (hrules : ∀ e ∈ m.entities, ∀ f ∈ e.fields, f.rules.AreJson) (hentities : m.entityNames.Nodup)
    (hfields : ∀ e ∈ m.entities, e.fieldNames.Nodup) :
    Accepts .draft202012 Draft202012.schema (documentAt config m stamp) ↔
      Form.reference.holds config.schemaId = true ∧
        ∀ e ∈ m.entities, ∀ f ∈ e.fields, f.IsSound := by
  have hid : Suits ("$id", .str config.schemaId) ↔ Form.reference.holds config.schemaId = true :=
    (suits_iff rfl).trans accepts_identifier_iff
  have hdefinitions : Suits ("definitions", .obj (definitions m)) ↔
      ∀ e ∈ m.entities, ∀ f ∈ e.fields, f.IsSound := by
    rw [suits_iff rfl]
    refine (accepts_documentMap_iff (isJson_definitions hrules)).trans ?_
    rw [definitions, Entries.ofList_map_of_nodup hentities, List.forall_mem_map]
    exact forall₂_congr fun e he => accepts_definition_iff (hrules e he) (hfields e he)
  rw [← hid, ← hdefinitions]
  unfold documentAt at hjson ⊢
  constructor
  · intro h
    exact ⟨suits_of_accepts hjson h rfl, suits_of_accepts hjson h rfl⟩
  · rintro ⟨hsuits, hsuits'⟩
    refine accepts_obj_of_suits hjson ?_
    simp only [List.forall_mem_cons, List.not_mem_nil, false_implies, implies_true, and_true]
    refine ⟨?_, hsuits, ?_, ?_, ?_, hsuits', ?_, ?_⟩
    · exact (suits_iff rfl).mpr (accepts_text _)
    · exact (suits_iff rfl).mpr (accepts_text _)
    · exact (suits_iff rfl).mpr (accepts_text _)
    · exact (suits_iff rfl).mpr (accepts_typeNames (mem_typeNames .object))
    · exact suits_of_none rfl
    · exact suits_of_none rfl

end JsonSchema

/-! ## 3. The verdict -/

namespace MetaSchema

variable {others : Others}

/-- A verdict is good exactly if there are no violations, whether or not they could be told. -/
theorem valid_judgeAt_iff {document : Value} {found : List Violation}
    (h : violationsAmong others document = .ok found) (stamp : String) :
    (judgeAt others document stamp).valid = true ↔ found = [] := by
  have hlength : (found.mergeSort Violation.listedBefore).length = found.length :=
    List.length_mergeSort _
  unfold judgeAt
  rw [h]
  simp only
  cases hsorted : found.mergeSort Violation.listedBefore with
  | nil =>
    rw [hsorted] at hlength
    have hnone : found = [] := List.length_eq_zero_iff.mp hlength.symm
    simp [hnone]
  | cons x rest =>
    rw [hsorted] at hlength
    have hsome : found ≠ [] := by
      intro hnil
      rw [hnil] at hlength
      cases hlength
    simp only [hsome, iff_false, Bool.not_eq_true]
    split <;> rfl

theorem judge_of_stamp {clock : Clock} {stamp : String} (h : clock.stamp = .ok stamp)
    (document : Value) :
    judgeAmong others clock document = .ok (judgeAt others document stamp) := by
  rw [judgeAmong, h]
  rfl

/-- The address of the newest draft. -/
def newestAddress : Url.Parts :=
  ⟨"https", "json-schema.org", "/draft/2020-12/schema", "", ""⟩

theorem address?_documentAt (config : Config) (m : Model) (stamp : String) :
    Dialect.address? (JsonSchema.documentAt config m stamp) = some newestAddress := by
  have haddress : (Url.split JsonSchema.dialect).toOption = some newestAddress := by decide +kernel
  unfold JsonSchema.documentAt
  exact haddress

/-- Generated documents name the draft that they are of, and are judged by it as long as it is not
given other rules. -/
theorem violationsAmong_documentAt (hothers : others newestAddress = none) (config : Config)
    (m : Model) (stamp : String) :
    violationsAmong others (JsonSchema.documentAt config m stamp)
      = .ok (violations .draft202012 (JsonSchema.documentAt config m stamp)) := by
  have hkeyword : Dialect.ofKeyword (.str JsonSchema.dialect) = .ok .draft202012 := by
    decide +kernel
  have hdialect : Dialect.ofDocument (JsonSchema.documentAt config m stamp) = .ok .draft202012 := by
    unfold JsonSchema.documentAt
    exact hkeyword
  rw [violationsAmong, hdialect, address?_documentAt, Option.bind_some, hothers]
  rfl

end MetaSchema

namespace Lint

/-- A model in which the lint finds no error has no issue that is one. -/
theorem severity_ne_error_of_clean {m : Model} {config : Config} {issues : List Issue}
    (hissues : everything m config = .ok issues) (hclean : (findings issues).errors = [])
    {i : Issue} (hi : i ∈ entityNames m ∨ i ∈ fieldNames m) : i.severity ≠ .error := by
  intro herror
  have hmem : i ∈ issues := by
    obtain ⟨found, hmodel, hall⟩ := bind_eq_ok.mp hissues
    obtain ⟨constraints, -, hfound⟩ := bind_eq_ok.mp hmodel
    cases hfound
    cases hall
    simp only [List.mem_append]
    tauto
  have hfinding : i.finding ∈ (findings issues).errors :=
    List.mem_filter.mpr ⟨List.mem_map_of_mem hmem, decide_eq_true herror⟩
  rw [hclean] at hfinding
  cases hfinding

theorem severity_of_repeated {i : Issue}
    (h : i.code = "DUPLICATE_ENTITY_NAME" ∨ i.code = "DUPLICATE_FIELD_NAME") :
    i.severity = .error := by
  cases i <;> simp [Issue.code, Issue.severity] at h ⊢

/-- **No error, no repeated name**: neither of entities nor of the fields of one. -/
theorem nodup_of_clean {m : Model} {config : Config} {issues : List Issue}
    (hissues : everything m config = .ok issues) (hclean : (findings issues).errors = []) :
    m.entityNames.Nodup ∧ ∀ e ∈ m.entities, e.fieldNames.Nodup := by
  refine ⟨entityNames_nodup_iff.mp fun i hi hcode => ?_,
    fieldNames_nodup_iff.mp fun i hi hcode => ?_⟩
  · exact severity_ne_error_of_clean hissues hclean (.inl hi) (severity_of_repeated (.inl hcode))
  · exact severity_ne_error_of_clean hissues hclean (.inr hi) (severity_of_repeated (.inr hcode))

end Lint

/-! ## 4. Generated documents -/

/-- **When a generated schema is valid.**  An input of JSON that has a normal form in which the lint
finds no error gives a document and a verdict on it.  The verdict is good exactly if the identifier
of the document is a reference and the constraints of all fields are sound. -/
theorem schema_valid_iff {raw : Value} {m : Model} (hjson : raw.isJson = true)
    (hm : Model.normalize raw = .ok m) {issues : List Lint.Issue}
    (hissues : Lint.everything m {} = .ok issues) (hclean : (Lint.findings issues).errors = [])
    (config : Config) {clock clock' : Clock} {stamp stamp' : String}
    (hclock : clock.stamp = .ok stamp) (hclock' : clock'.stamp = .ok stamp') :
    ∃ schema verdict, JsonSchema.document config clock m = .ok schema ∧
      MetaSchema.judge clock' schema = .ok verdict ∧
      (verdict.valid = true ↔ Form.reference.holds config.schemaId = true ∧
        ∀ e ∈ m.entities, ∀ f ∈ e.fields, f.IsSound) := by
  have hdocument := JsonSchema.isJson_documentAt hjson hm config stamp
  obtain ⟨hentities, hfields⟩ := Lint.nodup_of_clean hissues hclean
  have hrules : ∀ e ∈ m.entities, ∀ f ∈ e.fields, f.rules.AreJson := fun e he f hf =>
    Model.areJson_rules hjson hm he hf
  refine ⟨JsonSchema.documentAt config m stamp, _, ?_, MetaSchema.judge_of_stamp hclock' _, ?_⟩
  · rw [JsonSchema.document, hclock]
  · rw [MetaSchema.valid_judgeAt_iff (MetaSchema.violationsAmong_documentAt rfl config m stamp),
      MetaSchema.violations_eq_nil_iff hdocument]
    exact JsonSchema.accepts_documentAt_iff hdocument hrules hentities hfields

/-- A model of one field, a text with a greatest length. -/
def lengthLimited (length : Int) : Value :=
  .obj [("entities", .list [.obj [("name", .str "user"), ("fields", .list [.obj
    [("name", .str "code"), ("type", .str "string"),
      ("constraints", .obj [("maxLength", .int length)])]])]])]

theorem exists_stamp_standard : ∃ stamp, Clock.standard.stamp = .ok stamp := by
  obtain ⟨t, u, ht, hu⟩ := Bundle.exists_utc_standard
  rw [ht]
  exact Clock.exists_stamp hu

/-- A length of eight is sound, and gives a valid schema. -/
theorem schema_valid_length :
    ∃ m schema verdict, Model.normalize (lengthLimited 8) = .ok m ∧
      JsonSchema.document {} .standard m = .ok schema ∧
      MetaSchema.judge .standard schema = .ok verdict ∧ verdict.valid = true := by
  obtain ⟨m, hm, hlint, hsound⟩ := any_toOption.mp
    (show (Model.normalize (lengthLimited 8)).toOption.any (fun m =>
      (Lint.everything m {}).toOption.any (fun issues => (Lint.findings issues).isValid = true)
        = true ∧ ∀ e ∈ m.entities, ∀ f ∈ e.fields, f.IsSound) = true by decide +kernel)
  obtain ⟨issues, hissues, hclean⟩ := any_toOption.mp hlint
  obtain ⟨stamp, hstamp⟩ := exists_stamp_standard
  obtain ⟨schema, verdict, hschema, hverdict, hvalid⟩ := schema_valid_iff (by decide) hm hissues
    (List.isEmpty_iff.mp hclean) {} hstamp hstamp
  exact ⟨m, schema, verdict, hm, hschema, hverdict, hvalid.mpr ⟨by decide, hsound⟩⟩

/-- A length below zero is no error to the lint, and spoils the schema. -/
theorem schema_invalid_length :
    ∃ m issues schema verdict, (lengthLimited (-1)).isJson = true ∧
      Model.normalize (lengthLimited (-1)) = .ok m ∧ Lint.everything m {} = .ok issues ∧
      (Lint.findings issues).errors = [] ∧ JsonSchema.document {} .standard m = .ok schema ∧
      MetaSchema.judge .standard schema = .ok verdict ∧ verdict.valid = false := by
  obtain ⟨stamp, hstamp⟩ := exists_stamp_standard
  obtain ⟨m, hm, hlint, hschema⟩ := any_toOption.mp
    (show (Model.normalize (lengthLimited (-1))).toOption.any (fun m =>
      (Lint.everything m {}).toOption.any (fun issues => (Lint.findings issues).isValid = true)
        = true ∧ (JsonSchema.document {} .standard m).toOption.any (fun schema =>
          (violations .draft202012 schema).isEmpty = false) = true) = true by decide +kernel)
  obtain ⟨issues, hissues, hclean⟩ := any_toOption.mp hlint
  obtain ⟨schema, hdocument, hviolations⟩ := any_toOption.mp hschema
  obtain ⟨made, -, rfl⟩ := JsonSchema.document_eq_ok hdocument
  refine ⟨m, issues, _, _, by decide, hm, hissues, List.isEmpty_iff.mp hclean, hdocument,
    MetaSchema.judge_of_stamp hstamp _, ?_⟩
  rw [Bool.eq_false_iff]
  intro hvalid
  have hfound : MetaSchema.violationsAmong (fun _ => none) _ = .ok _ :=
    MetaSchema.violationsAmong_documentAt rfl {} m made
  have hnone := (MetaSchema.valid_judgeAt_iff hfound stamp).mp hvalid
  rw [hnone] at hviolations
  cases hviolations

end Schemata
