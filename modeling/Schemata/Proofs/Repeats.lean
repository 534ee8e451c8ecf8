import Mathlib.Algebra.Ring.Nat
import Schemata.Lint.Rules
import Schemata.Proofs.Agreement
/-!
# How many names are repeated

The lint goes through names with those that came before, and reports one that is among them.  The
documents put what it reports into maps, by name, where it takes the place of what was there.  So
there is a report for everything that a document loses.

* `Lint.length_newNames_cons`: one step of a scan: a name is repeated, or it is new.
* `Lint.count_entityNamesFrom`, `Lint.count_fieldNamesFrom`: a scan reports all names but the new
  ones.
* `Lint.count_visits`: so does the check of fields, which scans one entity after another.
* `repeats_counted`: the numbers of reports, by the numbers that the documents give or show.
-/

namespace Schemata

open Value (textKeys)

namespace Lint

/-! ## 1. One step -/

/-- The names that do not occur among those that came before, each once. -/
def newNames (seen names : List String) : List String :=
  (names.filter fun name => !seen.contains name).eraseDups

theorem newNames_nil (names : List String) : newNames [] names = names.eraseDups := by
  have hall : names.filter (fun name => !([] : List String).contains name) = names :=
    List.filter_eq_self.mpr fun _ _ => rfl
  rw [newNames, hall]

/-- **One step of a scan.**  A name that came before is repeated, and any other one is new. -/
theorem length_newNames_cons (seen : List String) (name : String) (rest : List String) :
    (newNames seen (name :: rest)).length + (if seen.contains name then 1 else 0)
      = (newNames (name :: seen) rest).length + 1 := by
  unfold newNames
  cases hseen : seen.contains name with
  | true =>
    have hsame : rest.filter (fun n => !(name :: seen).contains n)
        = rest.filter fun n => !seen.contains n := by
      refine List.filter_congr fun n _ => ?_
      by_cases hn : n = name
      · rw [hn, hseen, List.contains_cons, beq_self_eq_true, Bool.true_or]
      · rw [List.contains_cons, beq_false_of_ne hn, Bool.false_or]
    rw [List.filter_cons_of_neg (by simp only [hseen]; decide), hsame, if_pos rfl]
  | false =>
    have hsame : rest.filter (fun n => !(name :: seen).contains n)
        = (rest.filter fun n => !seen.contains n).filter fun n => !n == name := by
      rw [List.filter_filter]
      refine List.filter_congr fun n _ => ?_
      rw [List.contains_cons, Bool.not_or]
    rw [List.filter_cons_of_pos (by simp only [hseen]; decide), List.eraseDups_cons, hsame]
    rfl

/-! ## 2. Scans -/

/-- The number of issues with a code. -/
def count (code : String) (issues : List Issue) : Nat := (findings issues).codes.count code

theorem count_append (code : String) (issues more : List Issue) :
    count code (issues ++ more) = count code issues + count code more := by
  rw [count, findings, Findings.codes, List.map_append, List.map_append, List.count_append]
  rfl

theorem count_when {code : String} {b : Bool} {i : Issue} :
    count code (when b i) = if b && i.code == code then 1 else 0 := by
  cases b with
  | false => rfl
  | true =>
    have hone : count code [i] = [i.code].count code := rfl
    rw [when, if_pos rfl, hone, List.count_singleton, Bool.true_and]

/-- **Entities that are repeated**: a scan reports all names but the new ones. -/
theorem count_entityNamesFrom : ∀ (es : List Entity) (names tables : List String),
    count "DUPLICATE_ENTITY_NAME" (entityNamesFrom names tables es)
      + (newNames names (es.map Entity.name)).length = es.length
  | [], _, _ => rfl
  | e :: rest, names, tables => by
    have hstep := length_newNames_cons names e.name (rest.map Entity.name)
    have hrest := count_entityNamesFrom rest (e.name :: names) (e.tableName :: tables)
    simp only [entityNamesFrom, count_append, count_when, Issue.code, String.reduceBEq,
      beq_self_eq_true, Bool.and_true, Bool.and_false, Bool.false_eq_true, if_false, List.map_cons,
      List.length_cons]
    omega

/-- **Fields that are repeated**, likewise. -/
theorem count_fieldNamesFrom (entity : String) : ∀ (fs : List Field) (names : List String),
    count "DUPLICATE_FIELD_NAME" (fieldNamesFrom entity names fs)
      + (newNames names (fs.map Field.name)).length = fs.length
  | [], _ => rfl
  | f :: rest, names => by
    have hstep := length_newNames_cons names f.name (rest.map Field.name)
    have hrest := count_fieldNamesFrom entity rest (f.name :: names)
    simp only [fieldNamesFrom, count_append, count_when, Issue.code, String.reduceBEq,
      beq_self_eq_true, Bool.and_true, Bool.and_false, Bool.false_eq_true, if_false, List.map_cons,
      List.length_cons]
    omega

/-- The entities that are reported, and the names that are left. -/
theorem count_entityNames (m : Model) :
    count "DUPLICATE_ENTITY_NAME" (entityNames m) + m.entityNames.eraseDups.length
      = m.entities.length := by
  rw [← newNames_nil]
  exact count_entityNamesFrom m.entities [] []

/-- The fields of an entity that are reported, and the names that are left. -/
theorem count_fieldNames (e : Entity) :
    count "DUPLICATE_FIELD_NAME" (fieldNamesFrom e.name [] e.fields)
      + e.fieldNames.eraseDups.length = e.fields.length := by
  rw [← newNames_nil]
  exact count_fieldNamesFrom e.name e.fields []

/-- The fields of all entities that are reported, one entity after another. -/
theorem count_visits : ∀ es : List Entity,
    count "DUPLICATE_FIELD_NAME" (es.flatMap fun e => fieldNamesFrom e.name [] e.fields)
      + (es.map fun e => e.fieldNames.eraseDups.length).sum = (es.map fun e => e.fields.length).sum
  | [] => rfl
  | e :: rest => by
    have hhere := count_fieldNames e
    have hrest := count_visits rest
    rw [List.flatMap_cons, count_append, List.map_cons, List.sum_cons, List.map_cons, List.sum_cons]
    omega

end Lint

/-! ## 3. Documents -/

theorem length_textKeys (names : List String) : (textKeys names).length = names.length :=
  List.length_map _

/-- The number of entities in a schema document, and its definitions. -/
theorem entities_of_document {config : Config} {clock : Clock} {m : Model} {schema : Value}
    (h : JsonSchema.document config clock m = .ok schema) :
    schema.at? ["metadata", "totalEntities"] = some (.nat m.entities.length) ∧
      schema.keysAt? ["definitions"] = some (textKeys m.entityNames.eraseDups) := by
  have hdefinitions := definitions_keysAt? h
  obtain ⟨stamp, -, rfl⟩ := JsonSchema.document_eq_ok h
  exact ⟨rfl, hdefinitions⟩

/-- The entities in the summary of a description, and the number of its schemas. -/
theorem entities_of_summary {config : Config} {clock : Clock} {m : Model} {api : Value}
    (h : OpenApi.generate config clock m = .ok api) :
    api.at? ["summary", "entities"] = some (.texts m.entityNames) ∧
      api.at? ["summary", "totalSchemas"] = some (.nat m.entityNames.eraseDups.length) := by
  obtain ⟨stamp, base, path, examples, -, -, rfl⟩ := OpenApi.generate_eq_ok h
  have hlength : (OpenApi.schemas m stamp).length = m.entityNames.eraseDups.length := by
    rw [Model.entityNames, ← Entries.keys_ofList_map m.entities Entity.name
      fun e => OpenApi.componentSchema e stamp]
    exact (List.length_map _).symm
  rw [← hlength]
  exact ⟨rfl, rfl⟩

/-- **Repeated names are counted.**  For any model: the lint reports as many repeated entities as
there are more entities than definitions, and than schemas of components; and going through an
entity it reports as many repeated fields as the entity has more fields than its definition has
properties, and than its component schema has.  The check of fields as a whole reports as many as
all entities have more fields than all definitions have properties. -/
theorem repeats_counted (config : Config) (clock : Clock) (m : Model) :
    (∀ schema, JsonSchema.document config clock m = .ok schema →
      ∃ total definitions, schema.at? ["metadata", "totalEntities"] = some (.nat total) ∧
        schema.keysAt? ["definitions"] = some definitions ∧
        Lint.count "DUPLICATE_ENTITY_NAME" (Lint.entityNames m) + definitions.length = total) ∧
    (∀ api, OpenApi.generate config clock m = .ok api →
      ∃ entities schemas, api.at? ["summary", "entities"] = some (.list entities) ∧
        api.at? ["summary", "totalSchemas"] = some (.nat schemas) ∧
        Lint.count "DUPLICATE_ENTITY_NAME" (Lint.entityNames m) + schemas = entities.length) ∧
    (∀ e ∈ m.entities, ∀ stamp, ∃ properties componentProperties,
      (JsonSchema.definition e).keysAt? ["properties"] = some properties ∧
      (OpenApi.componentSchema e stamp).keysAt? ["properties"] = some componentProperties ∧
      Lint.count "DUPLICATE_FIELD_NAME" (Lint.fieldNamesFrom e.name [] e.fields)
        + properties.length = e.fields.length ∧
      Lint.count "DUPLICATE_FIELD_NAME" (Lint.fieldNamesFrom e.name [] e.fields)
        + componentProperties.length = e.fields.length) ∧
    ∃ sizes : List Nat,
      (m.entities.map fun e =>
        ((JsonSchema.definition e).keysAt? ["properties"]).map List.length) = sizes.map some ∧
      Lint.count "DUPLICATE_FIELD_NAME" (Lint.fieldNames m) + sizes.sum
        = (m.entities.map fun e => e.fields.length).sum := by
  have hentities := Lint.count_entityNames m
  refine ⟨fun schema hs => ?_, fun api ha => ?_, fun e _ stamp => ?_,
    m.entities.map fun e : Entity => e.fieldNames.eraseDups.length, ?_,
    Lint.count_visits m.entities⟩
  · obtain ⟨htotal, hdefinitions⟩ := entities_of_document hs
    refine ⟨_, _, htotal, hdefinitions, ?_⟩
    rw [length_textKeys, hentities]
  · obtain ⟨hnames, hschemas⟩ := entities_of_summary ha
    refine ⟨_, _, hnames, hschemas, ?_⟩
    rw [hentities, List.length_map, Model.entityNames, List.length_map]
  · have halike := describeAlike e stamp
    have hfields := Lint.count_fieldNames e
    rw [← length_textKeys] at hfields
    exact ⟨_, _, halike.properties, halike.componentProperties, hfields, hfields⟩
  · rw [List.map_map]
    refine List.map_congr_left fun e _ => ?_
    rw [(describeAlike e "").properties, Option.map_some, length_textKeys]
    rfl

/-- Of three entities one is repeated, and so is a field of the last one. -/
theorem repeats_counted_twins :
    Lint.count "DUPLICATE_ENTITY_NAME" (Lint.entityNames twins) = 1 ∧
      (∃ schema definitions, JsonSchema.document {} .standard twins = .ok schema ∧
        schema.keysAt? ["definitions"] = some definitions ∧ 1 + definitions.length = 3) ∧
      ∀ e ∈ twins.entities, ∃ properties,
        (JsonSchema.definition e).keysAt? ["properties"] = some properties ∧
        Lint.count "DUPLICATE_FIELD_NAME" (Lint.fieldNamesFrom e.name [] e.fields)
          + properties.length = e.fields.length := by
  have hone : Lint.count "DUPLICATE_ENTITY_NAME" (Lint.entityNames twins) = 1 := by decide +kernel
  obtain ⟨hschema, -, hfields, -⟩ := repeats_counted {} .standard twins
  obtain ⟨schema, hs⟩ : ∃ schema, JsonSchema.document {} .standard twins = .ok schema := ⟨_, rfl⟩
  obtain ⟨total, definitions, htotal, hdefinitions, hcount⟩ := hschema schema hs
  have hthree : total = 3 := by
    have hsame : (total : Int) = 3 := by
      simpa [Value.nat, twins, Model.of] using htotal.symm.trans (entities_of_document hs).1
    omega
  rw [hone, hthree] at hcount
  refine ⟨hone, ⟨schema, definitions, hs, hdefinitions, hcount⟩, fun e he => ?_⟩
  obtain ⟨properties, -, hproperties, -, hcounted, -⟩ := hfields e he ""
  exact ⟨properties, hproperties, hcounted⟩

end Schemata
