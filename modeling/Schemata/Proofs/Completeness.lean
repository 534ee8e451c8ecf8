import Schemata.Proofs.Linting
import Schemata.Proofs.Pool
import Schemata.Proofs.Writing
/-!
# When all documents are made

A generator has few reasons to fail.  Under a clock that shows a moment of the years 1 to 9999 the
schema document has none at all; the diagrams and the examples of the interface have integers too
long to be written; and the snippets of the interface have a base URL that cannot be split.

* `Artifact.reason?_schema`, `Artifact.reason?_diagrams`, `Artifact.reason?_api`: why a document of
  a model cannot be made.
* `Bundle.complete_iff`: a bundle has all documents exactly if none of these reasons is there, and
  for an input whose integers can be written a base URL is the only one.
-/

namespace Schemata

/-! ## 1. Constraints with a text -/

theorem Field.isWritable_rules {f : Field} :
    f.rules.isWritable = f.constraints.all Constraints.isWritable := by
  unfold Field.rules
  cases f.constraints <;> rfl

theorem Diagram.isWritable_iff {m : Model} :
    isWritable m = true ↔
      ∀ e ∈ m.entities, ∀ f ∈ e.fields, f.rules.isWritable = true := by
  simp only [isWritable, List.all_eq_true, Field.isWritable_rules]

/-- The constraints of a model have texts if the input has. -/
theorem Diagram.isWritable_of_normalize {raw : Value} {m : Model} (hraw : raw.isWritable = true)
    (hm : Model.normalize raw = .ok m) : isWritable m = true := by
  rw [isWritable_iff]
  intro e he f hf
  obtain ⟨given, hrules, hgiven⟩ :=
    Model.exists_given Value.hereditary_isWritable rfl hraw hm he hf
  rw [hrules]
  exact Constraints.isWritable_ofEntries hgiven

namespace OpenApi

/-! ## 2. Examples -/

/-- An example is one of the choices of the field, or made up from its type. -/
theorem exampleValue_eq (f : Field) (stamp : String) :
    (∃ choices, f.rules.choices = some choices ∧ exampleValue f stamp ∈ choices) ∨
      exampleValue f stamp = typeExample f stamp := by
  unfold exampleValue
  split
  · rename_i v rest hchoices
    unfold usableChoices at hchoices
    split at hchoices
    · cases hchoices
    · exact Or.inl ⟨v :: rest, hchoices, List.mem_cons_self⟩
  · exact Or.inr rfl

theorem isJson_typeExample (f : Field) (stamp : String) : (typeExample f stamp).isJson = true := by
  unfold typeExample
  split <;> rfl

theorem isWritable_typeExample (f : Field) (stamp : String) :
    (typeExample f stamp).isWritable = true := by
  -- Only the example of an integer depends on the name of the field.
  unfold typeExample
  split <;> first | rfl | (split <;> rfl)

/-- An example has a text if the constraints of the field have. -/
theorem isWritable_exampleValue {f : Field} {stamp : String} (h : f.rules.isWritable = true) :
    (exampleValue f stamp).isWritable = true := by
  rcases exampleValue_eq f stamp with ⟨choices, hchoices, hmem⟩ | htype
  · simp only [Constraints.isWritable, Bool.and_eq_true] at h
    have hall := h.2
    rw [hchoices] at hall
    exact Value.areWritable_iff.mp hall _ hmem
  · rw [htype]
    exact isWritable_typeExample f stamp

theorem mem_exampleRecord {e : Entity} {stamp : String} {p : String × Value}
    (h : p ∈ exampleRecord e stamp) : ∃ f ∈ e.fields, p.2 = exampleValue f stamp := by
  obtain ⟨f, hf, rfl⟩ := List.mem_map.mp (Entries.mem_ofList h)
  exact ⟨f, hf, rfl⟩

theorem isWritable_exampleRecord {e : Entity} {stamp : String}
    (h : ∀ f ∈ e.fields, f.rules.isWritable = true) :
    (Value.obj (exampleRecord e stamp)).isWritable = true := by
  rw [Value.isWritable_obj]
  intro p hp
  obtain ⟨f, hf, hvalue⟩ := mem_exampleRecord hp
  rw [hvalue]
  exact isWritable_exampleValue (h f hf)

/-- **Examples are given or made up.**  What the input and all its parts have, and whatever is made
up from a type, every value of an example has. -/
theorem forall_mem_exampleRecord {P : Value → Prop} (hP : Hereditary P)
    (hkey : P Entity.synthesizedKey)
    (hlist : ∀ {v items}, P v → Coercion.list v = .ok items → P (.list items)) {stamp : String}
    (htype : ∀ f, P (typeExample f stamp)) {raw : Value} {m : Model} (hraw : P raw)
    (hm : Model.normalize raw = .ok m) {e : Entity} (he : e ∈ m.entities) :
    ∀ p ∈ exampleRecord e stamp, P p.2 := by
  intro p hp
  obtain ⟨f, hf, hvalue⟩ := mem_exampleRecord hp
  rw [hvalue]
  rcases exampleValue_eq f stamp with ⟨choices, hchoices, hmem⟩ | hmade
  · obtain ⟨given, hrules, hgiven⟩ := Model.exists_given hP hkey hraw hm he hf
    rw [hrules] at hchoices
    obtain ⟨v, hv, -, hread⟩ := Constraints.view?_eq_some.mp hchoices
    exact hP.item (hlist (hP.field hgiven hv) hread) hmem
  · rw [hmade]
    exact htype f

/-- The example of an entity of an input of JSON is of JSON. -/
theorem isJson_exampleRecord {raw : Value} {m : Model} (hraw : raw.isJson = true)
    (hm : Model.normalize raw = .ok m) {e : Entity} (he : e ∈ m.entities) (stamp : String) :
    (Value.obj (exampleRecord e stamp)).isJson = true :=
  Value.isJson_obj.mpr (forall_mem_exampleRecord Value.hereditary_isJson rfl
    Coercion.isJson_of_list (fun f => isJson_typeExample f stamp) hraw hm he)

/-! ## 3. Snippets -/

/-- The snippets of an entity are there exactly if its example has a text. -/
theorem fault?_snippetsOf {e : Entity} {base path stamp : String}
    (h : (Value.obj (exampleRecord e stamp)).isJson = true) :
    fault? (snippetsOf e base path stamp)
      = Json.tooLong? (Value.obj (exampleRecord e stamp)).isWritable := by
  unfold snippetsOf
  rw [fault?_bind fun _ _ => (fault?_bind_pure _ _).trans (Json.fault?_write .compact h),
    Json.fault?_write _ h]
  exact Option.or_self

/-- Whether the examples of a model have texts. -/
def examplesAreWritable (m : Model) (stamp : String) : Bool :=
  m.entities.all fun e => (Value.obj (exampleRecord e stamp)).isWritable

theorem fault?_codeExamples {entities : List Entity} {base path stamp : String}
    (h : ∀ e ∈ entities, (Value.obj (exampleRecord e stamp)).isJson = true) :
    fault? (codeExamples entities base path stamp)
      = Json.tooLong? (entities.all fun e => (Value.obj (exampleRecord e stamp)).isWritable) := by
  unfold codeExamples
  rw [fault?_bind_pure, fault?_mapM]
  induction entities with
  | nil => rfl
  | cons e rest ih =>
    rw [List.forall_mem_cons] at h
    rw [findSome?_cons_eq_or, List.all_cons, Json.tooLong?_and, ih h.2, fault?_bind_pure,
      fault?_snippetsOf h.1]

end OpenApi

/-- Why the base URL of the snippets cannot be split. -/
def Config.baseFault? (config : Config) : Option Url.Fault :=
  fault? (Url.split (OpenApi.withoutTrailingSlashes config.exampleBaseUrl))

theorem OpenApi.fault?_bases (config : Config) : fault? (bases config) = config.baseFault? := by
  unfold bases Url.path Config.baseFault?
  rw [fault?_bind_pure, fault?_map]

/-! ## 4. Why a document cannot be made -/

/-- The text about an integer that is too long. -/
def tooLongReason? (isWritable : Bool) : Option String :=
  if isWritable then none else some (Written.limitMessage "")

theorem tooLongReason?_eq_none {isWritable : Bool} :
    tooLongReason? isWritable = none ↔ isWritable = true := by
  cases isWritable <;> simp [tooLongReason?]

section Reasons

variable {config : Config} {clock : Clock} {m : Model} {stamp : String}

/-- A clock that shows a moment of the years 1 to 9999 gives a timestamp. -/
theorem Clock.exists_stamp {t u : Moment} (h : t.toUtc? = some u) :
    ∃ stamp, (Clock.at t).stamp = .ok stamp := by
  have hsome : t.stamp?.isSome = true := by
    rw [Moment.stamp?, Option.isSome_map, h, Option.isSome_some]
  obtain ⟨stamp, hstamp⟩ := Option.isSome_iff_exists.mp hsome
  refine ⟨stamp, ?_⟩
  unfold Clock.stamp
  dsimp only
  rw [hstamp]

namespace Artifact

theorem reason?_schema (hstamp : clock.stamp = .ok stamp) :
    schema.reason? config clock m = none := by
  unfold reason? make JsonSchema.document
  rw [hstamp]
  rfl

theorem reason?_diagrams (hstamp : clock.stamp = .ok stamp) :
    diagrams.reason? config clock m = tooLongReason? (Diagram.isWritable m) := by
  unfold reason? make Diagram.generate tooLongReason?
  rw [hstamp]
  cases Diagram.isWritable m <;> rfl

/-- The base URL is looked at before the examples are. -/
theorem reason?_api (hstamp : clock.stamp = .ok stamp)
    (hjson : ∀ e ∈ m.entities, (Value.obj (OpenApi.exampleRecord e stamp)).isJson = true) :
    api.reason? config clock m
      = (config.baseFault?.map Url.Fault.message).or
          (tooLongReason? (OpenApi.examplesAreWritable m stamp)) := by
  unfold reason? make OpenApi.generate
  rw [fault?_mapError, ← OpenApi.fault?_bases]
  cases hbases : OpenApi.bases config with
  | error fault =>
    simp only [OpenApi.build, hstamp, hbases]
    rfl
  | ok bases =>
    have hbuild : fault? (OpenApi.build config clock m)
        = (fault? (OpenApi.codeExamples m.entities bases.1 bases.2 stamp)).map
            OpenApi.Fault.example := by
      rw [← fault?_mapError]
      simp only [OpenApi.build, hstamp, hbases]
      exact fault?_bind_pure _ _
    rw [hbuild, OpenApi.fault?_codeExamples hjson]
    unfold OpenApi.examplesAreWritable Json.tooLong? tooLongReason?
    split <;> rfl

end Artifact

end Reasons

/-! ## 5. Bundles with all documents -/

namespace Bundle

/-- A bundle with all documents and no failure. -/
structure Complete (b : Bundle) : Prop where
  failures : b.report.failures = []
  artifacts : ∀ a, (b.artifact? a).isSome = true

/-- A document is there exactly if it has no reason to be missing. -/
theorem isSome_artifact?_sequential (config : Config) (clock : Clock) (m : Model) (source : String)
    (findings : Option Findings) (a : Artifact) :
    ((sequential config clock m source findings).artifact? a).isSome = true ↔
      a.reason? config clock m = none := by
  rw [artifact?_sequential, Artifact.reason?]
  cases a.make config clock m <;> simp [Except.toOption, fault?]

/-- A bundle is complete exactly if no document has a reason to be missing. -/
theorem complete_sequential (config : Config) {clock : Clock} (hclock : clock.IsPlain) (m : Model)
    (source : String) (findings : Option Findings) :
    (sequential config clock m source findings).Complete ↔
      ∀ a : Artifact, a.reason? config clock m = none := by
  constructor
  · rintro ⟨hfailures, -⟩ a
    rw [← lookup_failures_sequential config clock m source findings hclock, hfailures]
    rfl
  · intro h
    have hfailures : (sequential config clock m source findings).report.failures = [] := by
      rw [failures_sequential _ _ _ _ _ hclock, List.filterMap_eq_nil_iff]
      intro a _
      rw [h a]
      rfl
    exact ⟨hfailures, fun a =>
      (isSome_artifact?_sequential config clock m source findings a).mpr (h a)⟩

/-- **When all documents are made.**  Under a clock that shows a moment of the years 1 to 9999 every
input of JSON that has a normal form gives a bundle, in whichever order the tasks end.  It has the
schema document, whatever the settings; it has all documents exactly if the base URL of the snippets
can be split and every constraint has a text.  Constraints have one if the integers of the input
have, and then a base URL that cannot be split is the only failure. -/
theorem complete_iff {raw : Value} {m : Model} (hjson : raw.isJson = true)
    (hm : Model.normalize raw = .ok m) (config : Config) {t u : Moment} (ht : t.toUtc? = some u)
    {order : List Artifact} (horder : ∀ a, a ∈ order) (source : String) :
    ∃ b, generateIn order config (.at t) false source raw = .ok b ∧
      (b.artifact? .schema).isSome = true ∧
      (b.Complete ↔ config.baseFault? = none ∧ Diagram.isWritable m = true) ∧
      (raw.isWritable = true → Diagram.isWritable m = true) ∧
      (Diagram.isWritable m = true → b.report.failures
        = (config.baseFault?.map fun fault => (Artifact.api.stageName, fault.message)).toList) := by
  obtain ⟨stamp, hstamp⟩ := Clock.exists_stamp ht
  have hschema : Artifact.schema.reason? config (.at t) m = none := Artifact.reason?_schema hstamp
  have hdiagrams : Artifact.diagrams.reason? config (.at t) m
      = tooLongReason? (Diagram.isWritable m) := Artifact.reason?_diagrams hstamp
  have hapi : Artifact.api.reason? config (.at t) m
      = (config.baseFault?.map Url.Fault.message).or
          (tooLongReason? (OpenApi.examplesAreWritable m stamp)) :=
    Artifact.reason?_api hstamp fun e he => OpenApi.isJson_exampleRecord hjson hm he stamp
  have hexamples : Diagram.isWritable m = true → OpenApi.examplesAreWritable m stamp = true :=
    fun h => List.all_eq_true.mpr fun e he =>
      OpenApi.isWritable_exampleRecord (Diagram.isWritable_iff.mp h e he)
  refine ⟨sequential config (.at t) m source none, generateIn_plain config (.at t) source hm horder,
    ?_, ?_, fun hraw => Diagram.isWritable_of_normalize hraw hm, fun hwritable => ?_⟩
  · rw [isSome_artifact?_sequential]
    exact hschema
  · have hplain : (Clock.at t).IsPlain := trivial
    rw [complete_sequential config hplain]
    constructor
    · intro h
      have hbase := h .api
      rw [hapi, Option.or_eq_none_iff, Option.map_eq_none_iff] at hbase
      have htexts := h .diagrams
      rw [hdiagrams, tooLongReason?_eq_none] at htexts
      exact ⟨hbase.1, htexts⟩
    · rintro ⟨hbase, htexts⟩ a
      cases a with
      | schema => exact hschema
      | api =>
        rw [hapi, hbase, hexamples htexts]
        rfl
      | diagrams =>
        rw [hdiagrams, htexts]
        rfl
  · rw [failures_sequential config (.at t) m source none trivial]
    simp only [Artifact.all, List.filterMap_cons, List.filterMap_nil, hschema, hapi, hdiagrams,
      hwritable, hexamples hwritable]
    cases config.baseFault? <;> rfl

/-- A model of one entity without fields. -/
def loneUser : Value :=
  .obj [("entities", .list [.obj [("name", .str "user"), ("fields", .list [])]])]

/-- Settings with a base URL of snippets. -/
def withBase (url : String) : Value := .obj [("code_example_base_url", .str url)]

theorem isJson_loneUser : loneUser.isJson = true := by decide

theorem exists_normal_loneUser : ∃ m, Model.normalize loneUser = .ok m := ⟨_, rfl⟩

theorem exists_utc_standard : ∃ t u, Clock.standard = .at t ∧ t.toUtc? = some u := by
  obtain ⟨t, ht⟩ : ∃ t, Clock.standard = .at t := ⟨_, rfl⟩
  have hutc : t.toUtc?.isSome = true := by
    cases ht
    decide
  obtain ⟨u, hu⟩ := Option.isSome_iff_exists.mp hutc
  exact ⟨t, u, ht, hu⟩

/-- An address in brackets can be split. -/
theorem complete_iff_address :
    ∃ config b, Config.read (withBase "http://[::1]:3000/api") = .ok config ∧
      generate config .standard false "" loneUser = .ok b ∧ b.Complete := by
  obtain ⟨m, hm⟩ := exists_normal_loneUser
  obtain ⟨t, u, ht, hu⟩ := exists_utc_standard
  obtain ⟨b, hb, -, hcomplete, hwritable, -⟩ := complete_iff isJson_loneUser hm
    { exampleBaseUrl := "http://[::1]:3000/api" } hu Artifact.mem_all ""
  rw [← ht] at hb
  exact ⟨_, b, rfl, hb, hcomplete.mpr ⟨by decide +kernel, hwritable (by decide +kernel)⟩⟩

/-- A bracket that is not closed is accepted as a setting, and takes a document away. -/
theorem incomplete_openBracket :
    ∃ config m b, Config.read (withBase "http://[bad") = .ok config ∧ loneUser.isJson = true ∧
      Model.normalize loneUser = .ok m ∧ (∃ t u, Clock.standard = .at t ∧ t.toUtc? = some u) ∧
      generate config .standard false "" loneUser = .ok b ∧
      b.report.failures = [("api", "Invalid IPv6 URL")] ∧ b.artifact? .api = none ∧
      ¬ b.Complete := by
  obtain ⟨m, hm⟩ := exists_normal_loneUser
  obtain ⟨b, hb, hfailures, hapi⟩ := any_toOption.mp
    (show (generate { exampleBaseUrl := "http://[bad" } .standard false "" loneUser).toOption.any
      (fun b => b.report.failures = [("api", "Invalid IPv6 URL")] ∧
        (b.artifact? .api).isNone = true) = true by decide +kernel)
  refine ⟨_, m, b, rfl, isJson_loneUser, hm, exists_utc_standard, hb, hfailures,
    Option.isNone_iff_eq_none.mp hapi, fun h => ?_⟩
  rw [h.failures] at hfailures
  cases hfailures

end Bundle

end Schemata
