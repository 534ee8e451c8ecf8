import Schemata.Proofs.Dialect
import Schemata.Proofs.Distinct
import Schemata.Proofs.Document
/-!
# Documents of draft 2020-12

What the newest draft asks of a document, keyword by keyword.

* `Draft202012.keywords` are the keywords with a rule; all others may hold anything.
* `accepts_map_iff`: a document is accepted exactly if what stands under every keyword is.
-/

namespace Schemata.MetaSchema

variable {d : Dialect}

/-! ## 1. Shared schemas -/

theorem accepts_text (s : String) : Accepts d text (.str s) :=
  accepts_singleton.mpr (obeys_types_iff.mpr rfl)

theorem accepts_number (x : Number) : Accepts d number x.toValue := by
  refine accepts_singleton.mpr (obeys_types_iff.mpr ?_)
  cases x <;> rfl

theorem accepts_anyList (items : List Value) : Accepts d anyList (.list items) :=
  accepts_singleton.mpr (obeys_types_iff.mpr rfl)

theorem accepts_count_iff {n : Int} : Accepts d count (.int n) ↔ 0 ≤ n := by
  rw [count, accepts_cons, accepts_singleton, obeys_types_iff, obeys_least_iff]
  simp [isBelow, TypeName.holds]

theorem accepts_names {ns : List String} (h : ns.Nodup) : Accepts d names (.texts ns) := by
  rw [names, accepts_cons, accepts_cons, accepts_singleton]
  refine ⟨obeys_types_iff.mpr rfl, (obeys_items_iff (Value.isJson_texts ns)).mpr ?_,
    obeys_distinct_iff.mpr (Value.countAsDistinct_texts h)⟩
  rw [List.forall_mem_map]
  exact fun s _ => accepts_text s

theorem accepts_typeNames {s : String} (h : s ∈ TypeName.all.map TypeName.text) :
    Accepts d typeNames (.str s) := by
  refine accepts_singleton.mpr (obeys_any_of_first rfl ?_)
  refine accepts_singleton.mpr (obeys_choices_iff.mpr ?_)
  rw [List.any_eq_true]
  exact ⟨s, h, by simp [Value.agrees, Scalar.agrees, Scalar.sameKey, Scalar.ratio?]⟩

theorem accepts_documentMap_iff {isDynamic : Bool} {es : Entries String Value}
    (hjson : (Value.obj es).isJson = true) :
    Accepts d (documentMap (.whole isDynamic)) (.obj es) ↔ ∀ p ∈ es, Accepts d d.schema p.2 := by
  rw [documentMap, accepts_cons, accepts_singleton, obeys_types_iff]
  refine (and_iff_right rfl).trans ?_
  rw [Value.obj, obeys_everyProperty_iff hjson, List.forall_mem_map]
  refine forall₂_congr fun p hp => ?_
  rw [accepts_singleton, obeys_whole_iff (Value.isJson_obj.mp hjson p hp)]

namespace Draft202012

/-! ## 2. Keywords -/

/-- The vocabularies of the draft. -/
def vocabularies : List Schema :=
  [core, applicator, unevaluated, validation, annotations, formats, contents]

/-- The keywords that a schema has rules for. -/
def keywordsOf (schema : Schema) : List (String × Schema) :=
  schema.flatMap fun
    | .properties schemas => schemas
    | _ => []

/-- The keywords of the draft, with the schemas of what they hold. -/
def keywords : List (String × Schema) :=
  vocabularies.flatMap keywordsOf ++ keywordsOf schema

/-- What a keyword asks for; a word that is none asks for nothing. -/
def keyword? (key : String) : Option Schema := keywords.lookup key

theorem keys_keywords_nodup : (keywords.map Prod.fst).Nodup := by decide +kernel

theorem keyword?_of_mem {p : String × Schema} (h : p ∈ keywords) : keyword? p.1 = some p.2 :=
  Entries.lookup_of_mem keys_keywords_nodup h

theorem eq_vocabulary {s : Schema} (h : s ∈ vocabularies) : s = vocabulary (keywordsOf s) := by
  simp only [vocabularies, List.mem_cons, List.not_mem_nil, or_false] at h
  rcases h with rfl | rfl | rfl | rfl | rfl | rfl | rfl <;> rfl

theorem schema_eq : schema
    = [.all vocabularies, .types [.object, .boolean], .properties (keywordsOf schema)] := rfl

theorem accepts_vocabulary_iff {schemas : List (String × Schema)} {es : List (Scalar × Value)}
    (hjson : (Value.map es).isJson = true) :
    Accepts d (vocabulary schemas) (.map es) ↔
      ∀ p ∈ schemas, ∀ u, Value.member? p.1 es = some u → Accepts d p.2 u := by
  rw [vocabulary, accepts_cons, accepts_singleton, obeys_types_iff, obeys_properties_iff hjson]
  exact and_iff_right rfl

/-- **A document is accepted** exactly if what stands under every keyword is. -/
theorem accepts_map_iff {es : List (Scalar × Value)} (hjson : (Value.map es).isJson = true) :
    Accepts .draft202012 schema (.map es) ↔
      ∀ p ∈ keywords, ∀ u, Value.member? p.1 es = some u → Accepts .draft202012 p.2 u := by
  have hall : (∀ s ∈ vocabularies, Accepts .draft202012 s (.map es)) ↔
      ∀ s ∈ vocabularies, ∀ p ∈ keywordsOf s, ∀ u, Value.member? p.1 es = some u →
        Accepts .draft202012 p.2 u := by
    refine forall₂_congr fun s hs => ?_
    conv_lhs => rw [eq_vocabulary hs]
    exact accepts_vocabulary_iff hjson
  rw [schema_eq, accepts_cons, accepts_cons, accepts_singleton, obeys_all_iff hjson,
    obeys_types_iff, obeys_properties_iff hjson, hall, keywords, List.forall_mem_append,
    List.forall_mem_flatMap]
  exact and_congr_right fun _ => and_iff_right rfl

theorem accepts_bool (b : Bool) : Accepts .draft202012 schema (.bool b) := by
  have hnothing : ∀ schemas : List (String × Schema),
      Obeys .draft202012 (.properties schemas) (.bool b) := fun schemas =>
    (obeys_nested_iff rfl rfl).mpr fun _ _ h => nomatch h
  have htypes : Obeys .draft202012 (.types [.object, .boolean]) (.bool b) := obeys_types_iff.mpr rfl
  rw [schema_eq, accepts_cons, accepts_cons, accepts_singleton, obeys_all_iff rfl]
  refine ⟨fun s hs => ?_, htypes, hnothing _⟩
  rw [eq_vocabulary hs, vocabulary, accepts_cons, accepts_singleton]
  exact ⟨htypes, hnothing _⟩

/-! ## 3. Objects -/

/-- Whether a value is what the draft asks for under a key. -/
def Suits (p : String × Value) : Prop :=
  ∀ s, keyword? p.1 = some s → Accepts .draft202012 s p.2

theorem suits_iff {key : String} {s : Schema} {v : Value} (h : keyword? key = some s) :
    Suits (key, v) ↔ Accepts .draft202012 s v := by
  constructor
  · intro hsuits
    exact hsuits s h
  · intro haccepts s' hs'
    rw [h] at hs'
    cases hs'
    exact haccepts

theorem suits_of_none {key : String} {v : Value} (h : keyword? key = none) : Suits (key, v) := by
  intro s hs
  rw [h] at hs
  cases hs

variable {es : Entries String Value}

/-- An object is accepted if all of its entries suit the draft. -/
theorem accepts_obj_of_suits (hjson : (Value.obj es).isJson = true) (h : ∀ p ∈ es, Suits p) :
    Accepts .draft202012 schema (.obj es) := by
  refine (accepts_map_iff hjson).mpr fun p hp u hu => ?_
  rw [Value.member?_obj] at hu
  exact h (p.1, u) (Entries.mem_of_lookup hu) p.2 (keyword?_of_mem hp)

/-- What an accepted object has under a key suits the draft. -/
theorem suits_of_accepts (hjson : (Value.obj es).isJson = true)
    (h : Accepts .draft202012 schema (.obj es)) {key : String} {u : Value}
    (hu : es.lookup key = some u) : Suits (key, u) := by
  intro s hkey
  refine (accepts_map_iff hjson).mp h (key, s) (Entries.mem_of_lookup hkey) u ?_
  rw [Value.member?_obj]
  exact hu

end Draft202012

end Schemata.MetaSchema
