import Mathlib.Data.List.Nodup
import Schemata.Lint.Rules
/-!
# Names that occur once

The lint goes through a list with the names that came before, and reports a name that is among them.

* `Lint.nodup_cons_iff`: one step of that, for whatever the names are of.
* `Lint.entityNames_nodup_iff`, `Lint.fieldNames_nodup_iff`: there is no such report exactly if
  every name occurs once.
-/

namespace Schemata.Lint

/-! ## 1. One step -/

theorem forall_mem_when {b : Bool} {i : Issue} {P : Issue → Prop} :
    (∀ j ∈ when b i, P j) ↔ (b = true → P i) := by
  unfold when
  cases b <;> simp

/-- Names that occur once and not before: the first did not occur before, and for the others it has
occurred. -/
theorem nodup_cons_iff {α : Type} {name : α → String} {a : α} {rest : List α}
    {seen : List String} :
    ((a :: rest).map name).Nodup ∧ (∀ x ∈ a :: rest, name x ∉ seen) ↔
      name a ∉ seen ∧ (rest.map name).Nodup ∧ ∀ x ∈ rest, name x ∉ name a :: seen := by
  rw [List.map_cons, List.nodup_cons, List.forall_mem_cons, List.mem_map]
  constructor
  · rintro ⟨⟨hfirst, hnodup⟩, hnew, hrest⟩
    refine ⟨hnew, hnodup, fun x hx hmem => ?_⟩
    rcases List.mem_cons.mp hmem with heq | hseen
    · exact hfirst ⟨x, hx, heq⟩
    · exact hrest x hx hseen
  · rintro ⟨hnew, hnodup, hrest⟩
    refine ⟨⟨?_, hnodup⟩, hnew, fun x hx hseen => hrest x hx (List.mem_cons_of_mem _ hseen)⟩
    rintro ⟨x, hx, heq⟩
    exact hrest x hx (heq ▸ List.mem_cons_self)

/-! ## 2. What the lint says of repeated names -/

/-- Scanning reports no repeated name exactly if there is none, here or before. -/
theorem entityNamesFrom_nodup_iff : ∀ (es : List Entity) (names tables : List String),
    (∀ i ∈ entityNamesFrom names tables es, i.code ≠ "DUPLICATE_ENTITY_NAME") ↔
      (es.map Entity.name).Nodup ∧ ∀ e ∈ es, e.name ∉ names
  | [], _, _ => by simp [entityNamesFrom]
  | e :: rest, names, tables => by
    rw [nodup_cons_iff, ← entityNamesFrom_nodup_iff rest (e.name :: names) (e.tableName :: tables)]
    simp only [entityNamesFrom, List.forall_mem_append, forall_mem_when]
    simp [Issue.code]

/-- **Entities have names of their own** exactly if the lint reports none that is repeated. -/
theorem entityNames_nodup_iff {m : Model} :
    (∀ i ∈ entityNames m, i.code ≠ "DUPLICATE_ENTITY_NAME") ↔ m.entityNames.Nodup := by
  rw [entityNames, entityNamesFrom_nodup_iff, Model.entityNames]
  simp

theorem fieldNamesFrom_nodup_iff (entity : String) : ∀ (fs : List Field) (names : List String),
    (∀ i ∈ fieldNamesFrom entity names fs, i.code ≠ "DUPLICATE_FIELD_NAME") ↔
      (fs.map Field.name).Nodup ∧ ∀ f ∈ fs, f.name ∉ names
  | [], _ => by simp [fieldNamesFrom]
  | f :: rest, names => by
    rw [nodup_cons_iff, ← fieldNamesFrom_nodup_iff entity rest (f.name :: names)]
    simp only [fieldNamesFrom, List.forall_mem_append, forall_mem_when]
    simp [Issue.code]

/-- **Fields have names of their own** in their entities exactly if the lint reports none that is
repeated. -/
theorem fieldNames_nodup_iff {m : Model} :
    (∀ i ∈ fieldNames m, i.code ≠ "DUPLICATE_FIELD_NAME") ↔
      ∀ e ∈ m.entities, e.fieldNames.Nodup := by
  rw [fieldNames]
  simp only [List.forall_mem_flatMap, fieldNamesFrom_nodup_iff, Entity.fieldNames,
    List.not_mem_nil, not_false_eq_true, implies_true, and_true]

end Schemata.Lint
