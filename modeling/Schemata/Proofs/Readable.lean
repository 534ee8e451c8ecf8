import Schemata.Json.Reader
import Schemata.Proofs.Entries
import Schemata.Proofs.Rounding
import Schemata.Proofs.Writing
/-!
# Values that a text stands for

A JSON text stands for values of JSON of one kind only: those in which no object has a key twice,
and whose floating-point numbers are in the form in which the format has them.

* `Json.isReadable_of_read`: whatever is read from a text is such a value.
-/

namespace Schemata

/-! ## 1. What a text can say -/

/-- Whether a scalar is one that a text stands for: a number with a fraction is in the form in which
the format has it. -/
def Scalar.isReadable : Scalar → Bool
  | .float x => x.isCanonical
  | s => s.isJson

namespace Value

mutual

/-- Whether a value is one that a text stands for: a value of JSON in which no object has a key
twice, and every number is in its form. -/
def isReadable : Value → Bool
  | atom s => s.isReadable
  | list items => areReadable items
  | map entries => decide (Entries.keys entries).Nodup && membersAreReadable entries
  | set _ | pair .. | outer .. => false

def areReadable : List Value → Bool
  | [] => true
  | v :: rest => v.isReadable && areReadable rest

def membersAreReadable : List (Scalar × Value) → Bool
  | [] => true
  | (k, v) :: rest => k.kind = .str && v.isReadable && membersAreReadable rest

end

theorem areReadable_iff : ∀ {items : List Value},
    areReadable items = true ↔ ∀ v ∈ items, v.isReadable = true
  | [] => by simp [areReadable]
  | v :: rest => by
    rw [areReadable, Bool.and_eq_true, areReadable_iff, List.forall_mem_cons]

theorem membersAreReadable_iff : ∀ {entries : List (Scalar × Value)},
    membersAreReadable entries = true ↔ ∀ p ∈ entries, p.1.kind = .str ∧ p.2.isReadable = true
  | [] => by simp [membersAreReadable]
  | p :: rest => by
    rw [membersAreReadable, Bool.and_eq_true, Bool.and_eq_true, membersAreReadable_iff,
      List.forall_mem_cons, decide_eq_true_eq]

theorem isReadable_map {entries : List (Scalar × Value)} :
    (map entries).isReadable = true ↔ (Entries.keys entries).Nodup ∧
      ∀ p ∈ entries, p.1.kind = .str ∧ p.2.isReadable = true := by
  rw [isReadable, Bool.and_eq_true, decide_eq_true_eq, membersAreReadable_iff]

theorem isReadable_obj {es : Entries String Value} :
    (obj es).isReadable = true ↔ es.keys.Nodup ∧ ∀ p ∈ es, p.2.isReadable = true := by
  have hinjective : Function.Injective Scalar.str := fun _ _ h => Scalar.str.inj h
  have hkeys : Entries.keys (es.map fun p => (Scalar.str p.1, p.2)) = es.keys.map Scalar.str := by
    simp [Entries.keys, Function.comp_def]
  change (map (es.map fun p => (Scalar.str p.1, p.2))).isReadable = true ↔ _
  rw [isReadable_map, hkeys, List.nodup_map_iff hinjective, List.forall_mem_map]
  exact and_congr_right fun _ => forall₂_congr fun p _ => and_iff_right rfl

/-- The parts of a value that a text stands for are such values. -/
theorem hereditary_isReadable : Hereditary fun v => v.isReadable = true where
  nothing := rfl
  item h hv := by
    rw [isReadable] at h
    exact areReadable_iff.mp h _ hv
  entry h hp := ((isReadable_map.mp h).2 _ hp).2

mutual

/-- A value that a text stands for is a value of JSON. -/
theorem isJson_of_isReadable : ∀ {v : Value}, v.isReadable = true → v.isJson = true
  | atom s, h => by
    rw [isJson]
    cases s with
    | float => rfl
    | null | bool | int | str | date | moment | bytes => exact h
  | list _, h => areJson_of_areReadable h
  | map entries, h => by
    rw [isReadable, Bool.and_eq_true] at h
    exact membersAreJson_of_membersAreReadable h.2

theorem areJson_of_areReadable : ∀ {items : List Value},
    areReadable items = true → areJson items = true
  | [], _ => rfl
  | v :: rest, h => by
    rw [areReadable, Bool.and_eq_true] at h
    rw [areJson, isJson_of_isReadable h.1, areJson_of_areReadable h.2]
    rfl

theorem membersAreJson_of_membersAreReadable : ∀ {entries : List (Scalar × Value)},
    membersAreReadable entries = true → membersAreJson entries = true
  | [], _ => rfl
  | (k, v) :: rest, h => by
    rw [membersAreReadable, Bool.and_eq_true, Bool.and_eq_true] at h
    rw [membersAreJson, h.1.1, isJson_of_isReadable h.1.2,
      membersAreJson_of_membersAreReadable h.2]
    rfl

end

end Value

namespace Json

/-! ## 2. What is read -/

theorem isReadable_of_mem_words {p : String × Scalar} (h : p ∈ words) : p.2.isReadable = true := by
  simp only [words, List.mem_cons, List.not_mem_nil, or_false] at h
  rcases h with rfl | rfl | rfl | rfl | rfl | rfl <;> rfl

theorem isReadable_of_number {negative : Bool} {cs rest : List Char} {s : Scalar}
    (h : number negative cs = some (.ok s, rest)) : s.isReadable = true := by
  obtain ⟨⟨ds, more⟩, -, h⟩ := Option.map_eq_some_iff.mp h
  dsimp only at h
  split at h
  · cases h
    exact Binary64.isCanonical_ofDecimal ..
  · split at h
    · cases h
    · cases h
      rfl

theorem isReadable_of_scalar {cs rest : List Char} {v : Value} (h : scalar cs = .ok (v, rest)) :
    v.isReadable = true := by
  unfold scalar at h
  split at h
  · rename_i s more hword
    cases h
    obtain ⟨⟨w, s'⟩, hp, hsome⟩ := List.exists_of_findSome?_eq_some hword
    dsimp only at hsome
    split at hsome
    · cases hsome
      exact isReadable_of_mem_words hp
    · cases hsome
  · dsimp only at h
    split at h
    · rename_i s more hnumber
      cases h
      split at hnumber
      · exact isReadable_of_number hnumber
      · exact isReadable_of_number hnumber
    · cases h
    · cases h

/-- Entries in which no key stands twice keep that when one is put, and so do values that can be
read. -/
theorem isReadable_put {entries : List (Scalar × Value)} (key : String) {v : Value}
    (h : (Value.map entries).isReadable = true) (hv : v.isReadable = true) :
    (Value.map (Entries.put (.str key) v entries)).isReadable = true := by
  rw [Value.isReadable_map] at h ⊢
  refine ⟨?_, fun p hp => ?_⟩
  · by_cases hmem : Scalar.str key ∈ Entries.keys entries
    · rw [Entries.keys_put_of_mem hmem]
      exact h.1
    · rw [Entries.put_of_not_mem hmem, Entries.keys_append]
      refine List.nodup_append.mpr ⟨h.1, List.nodup_singleton _, ?_⟩
      rintro k hk _ hk' rfl
      rw [List.mem_singleton.mp hk'] at hk
      exact hmem hk
  · rcases Entries.mem_put hp with ⟨hvalue, hkey⟩ | hp
    · exact ⟨hkey ▸ rfl, hvalue ▸ hv⟩
    · exact h.2 p hp

mutual

theorem isReadable_of_value : ∀ {fuel : Nat} {cs rest : List Char} {v : Value},
    value fuel cs = .ok (v, rest) → v.isReadable = true
  | fuel + 1, cs, rest, v, h => by
    rw [value.eq_def] at h
    dsimp only at h
    split at h
    · obtain ⟨⟨s, more⟩, -, h⟩ := bind_eq_ok.mp h
      cases h
      rfl
    · split at h
      · cases h
        rfl
      · obtain ⟨⟨entries, more⟩, hmembers, h⟩ := bind_eq_ok.mp h
        cases h
        exact isReadable_of_members rfl hmembers
    · split at h
      · cases h
        rfl
      · obtain ⟨⟨items, more⟩, helements, h⟩ := bind_eq_ok.mp h
        cases h
        exact areReadable_of_elements helements
    · exact isReadable_of_scalar h

theorem areReadable_of_elements : ∀ {fuel : Nat} {cs rest : List Char} {items : List Value},
    elements fuel cs = .ok (items, rest) → Value.areReadable items = true
  | fuel + 1, cs, rest, items, h => by
    rw [elements.eq_def] at h
    dsimp only at h
    obtain ⟨⟨v, more⟩, hvalue, h⟩ := bind_eq_ok.mp h
    have hv := isReadable_of_value hvalue
    split at h
    · cases h
      rw [Value.areReadable, hv]
      rfl
    · obtain ⟨⟨others, more⟩, helements, h⟩ := bind_eq_ok.mp h
      cases h
      rw [Value.areReadable, hv, areReadable_of_elements helements]
      rfl
    · cases h

theorem isReadable_of_members : ∀ {fuel : Nat} {cs rest : List Char}
    {entries es : List (Scalar × Value)}, (Value.map entries).isReadable = true →
    members fuel entries cs = .ok (es, rest) → (Value.map es).isReadable = true
  | fuel + 1, cs, rest, entries, es, hentries, h => by
    rw [members.eq_def] at h
    dsimp only at h
    split at h
    · obtain ⟨⟨key, more⟩, -, h⟩ := bind_eq_ok.mp h
      dsimp only at h
      split at h
      · obtain ⟨⟨v, more⟩, hvalue, h⟩ := bind_eq_ok.mp h
        have hput := isReadable_put (String.ofList key) hentries (isReadable_of_value hvalue)
        dsimp only at h
        split at h
        · cases h
          exact hput
        · exact isReadable_of_members hput h
        · cases h
      · cases h
    · cases h

end

/-- **Whatever is read from a text is a value that a text stands for.** -/
theorem isReadable_of_read {text : String} {v : Value} (h : read text = .ok v) :
    v.isReadable = true := by
  have hdocument := mapError_eq_ok.mp h
  unfold document at hdocument
  split at hdocument
  · cases hdocument
  · obtain ⟨⟨v', rest⟩, hvalue, hdocument⟩ := bind_eq_ok.mp hdocument
    dsimp only at hdocument
    split at hdocument
    · cases hdocument
      exact isReadable_of_value hvalue
    · cases hdocument

end Json

end Schemata
