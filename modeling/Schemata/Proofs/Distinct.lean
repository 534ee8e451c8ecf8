import Mathlib.Data.List.Nodup
import Mathlib.Data.List.Perm.Subperm
import Schemata.MetaSchema.Check
/-!
# Lists of distinct values

A list counts as distinct if no two neighbours are equal once it is sorted, or if no two items are.

* `subperm_of_sorted?`: sorting adds no item.
* `countAsDistinct_of_nodup`: items that differ count as distinct, in whichever way that is found
  out, if their equality tells them apart.  That of texts does.
-/

namespace Schemata.Value

/-! ## 1. Sorting -/

theorem run?_append {falling : Bool} : ∀ {last : Value} {items more others : List Value},
    run? falling last items = some (more, others) → items = more ++ others
  | _, [], _, _, h => by
    cases h
    rfl
  | last, x :: rest, more, others, h => by
    rw [run?, Option.bind_eq_bind, Option.bind_eq_some_iff] at h
    obtain ⟨before, -, h⟩ := h
    split at h
    · rw [Option.bind_eq_bind, Option.bind_eq_some_iff] at h
      obtain ⟨⟨more', others'⟩, hrun, hpure⟩ := h
      cases hpure
      rw [run?_append hrun, List.cons_append]
    · cases h
      rfl

theorem subperm_insertIdxIfInBounds (sorted : Array Value) (n : Nat) (item : Value) :
    (sorted.insertIdxIfInBounds n item).toList.Subperm (item :: sorted.toList) := by
  unfold Array.insertIdxIfInBounds
  split
  · rename_i h
    rw [Array.toList_insertIdx]
    exact (List.perm_insertIdx item sorted.toList (by simpa using h)).subperm
  · exact (List.sublist_cons_self item sorted.toList).subperm

theorem subperm_of_insertAll? : ∀ {items : List Value} {sorted result : Array Value},
    insertAll? sorted items = some result → result.toList.Subperm (items ++ sorted.toList)
  | [], sorted, result, h => by
    cases h
    exact List.Subperm.refl _
  | item :: rest, sorted, result, h => by
    rw [insertAll?, List.foldlM_cons, Option.bind_eq_bind, Option.bind_eq_some_iff] at h
    obtain ⟨next, hnext, hrest⟩ := h
    rw [Option.bind_eq_bind, Option.bind_eq_some_iff] at hnext
    obtain ⟨n, -, hpure⟩ := hnext
    cases hpure
    have hthen := subperm_of_insertAll? hrest
    have hitem : (rest ++ (sorted.insertIdxIfInBounds n item).toList).Subperm
        (rest ++ item :: sorted.toList) :=
      (List.subperm_append_left rest).mpr (subperm_insertIdxIfInBounds sorted n item)
    exact (hthen.trans hitem).trans List.perm_middle.subperm

/-- Sorting adds no item. -/
theorem subperm_of_sorted? : ∀ {items sorted : List Value}, sorted? items = some sorted →
    sorted.Subperm items
  | [], _, h | [_], _, h => by
    cases h
    exact List.Subperm.refl _
  | x :: y :: rest, sorted, h => by
    rw [sorted?] at h
    simp only [Option.bind_eq_bind, Option.bind_eq_some_iff] at h
    obtain ⟨falling, -, ⟨more, others⟩, hrun, result, hresult, hpure⟩ := h
    cases hpure
    have hfront : (if falling then (x :: y :: more).reverse else x :: y :: more).Perm
        (x :: y :: more) := by
      cases falling with
      | false => exact List.Perm.refl _
      | true => exact List.reverse_perm _
    have hall := subperm_of_insertAll? hresult
    rw [run?_append hrun]
    refine hall.trans (List.Perm.subperm ?_)
    exact (hfront.append_left others).trans List.perm_append_comm

/-! ## 2. Equality -/

/-- Values of a list that are told apart by their equality. -/
def AreApart (items : List Value) : Prop :=
  ∀ v ∈ items, ∀ w ∈ items, v.agrees w = true → v = w

theorem allDistinct_of_nodup : ∀ {items : List Value}, AreApart items → items.Nodup →
    allDistinct items = true
  | [], _, _ => rfl
  | v :: rest, hapart, hnodup => by
    obtain ⟨hnot, hrest⟩ := List.nodup_cons.mp hnodup
    have hnone : rest.any v.agrees = false := by
      rw [List.any_eq_false]
      intro w hw hagrees
      exact hnot (hapart v List.mem_cons_self w (List.mem_cons_of_mem _ hw) hagrees ▸ hw)
    have hthen : allDistinct rest = true := allDistinct_of_nodup
      (fun u hu w hw => hapart u (List.mem_cons_of_mem _ hu) w (List.mem_cons_of_mem _ hw)) hrest
    rw [allDistinct, hnone, hthen]
    rfl

theorem neighboursDistinct_of_nodup : ∀ {items : List Value}, AreApart items → items.Nodup →
    neighboursDistinct items = true
  | [], _, _ | [_], _, _ => rfl
  | v :: w :: rest, hapart, hnodup => by
    obtain ⟨hnot, hrest⟩ := List.nodup_cons.mp hnodup
    have hne : v.agrees w = false := by
      rw [Bool.eq_false_iff]
      intro hagrees
      have hsame :=
        hapart v List.mem_cons_self w (List.mem_cons_of_mem _ List.mem_cons_self) hagrees
      exact hnot (hsame ▸ List.mem_cons_self)
    have hthen : neighboursDistinct (w :: rest) = true := neighboursDistinct_of_nodup
      (fun u hu x hx => hapart u (List.mem_cons_of_mem _ hu) x (List.mem_cons_of_mem _ hx)) hrest
    unfold neighboursDistinct at hthen ⊢
    simp only [List.tail_cons, List.zip_cons_cons, List.all_cons, hne, Bool.not_false,
      Bool.true_and] at hthen ⊢
    exact hthen

/-- Items that differ count as distinct, in whichever way that is found out. -/
theorem countAsDistinct_of_nodup {items : List Value} (hapart : AreApart items)
    (hnodup : items.Nodup) : countAsDistinct items = true := by
  unfold countAsDistinct
  split
  · rename_i sorted hsorted
    have hsubperm : sorted.Subperm items := by
      split at hsorted
      · cases hsorted
      · exact subperm_of_sorted? hsorted
    have hsubset := hsubperm.subset
    obtain ⟨kept, hperm, hsublist⟩ := hsubperm
    exact neighboursDistinct_of_nodup
      (fun v hv w hw => hapart v (hsubset hv) w (hsubset hw))
      (hperm.nodup_iff.mp (hnodup.sublist hsublist))
  · exact allDistinct_of_nodup hapart hnodup

theorem areApart_texts (names : List String) : AreApart (names.map Value.str) := by
  intro v hv w hw hagrees
  obtain ⟨s, -, rfl⟩ := List.mem_map.mp hv
  obtain ⟨t, -, rfl⟩ := List.mem_map.mp hw
  have hsame : s = t := by
    simpa [agrees, Scalar.agrees, Scalar.sameKey, Scalar.ratio?] using hagrees
  rw [hsame]

theorem countAsDistinct_texts {names : List String} (h : names.Nodup) :
    countAsDistinct (names.map Value.str) = true := by
  refine countAsDistinct_of_nodup (areApart_texts names) (List.Nodup.map ?_ h)
  intro s t hst
  simpa using hst

end Schemata.Value
