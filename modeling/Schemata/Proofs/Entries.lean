import Mathlib.Data.List.Nodup
import Schemata.Value
/-!
# Ordered maps, by keys and by look-up

The documents are ordered maps that loops fill key by key.  Two readings of such a map are enough
for everything that is said about them: its keys in order, and what stands under a key.

* `keys_ofList`: the keys of a map made of pairs are the keys of the pairs, each where it first
  occurred.
* `lookup_ofList`: under a key stands the value of the last pair with it.
* `putAll_eq_append`: entries whose keys are new and distinct are put at the end, untouched.
* `addAll` is the other kind of loop, which leaves alone what is already there: `keys_addAll` gives
  it the same keys, `lookup_addAll` the value of the first pair.
* `lookup_filterMap`: a map of those items that have a value has it under the name of the item.
-/

namespace Schemata

/-! ## 1. First occurrences -/

section FirstOccurrences

variable {α β : Type} [BEq α] [LawfulBEq α] [BEq β] [LawfulBEq β]

theorem eraseDups_nodup : ∀ l : List α, l.eraseDups.Nodup
  | [] => by simp
  | x :: rest => by
    have hlen := List.length_filter_le (fun y => !y == x) rest
    rw [List.eraseDups_cons, List.nodup_cons]
    refine ⟨?_, eraseDups_nodup (rest.filter fun y => !y == x)⟩
    intro hx
    simp [List.mem_eraseDups] at hx
  termination_by l => l.length

theorem eraseDups_of_nodup : ∀ {l : List α}, l.Nodup → l.eraseDups = l
  | [], _ => rfl
  | x :: rest, h => by
    obtain ⟨hx, hrest⟩ := List.nodup_cons.mp h
    have hfilter : rest.filter (fun y => !y == x) = rest := by
      rw [List.filter_eq_self]
      intro y hy
      have : y ≠ x := fun e => hx (e ▸ hy)
      simpa using this
    rw [List.eraseDups_cons, hfilter, eraseDups_of_nodup hrest]

/-- What first occurs is found before or after an injective renaming. -/
theorem eraseDups_map {f : α → β} : ∀ {l : List α},
    (∀ x ∈ l, ∀ y ∈ l, f x = f y → x = y) → (l.map f).eraseDups = l.eraseDups.map f
  | [], _ => rfl
  | x :: rest, h => by
    have hlen := List.length_filter_le (fun y => !y == x) rest
    have hfilter : (rest.map f).filter (fun b => !b == f x)
        = (rest.filter fun y => !y == x).map f := by
      rw [List.filter_map]
      congr 1
      refine List.filter_congr fun y hy => ?_
      have hxy : f y = f x ↔ y = x :=
        ⟨h y (List.mem_cons_of_mem _ hy) x List.mem_cons_self, congrArg f⟩
      have hbeq : (f y == f x) = (y == x) := by rw [Bool.eq_iff_iff, beq_iff_eq, beq_iff_eq, hxy]
      rw [Function.comp_apply, hbeq]
    rw [List.map_cons, List.eraseDups_cons, List.eraseDups_cons, List.map_cons, hfilter]
    rw [eraseDups_map (l := rest.filter fun y => !y == x)]
    intro a ha b hb
    exact h a (List.mem_cons_of_mem _ (List.mem_filter.mp ha).1) b
      (List.mem_cons_of_mem _ (List.mem_filter.mp hb).1)
  termination_by l => l.length

/-- An item that is put at the end of a list is not new to it any more. -/
theorem append_new_eraseDups (x : α) (old more : List α) :
    (old ++ [x]) ++ (more.filter fun y => !(old ++ [x]).contains y).eraseDups
      = old ++ (x :: more.filter fun y => !old.contains y).eraseDups := by
  have hfilter : more.filter (fun y => !(old ++ [x]).contains y)
      = (more.filter fun y => !old.contains y).filter fun y => !y == x := by
    rw [List.filter_filter]
    refine List.filter_congr fun y _ => ?_
    by_cases e : y = x <;> simp [e]
  rw [List.eraseDups_cons, hfilter, List.append_assoc, List.singleton_append]

end FirstOccurrences

namespace Entries

variable {κ ν : Type} [BEq κ] [LawfulBEq κ]

/-! ## 2. One entry -/

omit [BEq κ] [LawfulBEq κ] in
@[simp] theorem keys_nil : keys ([] : Entries κ ν) = [] := rfl

omit [BEq κ] [LawfulBEq κ] in
@[simp] theorem keys_cons (p : κ × ν) (es : Entries κ ν) : keys (p :: es) = p.1 :: keys es := rfl

omit [BEq κ] [LawfulBEq κ] in
@[simp] theorem keys_append (es fs : Entries κ ν) : keys (es ++ fs) = keys es ++ keys fs :=
  List.map_append

theorem contains_iff {key : κ} {es : Entries κ ν} : contains key es = true ↔ key ∈ keys es := by
  simp [contains, keys, List.any_eq_true]

theorem lookup_isSome_iff {key : κ} {es : Entries κ ν} :
    (es.lookup key).isSome = true ↔ key ∈ keys es := by
  rw [List.lookup_isSome_iff]
  simp only [keys, List.mem_map, beq_iff_eq]
  exact ⟨fun ⟨p, hp, e⟩ => ⟨p, hp, e.symm⟩, fun ⟨p, hp, e⟩ => ⟨p, hp, e.symm⟩⟩

theorem lookup_of_not_mem {key : κ} {es : Entries κ ν} (h : key ∉ keys es) :
    es.lookup key = none := by
  rw [← Option.not_isSome_iff_eq_none, lookup_isSome_iff]
  exact h

theorem put_of_not_mem {key : κ} {v : ν} : ∀ {es : Entries κ ν}, key ∉ keys es →
    put key v es = es ++ [(key, v)]
  | [], _ => rfl
  | (k, w) :: rest, h => by
    rw [keys_cons, List.mem_cons, not_or] at h
    have hk : (k == key) = false := beq_eq_false_iff_ne.mpr (Ne.symm h.1)
    simp only [put, hk, Bool.false_eq_true, if_false, List.cons_append]
    rw [put_of_not_mem h.2]

theorem keys_put_of_mem {key : κ} {v : ν} : ∀ {es : Entries κ ν}, key ∈ keys es →
    keys (put key v es) = keys es
  | [], h => by simp at h
  | (k, w) :: rest, h => by
    cases hk : k == key with
    | true => simp [put, hk]
    | false =>
      have hne : key ≠ k := Ne.symm (beq_eq_false_iff_ne.mp hk)
      have hrest : key ∈ keys rest := (List.mem_cons.mp h).resolve_left hne
      simp [put, hk, keys_put_of_mem hrest]

theorem lookup_put (key k : κ) (v : ν) : ∀ es : Entries κ ν,
    (put key v es).lookup k = if k == key then some v else es.lookup k
  | [] => by rw [put, List.lookup_cons, List.lookup_nil]; cases k == key <;> rfl
  | (k', w) :: rest => by
    simp only [put]
    cases hk : k' == key with
    | true =>
      have hk' : k' = key := eq_of_beq hk
      subst hk'
      cases hkk : k == k' <;> simp [List.lookup_cons, hkk]
    | false =>
      simp only [Bool.false_eq_true, if_false, List.lookup_cons, lookup_put key k v rest]
      cases hkk : k == k' with
      | false => rfl
      | true =>
        have : (k == key) = false := by rw [eq_of_beq hkk]; exact hk
        simp [this]

/-- An entry that is there already is put in vain. -/
theorem put_of_lookup {key : κ} {v : ν} : ∀ {es : Entries κ ν}, es.lookup key = some v →
    put key v es = es
  | [], h => by cases h
  | (k, w) :: rest, h => by
    rw [List.lookup_cons] at h
    rw [put]
    by_cases hk : key = k
    · subst hk
      rw [BEq.rfl] at h ⊢
      cases h
      rfl
    · rw [beq_eq_false_iff_ne.mpr hk] at h
      rw [beq_eq_false_iff_ne.mpr (Ne.symm hk), put_of_lookup h]
      rfl

/-- What stands in a map after an entry was put is that entry or was there before. -/
theorem mem_put {key : κ} {v : ν} {p : κ × ν} : ∀ {es : Entries κ ν}, p ∈ put key v es →
    p.2 = v ∧ p.1 = key ∨ p ∈ es
  | [], h => by
    rw [put, List.mem_singleton] at h
    exact Or.inl ⟨by rw [h], by rw [h]⟩
  | (k, w) :: rest, h => by
    simp only [put] at h
    split at h
    · rename_i hk
      rcases List.mem_cons.mp h with rfl | hp
      · exact Or.inl ⟨rfl, eq_of_beq hk⟩
      · exact Or.inr (List.mem_cons_of_mem _ hp)
    · rcases List.mem_cons.mp h with rfl | hp
      · exact Or.inr List.mem_cons_self
      · exact (mem_put hp).imp_right (List.mem_cons_of_mem _)

/-! ## 3. Many entries -/

omit [LawfulBEq κ] in
theorem putAll_cons (es : Entries κ ν) (p : κ × ν) (more : Entries κ ν) :
    putAll es (p :: more) = putAll (put p.1 p.2 es) more := rfl

omit [LawfulBEq κ] in
theorem ofList_eq_putAll (pairs : List (κ × ν)) : ofList pairs = putAll [] pairs := rfl

/-- The keys of a map that is filled entry by entry, a key that is there keeping its place: those it
had, then the new ones where they first occur. -/
theorem keys_foldl {step : Entries κ ν → κ × ν → Entries κ ν}
    (hold : ∀ {es p}, p.1 ∈ keys es → keys (step es p) = keys es)
    (hnew : ∀ {es p}, p.1 ∉ keys es → keys (step es p) = keys es ++ [p.1]) :
    ∀ more es : Entries κ ν, keys (more.foldl step es)
      = keys es ++ ((keys more).filter fun k => !(keys es).contains k).eraseDups
  | [], es => by simp
  | p :: more, es => by
    rw [List.foldl_cons, keys_foldl hold hnew more, keys_cons]
    by_cases hp : p.1 ∈ keys es
    · rw [hold hp, List.filter_cons_of_neg (by simpa using hp)]
    · rw [hnew hp, List.filter_cons_of_pos (by simpa using hp)]
      exact append_new_eraseDups p.1 (keys es) (keys more)

theorem keys_putAll (more es : Entries κ ν) :
    keys (putAll es more)
      = keys es ++ ((keys more).filter fun k => !(keys es).contains k).eraseDups := by
  refine keys_foldl (fun hp => keys_put_of_mem hp) (fun hp => ?_) more es
  rw [put_of_not_mem hp, keys_append]
  rfl

theorem keys_ofList (pairs : List (κ × ν)) :
    keys (ofList pairs) = (pairs.map Prod.fst).eraseDups := by
  have hnew : (keys pairs).filter (fun k => !(keys ([] : Entries κ ν)).contains k) = keys pairs :=
    List.filter_eq_self.mpr fun _ _ => rfl
  rw [ofList_eq_putAll, keys_putAll, hnew]
  rfl

/-- The keys of a map that is made of items: their names, where they first occur. -/
theorem keys_ofList_map {α : Type} (items : List α) (name : α → κ) (value : α → ν) :
    keys (ofList (items.map fun x => (name x, value x))) = (items.map name).eraseDups := by
  rw [keys_ofList, List.map_map]
  rfl

theorem lookup_putAll (k : κ) : ∀ (more es : Entries κ ν),
    (putAll es more).lookup k = (more.reverse.lookup k).or (es.lookup k)
  | [], es => by simp [putAll]
  | (key, v) :: more, es => by
    rw [putAll_cons, lookup_putAll k more, lookup_put, List.reverse_cons, List.lookup_append,
      Option.or_assoc, List.lookup_cons, List.lookup_nil]
    cases k == key <;> rfl

/-- Of several pairs with one key the last counts. -/
theorem lookup_ofList (k : κ) (pairs : List (κ × ν)) :
    (ofList pairs).lookup k = pairs.reverse.lookup k := by
  rw [ofList_eq_putAll, lookup_putAll]
  simp

omit [LawfulBEq κ] in
theorem lookup_map {α : Type} (k : κ) (items : List α) (name : α → κ) (value : α → ν) :
    (items.map fun x => (name x, value x)).lookup k
      = (items.find? fun x => k == name x).map value := by
  induction items with
  | nil => rfl
  | cons x rest ih =>
    rw [List.map_cons, List.lookup_cons, List.find?_cons]
    cases k == name x with
    | true => rfl
    | false => simpa using ih

/-- Of several items with one name the last counts. -/
theorem lookup_ofList_map {α : Type} (k : κ) (items : List α) (name : α → κ) (value : α → ν) :
    (ofList (items.map fun x => (name x, value x))).lookup k
      = (items.reverse.find? fun x => k == name x).map value := by
  rw [lookup_ofList, ← List.map_reverse, lookup_map]

theorem putAll_eq_append : ∀ (more es : Entries κ ν), (keys es ++ keys more).Nodup →
    putAll es more = es ++ more
  | [], es, _ => by simp [putAll]
  | p :: more, es, h => by
    rw [keys_cons] at h
    have hp : p.1 ∉ keys es := fun hmem =>
      (List.nodup_append.mp h).2.2 p.1 hmem p.1 List.mem_cons_self rfl
    rw [putAll_cons, put_of_not_mem hp, putAll_eq_append more (es ++ [p])]
    · simp
    · simpa using h

theorem mem_of_lookup {key : κ} {v : ν} {es : Entries κ ν} (h : es.lookup key = some v) :
    (key, v) ∈ es := by
  obtain ⟨before, after, rfl, -⟩ := List.lookup_eq_some_iff.mp h
  exact List.mem_append_right _ List.mem_cons_self

theorem lookup_of_mem {key : κ} {v : ν} : ∀ {es : Entries κ ν}, (keys es).Nodup →
    (key, v) ∈ es → es.lookup key = some v
  | [], _, h => absurd h (by simp)
  | p :: rest, hnd, h => by
    obtain ⟨hp, hrest⟩ := List.nodup_cons.mp hnd
    rw [List.lookup_cons]
    rcases List.mem_cons.mp h with rfl | hmem
    · simp
    · have hne : (key == p.1) = false := beq_eq_false_iff_ne.mpr fun e =>
        hp (e ▸ List.mem_map_of_mem (f := Prod.fst) hmem)
      rw [hne]
      exact lookup_of_mem hrest hmem

omit [LawfulBEq κ] in
/-- Maps that are put in one after the other are one list of entries to put. -/
theorem foldl_putAll {α : Type} (entries : α → Entries κ ν) : ∀ (items : List α)
    (es : Entries κ ν), items.foldl (fun acc x => putAll acc (entries x)) es
      = putAll es (items.flatMap entries)
  | [], _ => rfl
  | x :: rest, es => by
    rw [List.foldl_cons, foldl_putAll entries rest, List.flatMap_cons]
    exact List.foldl_append.symm

theorem ofList_of_nodup {pairs : List (κ × ν)} (h : (pairs.map Prod.fst).Nodup) :
    ofList pairs = pairs := by
  rw [ofList_eq_putAll, putAll_eq_append]
  · rfl
  · simpa [keys] using h

/-- A map filled under names of its own is the list that it was filled from. -/
theorem ofList_map_of_nodup {α : Type} {items : List α} {name : α → κ}
    (h : (items.map name).Nodup) (value : α → ν) :
    ofList (items.map fun x => (name x, value x)) = items.map fun x => (name x, value x) := by
  refine ofList_of_nodup ?_
  rw [List.map_map]
  exact h

/-- What stands in a filled map was put there or was there before. -/
theorem mem_putAll {p : κ × ν} : ∀ {more es : Entries κ ν}, p ∈ putAll es more →
    p ∈ more ∨ p ∈ es
  | [], _, h => Or.inr h
  | q :: more, es, h => by
    rw [putAll_cons] at h
    rcases mem_putAll h with hm | hp
    · exact Or.inl (List.mem_cons_of_mem _ hm)
    · rcases mem_put hp with ⟨hv, hk⟩ | hes
      · exact Or.inl (List.mem_cons.mpr (Or.inl (Prod.ext hk hv)))
      · exact Or.inr hes

theorem mem_ofList {p : κ × ν} {pairs : List (κ × ν)} (h : p ∈ ofList pairs) : p ∈ pairs :=
  (mem_putAll h).resolve_right (by simp)

/-! ## 4. Entries that do not overwrite -/

omit [LawfulBEq κ] in
theorem addAll_cons (es : Entries κ ν) (p : κ × ν) (more : Entries κ ν) :
    addAll es (p :: more) = addAll (add es p) more := rfl

theorem add_of_mem {p : κ × ν} {es : Entries κ ν} (h : p.1 ∈ keys es) : add es p = es :=
  if_pos (contains_iff.mpr h)

theorem add_of_not_mem {p : κ × ν} {es : Entries κ ν} (h : p.1 ∉ keys es) :
    add es p = es ++ [p] :=
  if_neg fun hc => h (contains_iff.mp hc)

theorem keys_addAll (more es : Entries κ ν) :
    keys (addAll es more)
      = keys es ++ ((keys more).filter fun k => !(keys es).contains k).eraseDups := by
  refine keys_foldl (fun hp => ?_) (fun hp => ?_) more es
  · rw [add_of_mem hp]
  · rw [add_of_not_mem hp, keys_append]
    rfl

theorem keys_addAll_nodup {es : Entries κ ν} (h : (keys es).Nodup) (more : Entries κ ν) :
    (keys (addAll es more)).Nodup := by
  rw [keys_addAll, List.nodup_append]
  refine ⟨h, eraseDups_nodup _, ?_⟩
  rintro k hk _ hnew rfl
  have hfresh := (List.mem_filter.mp (List.mem_eraseDups.mp hnew)).2
  simp [hk] at hfresh

/-- Of several pairs with one key the first counts, and what was there before them. -/
theorem lookup_addAll (k : κ) : ∀ (more es : Entries κ ν),
    (addAll es more).lookup k = (es.lookup k).or (more.lookup k)
  | [], es => by simp [addAll]
  | (key, v) :: more, es => by
    rw [addAll_cons, lookup_addAll k more, List.lookup_cons]
    by_cases hp : key ∈ keys es
    · rw [add_of_mem hp]
      cases hk : k == key with
      | false => rfl
      | true =>
        obtain ⟨w, hw⟩ := Option.isSome_iff_exists.mp (lookup_isSome_iff.mpr (eq_of_beq hk ▸ hp))
        rw [hw]
        rfl
    · rw [add_of_not_mem hp, List.lookup_append, List.lookup_cons, List.lookup_nil]
      cases hk : k == key with
      | false => rw [Option.or_none]
      | true => rw [eq_of_beq hk, lookup_of_not_mem hp]; rfl

omit [LawfulBEq κ] in
/-- What stands in a filled map was added or was there before. -/
theorem mem_addAll {p : κ × ν} : ∀ {more es : Entries κ ν}, p ∈ addAll es more →
    p ∈ more ∨ p ∈ es
  | [], _, h => Or.inr h
  | q :: more, es, h => by
    rw [addAll_cons] at h
    rcases mem_addAll h with hm | hp
    · exact Or.inl (List.mem_cons_of_mem _ hm)
    · unfold add at hp
      split at hp
      · exact Or.inr hp
      · rcases List.mem_append.mp hp with hes | hq
        · exact Or.inr hes
        · exact Or.inl (List.mem_cons.mpr (Or.inl (List.mem_singleton.mp hq)))

/-! ## 5. Maps of those items that have a value -/

section Named

variable {α : Type} {name : α → κ} {items : List α}

omit [BEq κ] [LawfulBEq κ] in
theorem keys_filterMap (name : α → κ) (value? : α → Option ν) (items : List α) :
    keys (items.filterMap fun x => (value? x).map (name x, ·))
      = (items.filter fun x => (value? x).isSome).map name := by
  induction items with
  | nil => rfl
  | cons x rest ih =>
    cases hx : value? x <;> simp [hx, ih]

omit [BEq κ] [LawfulBEq κ] in
theorem keys_filterMap_nodup (hname : Function.Injective name) (value? : α → Option ν)
    (h : items.Nodup) : (keys (items.filterMap fun x => (value? x).map (name x, ·))).Nodup := by
  rw [keys_filterMap]
  exact List.Nodup.map hname (h.filter _)

theorem lookup_filterMap (hname : Function.Injective name) (value? : α → Option ν)
    (h : items.Nodup) {x : α} (hx : x ∈ items) :
    (items.filterMap fun y => (value? y).map (name y, ·)).lookup (name x) = value? x := by
  cases hv : value? x with
  | none =>
    refine lookup_of_not_mem ?_
    rw [keys_filterMap, List.mem_map]
    rintro ⟨y, hy, hxy⟩
    rw [hname hxy, List.mem_filter, hv] at hy
    simp at hy
  | some v =>
    refine lookup_of_mem (keys_filterMap_nodup hname value? h) ?_
    exact List.mem_filterMap.mpr ⟨x, hx, by rw [hv]; rfl⟩

end Named

end Entries

end Schemata
