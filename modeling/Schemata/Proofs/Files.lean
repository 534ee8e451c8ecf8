import Mathlib.Data.List.Infix
import Schemata.FileTree
/-!
# Writing into a tree of files

What a write changes, and what it leaves alone.

* `node?_put_self`, `node?_put_of_ne`: putting something at a place.
* `node?_makeDirectory`: making a directory touches only the places on the way to it.
* `attempt_cases`: how an attempt to write a file can end.
* `node?_of_failed`: an attempt that fails makes directories on its way, and does nothing else.
* `node?_attempt_of_apart`: an attempt touches no place that neither leads to its own nor lies below
  it.
* `text?_attempt`: an attempt that does not fail leaves its text at its place, or the directory onto
  which it was moved.
* `attempt_mode`: where no directory stands, both ways of writing do the same.
-/

namespace Schemata.FileTree

/-! ## 1. Putting -/

theorem node?_eq_lookup {t : FileTree} {p : Place} (hp : p ≠ []) :
    t.node? p = t.nodes.lookup p := by
  rw [node?, if_neg (by simpa using hp)]

theorem node?_put_self {t : FileTree} {p : Place} (hp : p ≠ []) (n : FileNode) :
    (t.put p n).node? p = some n := by
  have hgone : (t.nodes.filter fun e => e.1 ≠ p).lookup p = none := by
    rw [List.lookup_eq_none_iff]
    intro e he
    have hne : e.1 ≠ p := by simpa using (List.mem_filter.mp he).2
    exact bne_iff_ne.mpr hne.symm
  rw [node?_eq_lookup hp, put, List.lookup_append, hgone, Option.none_or, List.lookup_cons_self]

theorem lookup_filter_ne {p q : Place} (hne : q ≠ p) : ∀ nodes : List (Place × FileNode),
    (nodes.filter fun e => e.1 ≠ p).lookup q = nodes.lookup q
  | [] => rfl
  | e :: rest => by
    by_cases he : e.1 = p
    · have hq : (q == e.1) = false := by simpa [he] using hne
      rw [List.filter_cons_of_neg (by simpa using he), lookup_filter_ne hne rest, List.lookup_cons,
        hq]
    · rw [List.filter_cons_of_pos (by simpa using he), List.lookup_cons, List.lookup_cons,
        lookup_filter_ne hne rest]

theorem node?_put_of_ne {t : FileTree} {p q : Place} (hne : q ≠ p) (n : FileNode) :
    (t.put p n).node? q = t.node? q := by
  by_cases hq : q = []
  · subst hq
    rfl
  · rw [node?_eq_lookup hq, node?_eq_lookup hq, put, List.lookup_append, lookup_filter_ne hne,
      List.lookup_cons, beq_eq_false_iff_ne.mpr hne, List.lookup_nil, Option.or_none]

theorem isDirectory_congr {t t' : FileTree} {p : Place} (h : t'.node? p = t.node? p) :
    t'.isDirectory p = t.isDirectory p := by
  rw [isDirectory, isDirectory, h]

/-! ## 2. Making directories -/

theorem node?_makeFrom {q : Place} : ∀ {parts : List String} {t : FileTree} {here : Place},
    ¬ q <+: here ++ parts → (makeFrom t here parts).1.node? q = t.node? q
  | [], _, _, _ => rfl
  | part :: rest, t, here, hq => by
    have hsame : here ++ part :: rest = (here ++ [part]) ++ rest := by simp
    rw [hsame] at hq
    have hne : q ≠ here ++ [part] := fun heq => hq (heq ▸ List.prefix_append _ _)
    simp only [makeFrom]
    split
    · exact node?_makeFrom hq
    · rfl
    · split
      · rfl
      · rw [node?_makeFrom hq, node?_put_of_ne hne]

theorem node?_makeDirectory {t : FileTree} {p q : Place} (hq : ¬ q <+: p) :
    (t.makeDirectory p).1.node? q = t.node? q := by
  have hq' : ¬ q <+: [] ++ p := hq
  unfold makeDirectory
  split
  · rfl
  · exact node?_makeFrom hq'

/-- On the way, directories are made where nothing was, and nothing else is done. -/
theorem makeFrom_only (q : Place) : ∀ (t : FileTree) (here : Place) (parts : List String),
    (makeFrom t here parts).1.node? q = t.node? q ∨
      t.node? q = none ∧ (makeFrom t here parts).1.node? q = some .directory
  | _, _, [] => .inl rfl
  | t, here, part :: rest => by
    simp only [makeFrom]
    split
    · exact makeFrom_only q t (here ++ [part]) rest
    · exact .inl rfl
    · rename_i hnone
      split
      · exact .inl rfl
      · by_cases hq : q = here ++ [part]
        · have hput := node?_put_self (t := t) (p := here ++ [part]) (by simp) .directory
          rcases makeFrom_only q (t.put (here ++ [part]) .directory) (here ++ [part]) rest
            with hsame | ⟨hput', -⟩
          · exact .inr ⟨hq ▸ hnone, by rw [hsame, hq, hput]⟩
          · rw [hq, hput] at hput'
            cases hput'
        · have hput := node?_put_of_ne (t := t) hq .directory
          rw [← hput]
          exact makeFrom_only q _ (here ++ [part]) rest

theorem makeDirectory_only (t : FileTree) (p q : Place) :
    (t.makeDirectory p).1.node? q = t.node? q ∨
      t.node? q = none ∧ (t.makeDirectory p).1.node? q = some .directory := by
  unfold makeDirectory
  split
  · exact .inl rfl
  · exact makeFrom_only q t [] p

theorem not_prefix_dropLast {p : Place} (hp : p ≠ []) : ¬ p <+: p.dropLast := by
  intro h
  have hlength := h.length_le
  have hpos := List.length_pos_iff.mpr hp
  rw [List.length_dropLast] at hlength
  omega

/-- Making the directory of a file leaves the place of the file alone. -/
theorem isDirectory_made {t : FileTree} {p : Place} (hp : p ≠ []) :
    (t.makeDirectory p.dropLast).1.isDirectory p = t.isDirectory p :=
  isDirectory_congr (node?_makeDirectory (not_prefix_dropLast hp))

/-! ## 3. Writing -/

/-- **How an attempt ends**, with the directory made as far as it goes: it fails, puts its text
inside the directory that stands at its place, or puts it there. -/
theorem attempt_cases (t : FileTree) (mode : WriteMode) (p : Place) (text : String) :
    let made := (t.makeDirectory p.dropLast).1
    (∃ f, t.attempt mode p text = (made, some f)) ∨
    (made.isDirectory p = true ∧ mode = .atomic ∧ t.attempt mode p text
      = (made.put (p ++ [made.freeName p (p.getLastD "")]) (.file text), none)) ∨
    (made.isDirectory p = false ∧ t.attempt mode p text = (made.put p (.file text), none)) := by
  unfold attempt
  rcases t.makeDirectory p.dropLast with ⟨made, _ | f⟩
  · simp only
    split
    · exact .inl ⟨_, rfl⟩
    · cases hdirectory : made.isDirectory p with
      | false => exact .inr (.inr ⟨rfl, rfl⟩)
      | true =>
        cases mode with
        | plain => exact .inl ⟨_, rfl⟩
        | atomic => exact .inr (.inl ⟨rfl, rfl, rfl⟩)
  · exact .inl ⟨f, rfl⟩

/-- **An attempt that fails makes directories on its way, and does nothing else.** -/
theorem node?_of_failed {t : FileTree} {mode : WriteMode} {p : Place} {text : String} {f : Fault}
    (h : (t.attempt mode p text).2 = some f) (q : Place) :
    (t.attempt mode p text).1.node? q = t.node? q ∨
      t.node? q = none ∧ (t.attempt mode p text).1.node? q = some .directory := by
  rcases attempt_cases t mode p text with ⟨f', hend⟩ | ⟨-, -, hend⟩ | ⟨-, hend⟩
  · rw [hend]
    exact makeDirectory_only t p.dropLast q
  · rw [hend] at h
    cases h
  · rw [hend] at h
    cases h

/-- **An attempt is local.**  It touches only places that lead to its own or lie below it. -/
theorem node?_attempt_of_apart {t : FileTree} {mode : WriteMode} {p q : Place} {text : String}
    (hpq : ¬ p <+: q) (hqp : ¬ q <+: p) : (t.attempt mode p text).1.node? q = t.node? q := by
  have hmade : (t.makeDirectory p.dropLast).1.node? q = t.node? q :=
    node?_makeDirectory fun hpre => hqp (hpre.trans (List.dropLast_prefix p))
  rcases attempt_cases t mode p text with ⟨f, hend⟩ | ⟨-, -, hend⟩ | ⟨-, hend⟩
  · rw [hend, hmade]
  · rw [hend, ← hmade]
    refine node?_put_of_ne (fun heq => hpq ?_) _
    rw [heq]
    exact List.prefix_append _ _
  · rw [hend, ← hmade]
    refine node?_put_of_ne (fun heq => hpq ?_) _
    rw [heq]

/-- **What an attempt that does not fail leaves at its place**: the text, or the directory onto
which it was moved. -/
theorem node?_attempt {t : FileTree} {mode : WriteMode} {p : Place} {text : String} (hp : p ≠ [])
    (h : (t.attempt mode p text).2 = none) :
    (t.attempt mode p text).1.node? p
      = if t.isDirectory p then some .directory else some (.file text) := by
  rcases attempt_cases t mode p text with ⟨f, hend⟩ | ⟨hdirectory, -, hend⟩ | ⟨hdirectory, hend⟩
  · rw [hend] at h
    cases h
  · rw [hend, node?_put_of_ne (by simp), ← isDirectory_made hp, if_pos hdirectory]
    rw [isDirectory, decide_eq_true_eq] at hdirectory
    exact hdirectory
  · rw [hend, node?_put_self hp, ← isDirectory_made hp, hdirectory, if_neg Bool.false_ne_true]

theorem text?_attempt {t : FileTree} {mode : WriteMode} {p : Place} {text : String} (hp : p ≠ [])
    (h : (t.attempt mode p text).2 = none) :
    (t.attempt mode p text).1.text? p = if t.isDirectory p then none else some text := by
  rw [text?, node?_attempt hp h]
  cases t.isDirectory p <;> rfl

/-- A plain attempt onto a directory fails. -/
theorem not_isDirectory_of_plain {t : FileTree} {p : Place} {text : String} (hp : p ≠ [])
    (h : (t.attempt .plain p text).2 = none) : t.isDirectory p = false := by
  rcases attempt_cases t .plain p text with ⟨f, hend⟩ | ⟨-, hmode, -⟩ | ⟨hdirectory, -⟩
  · rw [hend] at h
    cases h
  · cases hmode
  · exact (isDirectory_made hp).symm.trans hdirectory

/-- Where no directory stands, both ways of writing do the same. -/
theorem attempt_mode {t : FileTree} {p : Place} (mode mode' : WriteMode) (text : String)
    (hp : p ≠ []) (h : t.isDirectory p = false) :
    t.attempt mode p text = t.attempt mode' p text := by
  have hnone := (isDirectory_made hp).trans h
  unfold attempt
  rcases hmade : t.makeDirectory p.dropLast with ⟨made, _ | f⟩
  · rw [hmade] at hnone
    simp only [hnone, Bool.false_eq_true, ↓reduceIte]
  · rfl

end Schemata.FileTree
