import Mathlib.Data.List.Basic
/-!
# Lines of a text

`Text.lines` cuts a text at its line feeds; what follows the last one counts as a line, if an empty
one.  `Text.ended` writes lines, each with a line feed behind it.

* `Text.lines_ended`: what is read back are the lines of what was written.
* `Text.lines_ended_iff`: they are what was written exactly if no line feed was inside of it.
-/

namespace Schemata.Text

/-! ## 1. Cutting and joining -/

/-- The pieces of a text between marks. -/
def pieces (mark : Char) (s : String) : List String := (s.toList.splitOn mark).map String.ofList

/-- The lines of a text. -/
def lines (s : String) : List String := pieces '\n' s

/-- Lines with a line feed behind each. -/
def ended (ls : List String) : String := String.join (ls.map (· ++ "\n"))

/-- A text without a character. -/
def Lacks (c : Char) (s : String) : Prop := c ∉ s.toList

instance (c : Char) (s : String) : Decidable (Lacks c s) := inferInstanceAs (Decidable (_ ∉ _))

/-- What is to hold of listed characters is decided by the list, not over all characters. -/
instance decidableOfAll {p : Char → Prop} [DecidablePred p] (cs : List Char) :
    Decidable (∀ c ∈ cs, p c) :=
  List.decidableBAll p cs

/-- A text without a line feed. -/
abbrev Unbroken (s : String) : Prop := Lacks '\n' s

theorem lacks_append {c : Char} {a b : String} : Lacks c (a ++ b) ↔ Lacks c a ∧ Lacks c b := by
  unfold Lacks
  rw [String.toList_append, List.mem_append, not_or]

theorem unbroken_append {a b : String} : Unbroken (a ++ b) ↔ Unbroken a ∧ Unbroken b :=
  lacks_append

@[simp]
theorem ended_nil : ended [] = "" := rfl

theorem ended_cons (l : String) (ls : List String) : ended (l :: ls) = l ++ "\n" ++ ended ls := by
  simp [ended]

theorem ended_append (ls more : List String) : ended (ls ++ more) = ended ls ++ ended more := by
  simp [ended]

theorem ended_map {α : Type} {line text : α → String} (h : ∀ a, text a = line a ++ "\n")
    (items : List α) : ended (items.map line) = String.join (items.map text) := by
  unfold ended
  rw [List.map_map]
  exact congrArg String.join (List.map_congr_left fun a _ => (h a).symm)

theorem ended_flatMap {α : Type} (f : α → List String) (items : List α) :
    ended (items.flatMap f) = String.join (items.map fun a => ended (f a)) := by
  induction items with
  | nil => rfl
  | cons a rest ih => rw [List.flatMap_cons, ended_append, ih, List.map_cons, String.join_cons]

/-! ## 2. Pieces -/

theorem pieces_append_cons (mark : Char) (a b : String) :
    pieces mark (a ++ String.singleton mark ++ b) = pieces mark a ++ pieces mark b := by
  have htext : (a ++ String.singleton mark ++ b).toList = a.toList ++ mark :: b.toList := by
    rw [String.toList_append, String.toList_append, String.toList_singleton, List.append_assoc]
    rfl
  unfold pieces
  rw [htext, List.splitOn_append_cons_self, List.map_append]

theorem pieces_of_lacks {mark : Char} {s : String} (h : Lacks mark s) : pieces mark s = [s] := by
  unfold pieces
  rw [List.splitOn_eq_singleton h, List.map_singleton, String.ofList_toList]

/-- The mark at which a list is cut is in none of the pieces, and they hold nothing new. -/
theorem mem_of_mem_splitOn {α : Type} [BEq α] [LawfulBEq α] {mark : α} :
    ∀ {items piece : List α}, piece ∈ items.splitOn mark → mark ∉ piece ∧ piece ⊆ items
  | [], piece, h => by
    rw [List.splitOn_nil, List.mem_singleton] at h
    rw [h]
    exact ⟨List.not_mem_nil, List.nil_subset _⟩
  | x :: rest, piece, h => by
    obtain ⟨first, more, hrest⟩ := List.exists_cons_of_ne_nil (List.splitOn_ne_nil mark rest)
    have hpieces : ∀ p ∈ first :: more, mark ∉ p ∧ p ⊆ rest :=
      fun p hp => mem_of_mem_splitOn (hrest ▸ hp)
    have hlater : ∀ p ∈ first :: more, mark ∉ p ∧ p ⊆ x :: rest :=
      fun p hp => ⟨(hpieces p hp).1, List.subset_cons_of_subset x (hpieces p hp).2⟩
    rw [List.splitOn_cons_eq_if_modifyHead, hrest] at h
    split at h
    · rcases List.mem_cons.mp h with rfl | hmore
      · exact ⟨List.not_mem_nil, List.nil_subset _⟩
      · exact hlater piece hmore
    · next hx =>
      rw [List.modifyHead_cons] at h
      rcases List.mem_cons.mp h with rfl | hmore
      · obtain ⟨hmark, hsub⟩ := hpieces first List.mem_cons_self
        refine ⟨?_, List.cons_subset_cons x hsub⟩
        rw [List.mem_cons, not_or]
        exact ⟨fun heq => hx (beq_iff_eq.mpr heq.symm), hmark⟩
      · exact hlater piece (List.mem_cons_of_mem _ hmore)

theorem lacks_of_mem_pieces {mark : Char} {s piece : String} (h : piece ∈ pieces mark s) :
    Lacks mark piece ∧ ∀ c, Lacks c s → Lacks c piece := by
  obtain ⟨chars, hchars, rfl⟩ := List.mem_map.mp h
  obtain ⟨hmark, hsub⟩ := mem_of_mem_splitOn hchars
  unfold Lacks
  rw [String.toList_ofList]
  exact ⟨hmark, fun c hc hmem => hc (hsub hmem)⟩

/-! ## 3. Reading lines back -/

theorem lines_append_cons (a b : String) : lines (a ++ "\n" ++ b) = lines a ++ lines b :=
  pieces_append_cons '\n' a b

/-- The text is its only line exactly if nothing breaks it. -/
theorem lines_eq_self_iff {s : String} : lines s = [s] ↔ Unbroken s := by
  refine ⟨fun h => (lacks_of_mem_pieces (s := s) ?_).1, pieces_of_lacks⟩
  change s ∈ lines s
  rw [h]
  exact List.mem_singleton_self s

/-- **What is read back** are the lines of what was written. -/
theorem lines_ended (ls : List String) (rest : String) :
    lines (ended ls ++ rest) = ls.flatMap lines ++ lines rest := by
  induction ls with
  | nil => rw [ended_nil, String.empty_append, List.flatMap_nil, List.nil_append]
  | cons l ls ih =>
    rw [ended_cons, String.append_assoc, lines_append_cons, ih, List.flatMap_cons,
      List.append_assoc]

theorem flatMap_lines_eq_self_iff {ls : List String} :
    ls.flatMap lines = ls ↔ ∀ l ∈ ls, Unbroken l := by
  constructor
  · intro h l hl
    rw [← h] at hl
    obtain ⟨text, -, hmem⟩ := List.mem_flatMap.mp hl
    exact (lacks_of_mem_pieces hmem).1
  · intro h
    rw [List.flatMap_congr fun l hl => lines_eq_self_iff.mpr (h l hl), List.flatMap_singleton']

/-- **Lines are read back as they were written** exactly if nothing breaks them. -/
theorem lines_ended_iff {ls : List String} {rest : String} :
    lines (ended ls ++ rest) = ls ++ lines rest ↔ ∀ l ∈ ls, Unbroken l := by
  rw [lines_ended, List.append_left_inj, flatMap_lines_eq_self_iff]

theorem lines_ended_of_unbroken {ls : List String} (h : ∀ l ∈ ls, Unbroken l) :
    lines (ended ls) = ls ++ [""] := by
  rw [← String.append_empty (s := ended ls)]
  exact lines_ended_iff.mpr h

end Schemata.Text
