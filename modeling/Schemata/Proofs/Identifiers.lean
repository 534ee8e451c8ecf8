import Schemata.Proofs.Lines
import Schemata.Proofs.Names
import Schemata.Text.Casing
/-!
# Identifiers

The names of entities, tables and fields are copied into diagrams as they are, so the lint asks for
bare names: ASCII letters, digits and low lines, no digit first.

* `Lint.isIdentifier_iff`: what it accepts is a bare name, or a bare name with one line feed behind
  it.
* `Lint.acceptsNames_iff`: the lint is silent about the form of names exactly if it accepts each.
* `Text.lacks_upper`: a text of ASCII characters has the same separators in upper case.
-/

namespace Schemata

namespace Lint

/-! ## 1. Bare names -/

/-- The digits. -/
def IsDigitChar (c : Char) : Prop := '0' ≤ c ∧ c ≤ '9'

/-- The ASCII letters, the digits and the low line. -/
def IsNameChar (c : Char) : Prop :=
  ('a' ≤ c ∧ c ≤ 'z') ∨ ('A' ≤ c ∧ c ≤ 'Z') ∨ IsDigitChar c ∨ c = '_'

instance (c : Char) : Decidable (IsNameChar c) :=
  inferInstanceAs (Decidable (_ ∨ _ ∨ (_ ∧ _) ∨ _))

/-- A bare name: not empty, all letters, digits and low lines, no digit first. -/
structure IsBareName (s : String) : Prop where
  ne_empty : s ≠ ""
  chars : ∀ c ∈ s.toList, IsNameChar c
  first : ∀ c ∈ s.toList.head?, ¬ IsDigitChar c

theorem isDigit_iff {c : Char} : c.isDigit = true ↔ IsDigitChar c :=
  Bool.and_eq_true_iff.trans (and_congr decide_eq_true_iff decide_eq_true_iff)

theorem isAlpha_iff {c : Char} :
    c.isAlpha = true ↔ ('A' ≤ c ∧ c ≤ 'Z') ∨ ('a' ≤ c ∧ c ≤ 'z') := by
  have hupper : c.isUpper = true ↔ 'A' ≤ c ∧ c ≤ 'Z' := decide_eq_true_iff
  have hlower : c.isLower = true ↔ 'a' ≤ c ∧ c ≤ 'z' :=
    Bool.and_eq_true_iff.trans (and_congr decide_eq_true_iff decide_eq_true_iff)
  exact Bool.or_eq_true_iff.trans (or_congr hupper hlower)

theorem continuesIdentifier_iff {c : Char} : continuesIdentifier c = true ↔ IsNameChar c := by
  simp only [continuesIdentifier, IsNameChar, Char.isAlphanum, Bool.or_eq_true, isAlpha_iff,
    isDigit_iff, decide_eq_true_eq]
  tauto

theorem startsIdentifier_iff {c : Char} :
    startsIdentifier c = true ↔ IsNameChar c ∧ ¬ IsDigitChar c := by
  simp only [startsIdentifier, IsNameChar, IsDigitChar, isAlpha_iff, Bool.or_eq_true,
    decide_eq_true_eq, Char.le_def, UInt32.le_iff_toNat_le, Char.ext_iff, ← UInt32.toNat_inj,
    Char.reduceVal, UInt32.reduceToNat]
  omega

/-- A character of a name is none that ends a line. -/
theorem IsNameChar.ne_lineFeed {c : Char} (h : IsNameChar c) : c ≠ '\n' := by
  rintro rfl
  revert h
  unfold IsNameChar IsDigitChar
  decide

theorem IsNameChar.ascii {c : Char} (h : IsNameChar c) : c.toNat < 0x80 := by
  simp only [IsNameChar, IsDigitChar, Char.le_def, UInt32.le_iff_toNat_le] at h
  unfold Char.toNat
  rcases h with ⟨_, h⟩ | ⟨_, h⟩ | ⟨_, h⟩ | rfl
  · exact Nat.lt_of_le_of_lt h (by decide)
  · exact Nat.lt_of_le_of_lt h (by decide)
  · exact Nat.lt_of_le_of_lt h (by decide)
  · decide

theorem IsBareName.unbroken {s : String} (h : IsBareName s) : Text.Unbroken s :=
  fun hmem => (h.chars _ hmem).ne_lineFeed rfl

theorem not_isBareName_of_lineFeed (s : String) : ¬ IsBareName (s ++ "\n") := by
  intro h
  exact (Text.unbroken_append.mp h.unbroken).2 (by decide)

/-- A first character and others. -/
def isBareList : List Char → Bool
  | [] => false
  | c :: rest => startsIdentifier c && rest.all continuesIdentifier

theorem isBareList_toList {s : String} : isBareList s.toList = true ↔ IsBareName s := by
  unfold isBareList
  cases hs : s.toList with
  | nil =>
    refine ⟨nofun, fun h => absurd ?_ h.ne_empty⟩
    rwa [String.toList_eq_nil_iff] at hs
  | cons c rest =>
    simp only [Bool.and_eq_true, startsIdentifier_iff, List.all_eq_true, continuesIdentifier_iff]
    constructor
    · rintro ⟨⟨hc, hfirst⟩, hrest⟩
      refine ⟨?_, ?_, ?_⟩
      · rintro rfl
        cases hs
      · rw [hs, List.forall_mem_cons]
        exact ⟨hc, hrest⟩
      · rw [hs]
        rintro d hd
        cases hd
        exact hfirst
    · intro h
      have hchars := h.chars
      rw [hs, List.forall_mem_cons] at hchars
      exact ⟨⟨hchars.1, h.first c (by rw [hs]; rfl)⟩, hchars.2⟩

/-! ## 2. What the lint accepts -/

theorem isIdentifier_ended {s : String} : isIdentifier (s ++ "\n") = true ↔ IsBareName s := by
  have hcut : withoutFinalBreak (s ++ "\n").toList = s.toList := by
    have htext : (s ++ "\n").toList = s.toList ++ ['\n'] := String.toList_append
    rw [htext, withoutFinalBreak, List.getLast?_concat, if_pos rfl, List.dropLast_concat]
  change isBareList (withoutFinalBreak (s ++ "\n").toList) = true ↔ _
  rw [hcut, isBareList_toList]

theorem isIdentifier_of_not_ended {s : String} (h : s.toList.getLast? ≠ some '\n') :
    isIdentifier s = true ↔ IsBareName s := by
  change isBareList (withoutFinalBreak s.toList) = true ↔ _
  rw [withoutFinalBreak, if_neg h, isBareList_toList]

/-- A text that ends in a line feed, without it. -/
theorem exists_eq_ended {s : String} (h : s.toList.getLast? = some '\n') :
    ∃ init, s = init ++ "\n" := by
  obtain ⟨init, hinit⟩ := List.getLast?_eq_some_iff.mp h
  refine ⟨String.ofList init, String.toList_inj.mp ?_⟩
  rw [hinit, String.toList_append, String.toList_ofList]
  rfl

/-- **An identifier for the lint** is a bare name, perhaps with one line feed behind it. -/
theorem isIdentifier_iff {s : String} :
    isIdentifier s = true ↔ IsBareName s ∨ ∃ bare, IsBareName bare ∧ s = bare ++ "\n" := by
  by_cases hlast : s.toList.getLast? = some '\n'
  · obtain ⟨init, rfl⟩ := exists_eq_ended hlast
    rw [isIdentifier_ended]
    refine ⟨fun h => .inr ⟨init, h, rfl⟩, ?_⟩
    rintro (h | ⟨bare, h, heq⟩)
    · exact absurd h (not_isBareName_of_lineFeed init)
    · rwa [(String.append_left_inj "\n").mp heq]
  · rw [isIdentifier_of_not_ended hlast]
    refine ⟨Or.inl, ?_⟩
    rintro (h | ⟨bare, -, rfl⟩)
    · exact h
    · refine absurd ?_ hlast
      rw [String.toList_append]
      exact List.getLast?_concat

/-- A name that the lint accepts is bare exactly if it does not break a line. -/
theorem isBareName_iff_unbroken {s : String} (h : isIdentifier s = true) :
    IsBareName s ↔ Text.Unbroken s := by
  refine ⟨IsBareName.unbroken, fun hs => (isIdentifier_iff.mp h).resolve_right ?_⟩
  rintro ⟨bare, -, rfl⟩
  exact (Text.unbroken_append.mp hs).2 (by decide)

/-- The characters of an identifier. -/
theorem isNameChar_or_of_mem {s : String} (h : isIdentifier s = true) {c : Char}
    (hc : c ∈ s.toList) : IsNameChar c ∨ c = '\n' := by
  obtain hs | ⟨bare, hbare, rfl⟩ := isIdentifier_iff.mp h
  · exact .inl (hs.chars c hc)
  · rw [String.toList_append, List.mem_append] at hc
    exact hc.imp (hbare.chars c) List.mem_singleton.mp

theorem ascii_of_isIdentifier {s : String} (h : isIdentifier s = true) :
    ∀ c ∈ s.toList, c.toNat < 0x80 := by
  intro c hc
  obtain hname | rfl := isNameChar_or_of_mem h hc
  · exact hname.ascii
  · decide

theorem ne_empty_of_isIdentifier {s : String} (h : isIdentifier s = true) : s ≠ "" := by
  rintro rfl
  cases h

theorem lacks_of_isIdentifier {s : String} (h : isIdentifier s = true) {c : Char}
    (hc : ¬ IsNameChar c ∧ c ≠ '\n') : Text.Lacks c s :=
  fun hmem => (isNameChar_or_of_mem h hmem).elim hc.1 hc.2

/-! ## 3. Names without a report -/

theorem forall_mem_entityNamesFrom_iff : ∀ (es : List Entity) (names tables : List String),
    (∀ i ∈ entityNamesFrom names tables es,
        i.code ≠ "INVALID_ENTITY_NAME" ∧ i.code ≠ "INVALID_TABLE_NAME") ↔
      ∀ e ∈ es, isIdentifier e.name = true ∧ isIdentifier e.tableName = true
  | [], _, _ => by simp [entityNamesFrom]
  | e :: rest, names, tables => by
    rw [List.forall_mem_cons,
      ← forall_mem_entityNamesFrom_iff rest (e.name :: names) (e.tableName :: tables)]
    simp only [entityNamesFrom, List.forall_mem_append, forall_mem_when]
    simp [Issue.code]

theorem forall_mem_fieldNamesFrom_iff (entity : String) : ∀ (fs : List Field) (names : List String),
    (∀ i ∈ fieldNamesFrom entity names fs, i.code ≠ "INVALID_FIELD_NAME") ↔
      ∀ f ∈ fs, isIdentifier f.name = true
  | [], _ => by simp [fieldNamesFrom]
  | f :: rest, names => by
    rw [List.forall_mem_cons, ← forall_mem_fieldNamesFrom_iff entity rest (f.name :: names)]
    simp only [fieldNamesFrom, List.forall_mem_append, forall_mem_when]
    simp [Issue.code]

/-- The lint accepts all names of an entity. -/
structure AcceptsNames (e : Entity) : Prop where
  name : isIdentifier e.name = true
  tableName : isIdentifier e.tableName = true
  fields : ∀ f ∈ e.fields, isIdentifier f.name = true

/-- The names of an entity, of its table and of its fields. -/
def givenNames (e : Entity) : List String := e.name :: e.tableName :: e.fieldNames

theorem AcceptsNames.isIdentifier {e : Entity} (h : AcceptsNames e) :
    ∀ name ∈ givenNames e, isIdentifier name = true := by
  rw [givenNames, Entity.fieldNames, List.forall_mem_cons, List.forall_mem_cons,
    List.forall_mem_map]
  exact ⟨h.name, h.tableName, h.fields⟩

/-- **The lint says nothing of the form of names** exactly if it accepts each. -/
theorem acceptsNames_iff {m : Model} :
    (∀ i ∈ entityNames m, i.code ≠ "INVALID_ENTITY_NAME" ∧ i.code ≠ "INVALID_TABLE_NAME") ∧
      (∀ i ∈ fieldNames m, i.code ≠ "INVALID_FIELD_NAME") ↔ ∀ e ∈ m.entities, AcceptsNames e := by
  rw [entityNames, forall_mem_entityNamesFrom_iff, fieldNames]
  simp only [List.forall_mem_flatMap, forall_mem_fieldNamesFrom_iff]
  constructor
  · rintro ⟨hentities, hfields⟩ e he
    exact ⟨(hentities e he).1, (hentities e he).2, hfields e he⟩
  · intro h
    exact ⟨fun e he => ⟨(h e he).name, (h e he).tableName⟩, fun e he => (h e he).fields⟩

end Lint

/-! ## 4. Upper case -/

namespace Text

/-- Characters without case that part words and lines. -/
def separators : List Char := ['\n', ' ', '%']

/-- An ASCII character has one upper case, which is a separator only if the character is. -/
theorem mem_upperChar_ascii {c d : Char} (hc : c ∈ separators) (hd : d.toNat < 0x80) :
    c ∈ upperChar d ↔ d = c := by
  unfold upperChar
  rw [if_pos hd, List.mem_singleton]
  have htable : ∀ c ∈ separators, ∀ n < 0x80, c = (Char.ofNat n).toUpper ↔ Char.ofNat n = c := by
    decide
  have hchar := htable c hc d.toNat hd
  rwa [Char.ofNat_toNat] at hchar

/-- A text of ASCII characters has the same separators in upper case. -/
theorem lacks_upper {s : String} (h : ∀ c ∈ s.toList, c.toNat < 0x80) {c : Char}
    (hc : c ∈ separators) : Lacks c (upper s) ↔ Lacks c s := by
  unfold Lacks upper
  rw [String.toList_ofList, List.mem_flatMap, not_iff_not]
  constructor
  · rintro ⟨d, hd, hmem⟩
    rwa [← (mem_upperChar_ascii hc (h d hd)).mp hmem]
  · exact fun hmem => ⟨c, hmem, (mem_upperChar_ascii hc (h c hmem)).mpr rfl⟩

/-- An identifier in upper case is bare exactly if it does not break a line. -/
theorem unbroken_upper {s : String} (h : Lint.isIdentifier s = true) :
    Unbroken (upper s) ↔ Lint.IsBareName s :=
  (lacks_upper (Lint.ascii_of_isIdentifier h) (by decide)).trans
    (Lint.isBareName_iff_unbroken h).symm

theorem upper_ne_empty {s : String} (h : Lint.isIdentifier s = true) : upper s ≠ "" := by
  intro hempty
  unfold upper at hempty
  rw [String.ofList_eq_empty_iff, List.flatMap_eq_nil_iff] at hempty
  cases hs : s.toList with
  | nil => exact Lint.ne_empty_of_isIdentifier h (String.toList_eq_nil_iff.mp hs)
  | cons c rest =>
    have hc : c ∈ s.toList := hs ▸ List.mem_cons_self
    have hnone := hempty c hc
    unfold upperChar at hnone
    rw [if_pos (Lint.ascii_of_isIdentifier h c hc)] at hnone
    cases hnone

end Text

end Schemata
