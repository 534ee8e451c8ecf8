import Mathlib.Data.List.TakeWhile
import Schemata.Json.Reader
import Schemata.Json.Writer
import Schemata.Proofs.ShortestDigits
/-!
# Decimal digits as text

The digits of a number are written without zeros at their end and read with zeros around them;
neither changes what they stand for.

* `Json.digitsValue_toDigits`: the value of the digits of a natural number is the number.
* `Decimal.spells_shortest`: the digits of a number of the format, as text, spell it.
* `Decimal.Spells.ofDecimal_eq`: digits that spell a number are read as it, zeros around them or
  not.
-/

namespace Schemata

open Json (digitsValue)
open Binary64 (Normalized Rounds)

/-! ## 1. Digits -/

namespace Json

theorem digitsValue_eq (cs : List Char) : digitsValue cs = Nat.ofDigitChars 10 cs 0 := by
  rw [digitsValue, Nat.ofDigitChars_eq_foldl]

theorem digitsValue_toDigits (n : Nat) : digitsValue (Nat.toDigits 10 n) = n := by
  rw [digitsValue_eq, Nat.ofDigitChars_toDigits (by decide) (by decide)]

theorem isDigit_toDigits {n : Nat} {c : Char} (h : c ∈ Nat.toDigits 10 n) : c.isDigit = true :=
  Nat.isDigit_of_mem_toDigits (by decide) (by decide) h

/-- The digits of a number that is not zero start with another digit. -/
theorem head?_toDigits {n : Nat} (h : 0 < n) : (Nat.toDigits 10 n).head? ≠ some '0' := by
  induction n using Nat.strongRecOn with
  | _ n ih =>
    rw [Nat.toDigits_eq_if (by decide)]
    split
    · simpa [Nat.digitChar_eq_zero] using Nat.pos_iff_ne_zero.mp h
    · rename_i hge
      have hrec := ih (n / 10) (Nat.div_lt_self h (by decide)) (Nat.div_pos (by omega) (by decide))
      obtain ⟨c, rest, hcons⟩ :=
        List.exists_cons_of_ne_nil (Nat.toDigits_ne_nil (n := n / 10) (b := 10))
      rw [hcons] at hrec ⊢
      exact hrec

/-- A number between two powers of ten has as many digits as the greater one has zeros. -/
theorem length_toDigits {d n : Nat} (hlow : 10 ^ n ≤ d) (hhigh : d < 10 ^ (n + 1)) :
    (Nat.toDigits 10 d).length = n + 1 := by
  have hle := (Nat.length_toDigits_le_iff (by decide) (Nat.succ_pos n)).mpr hhigh
  refine Nat.le_antisymm hle ?_
  cases n with
  | zero => exact List.length_pos_iff.mpr Nat.toDigits_ne_nil
  | succ n =>
    by_contra hshort
    exact Nat.not_lt.mpr hlow
      ((Nat.length_toDigits_le_iff (by decide) (Nat.succ_pos n)).mp (by omega))

theorem ofDigitChars_zeros (k n : Nat) :
    Nat.ofDigitChars 10 (List.replicate k '0') n = n * 10 ^ k := by
  induction k generalizing n with
  | zero => simp
  | succ k ih =>
    rw [List.replicate_succ, Nat.ofDigitChars_cons, ih, Nat.pow_succ']
    simp only [Nat.sub_self, Nat.add_zero]
    ring

theorem digitsValue_append_zeros (cs : List Char) (k : Nat) :
    digitsValue (cs ++ List.replicate k '0') = digitsValue cs * 10 ^ k := by
  rw [digitsValue_eq, digitsValue_eq, Nat.ofDigitChars_append, ofDigitChars_zeros]

theorem digitsValue_zeros_append (k : Nat) (cs : List Char) :
    digitsValue (List.replicate k '0' ++ cs) = digitsValue cs := by
  rw [digitsValue_eq, digitsValue_eq, Nat.ofDigitChars_append, ofDigitChars_zeros, Nat.zero_mul]

/-- Zeros in front are not counted. -/
theorem dropWhile_zeros {text : List Char} (h : text.head? ≠ some '0') (hne : text ≠ [])
    (a k : Nat) :
    (List.replicate a '0' ++ text ++ List.replicate k '0').dropWhile (· = '0')
      = text ++ List.replicate k '0' := by
  obtain ⟨c, rest, rfl⟩ := List.exists_cons_of_ne_nil hne
  have hc : c ≠ '0' := fun hc => h (by rw [hc]; rfl)
  rw [List.append_assoc, List.dropWhile_append_of_pos (by simp)]
  simp [hc]

end Json

namespace Decimal

/-! ## 2. Spelling a number -/

/-- Digits that are rounded to a number of the format, if the point is after the first `point` of
them. -/
structure Spells (text : List Char) (point : Int) (m : Nat) (e : Int) : Prop where
  digits : ∀ c ∈ text, c.isDigit = true
  ne_nil : text ≠ []
  head : text.head? ≠ some '0'
  rounds : Rounds (digitsValue text * 10 ^ (point - text.length)) m e
  reach : point.natAbs ≤ 400

/-- What is cut off at the end are zeros. -/
theorem trimZeros_append {s : String} (h : s.toList.head? ≠ some '0') (hne : s.toList ≠ []) :
    ∃ k, s.toList = (trimZeros s).toList ++ List.replicate k '0' ∧ (trimZeros s).toList ≠ [] := by
  have hsplit : s.toList = (s.toList.reverse.dropWhile (· = '0')).reverse ++
      (s.toList.reverse.takeWhile (· = '0')).reverse := by
    rw [← List.reverse_append, List.takeWhile_append_dropWhile, List.reverse_reverse]
  have hzeros : (s.toList.reverse.takeWhile (· = '0')).reverse
      = List.replicate (s.toList.reverse.takeWhile (· = '0')).length '0' := by
    rw [List.eq_replicate_iff]
    refine ⟨List.length_reverse, fun c hc => ?_⟩
    simpa using List.mem_takeWhile_imp (List.mem_reverse.mp hc)
  rw [hzeros] at hsplit
  have hkept : (s.toList.reverse.dropWhile (· = '0')).reverse ≠ [] := by
    intro hnil
    rw [hnil, List.nil_append] at hsplit
    rw [hsplit] at h hne
    exact h (by rw [List.head?_replicate, if_neg fun hlength => hne (by rw [hlength]; rfl)])
  have htrim : (trimZeros s).toList = (s.toList.reverse.dropWhile (· = '0')).reverse := by
    unfold trimZeros
    simp only [List.isEmpty_iff, hkept, ↓reduceIte, String.toList_ofList]
  exact ⟨_, htrim ▸ hsplit, htrim ▸ hkept⟩

/-- **The digits of a number spell it.** -/
theorem spells_shortest {m : Nat} {e : Int} (hnormal : Normalized m e) :
    Spells (trimZeros (toString (shortest m e).digits)).toList (shortest m e).point m e := by
  obtain ⟨⟨n, hlow, hhigh, hrounds⟩, hreach⟩ := denotes_shortest hnormal
  generalize shortest m e = r at *
  obtain ⟨d, point⟩ := r
  dsimp only at *
  have hpos : 0 < d := Nat.lt_of_lt_of_le (Nat.pow_pos (by decide)) hlow
  have htext : (toString d).toList = Nat.toDigits 10 d := Nat.toList_repr
  obtain ⟨k, hcut, hne⟩ := trimZeros_append (s := toString d)
    (by rw [htext]; exact Json.head?_toDigits hpos) (by rw [htext]; exact Nat.toDigits_ne_nil)
  rw [htext] at hcut
  generalize (trimZeros (toString d)).toList = text at *
  have hlength : text.length + k = n + 1 := by
    rw [← Json.length_toDigits hlow hhigh, hcut, List.length_append, List.length_replicate]
  have hvalue : d = digitsValue text * 10 ^ k := by
    rw [← Json.digitsValue_append_zeros, ← hcut, Json.digitsValue_toDigits]
  refine ⟨fun c hc => Json.isDigit_toDigits (n := d) (hcut ▸ List.mem_append_left _ hc), hne,
    ?_, ?_, hreach⟩
  · have hhead := Json.head?_toDigits hpos
    rwa [hcut, List.head?_append_of_ne_nil _ hne] at hhead
  · convert hrounds using 1
    rw [hvalue, ← hlength]
    push_cast
    rw [mul_assoc, ← zpow_natCast, ← zpow_add₀ (by norm_num)]
    congr 2
    ring

/-- **Digits that spell a number are read as it**, with zeros around them too. -/
theorem Spells.ofDecimal_eq {text : List Char} {point : Int} {m : Nat} {e : Int}
    (h : Spells text point m e) (hnormal : Normalized m e) (negative : Bool) {all : List Char}
    {a k : Nat} (hall : all = List.replicate a '0' ++ text ++ List.replicate k '0') {power : Int}
    (hpower : power = point - text.length - k) :
    Binary64.ofDecimal negative (digitsValue (all.dropWhile (· = '0')))
      (all.dropWhile (· = '0')).length power = .finite negative m e := by
  rw [hall, Json.dropWhile_zeros h.head h.ne_nil, List.length_append, List.length_replicate]
  have hrounds : Rounds (digitsValue (text ++ List.replicate k '0') * 10 ^ power) m e := by
    convert h.rounds using 1
    rw [Json.digitsValue_append_zeros, hpower]
    push_cast
    rw [mul_assoc, ← zpow_natCast, ← zpow_add₀ (by norm_num)]
    congr 2
    ring
  have hreach := h.reach
  have hwidth : ((text.length + k : Nat) : Int) + power = point := by
    rw [hpower]
    push_cast
    ring
  generalize digitsValue (text ++ List.replicate k '0') = d at *
  have hd : d ≠ 0 := by
    rintro rfl
    exact absurd (hrounds.pos hnormal) (by simp)
  have hlimit : Binary64.decimalReach = 400 := rfl
  unfold Binary64.ofDecimal
  rw [if_neg hd, hwidth, hlimit, if_neg (by omega), if_neg (by omega)]
  split
  · rename_i hpos
    refine Binary64.ofRatio_of_rounds negative (by decide) hnormal ?_
    convert hrounds using 1
    simp [Binary64.zpow_of_nonneg 10 hpos]
  · rename_i hneg
    refine Binary64.ofRatio_of_rounds negative (Nat.pow_pos (by decide)) hnormal ?_
    convert hrounds using 1
    simp [Binary64.zpow_of_not_nonneg 10 hneg, div_eq_mul_inv]

end Decimal

end Schemata
