import Mathlib.Algebra.Order.Field.Basic
import Mathlib.Algebra.Order.Field.Power
import Mathlib.Data.Rat.Cast.Order
import Mathlib.Tactic.FieldSimp
import Mathlib.Tactic.Linarith
import Mathlib.Tactic.Positivity
import Mathlib.Tactic.Ring
import Schemata.Number.Decimal
/-!
# Rounding to the format

A ratio is rounded to the number whose interval it lies in: between the middles to the two
neighbours of the number, or on such a middle if the mantissa is even.

* `exponentFor_spec`: the exponent at which a ratio is rounded.
* `Normalized`: a mantissa and an exponent in the form in which the format has them.
* `ofRatio_of_rounds`: a ratio in the interval of a number is rounded to the number.
* `isCanonical_ofRatio`: whatever is rounded is in the form of the format.
-/

namespace Schemata.Binary64

/-! ## 1. Rounding a quotient -/

/-- A ratio within a half of a natural number is rounded to it; in the middle between two the number
must be even. -/
theorem roundDiv_eq {num den m : Nat} (hden : 0 < den) (hlow : 2 * m * den ≤ 2 * num + den)
    (hhigh : 2 * num ≤ 2 * m * den + den)
    (hodd : m % 2 = 1 → 2 * m * den ≠ 2 * num + den ∧ 2 * num ≠ 2 * m * den + den) :
    roundDiv num den = m := by
  obtain ⟨q, hq⟩ : ∃ q, q = num / den := ⟨_, rfl⟩
  obtain ⟨r, hr⟩ : ∃ r, r = num % den := ⟨_, rfl⟩
  have hnum : num = den * q + r := by rw [hq, hr, Nat.div_add_mod]
  have hlt : r < den := hr ▸ Nat.mod_lt num hden
  have hbelow : 2 * q < 2 * m + 2 :=
    Nat.lt_of_mul_lt_mul_right (a := den) (by linarith)
  have habove : 2 * m < 2 * q + 3 :=
    Nat.lt_of_mul_lt_mul_right (a := den) (by linarith)
  unfold roundDiv
  rw [← hq, ← hr]
  dsimp only
  obtain rfl | rfl : m = q ∨ m = q + 1 := by omega
  · have hhalf : 2 * r ≤ den := by linarith
    by_cases hless : 2 * r < den
    · rw [if_pos hless]
    · have heven : m % 2 = 0 := by
        by_contra hne
        exact (hodd (by omega)).2 (by linarith)
      rw [if_neg hless, if_neg (by omega), if_pos heven]
  · have hhalf : den ≤ 2 * r := by linarith
    rw [if_neg (by omega)]
    by_cases hmore : den < 2 * r
    · rw [if_pos hmore]
    · have hodd' : q % 2 ≠ 0 := fun heven => (hodd (by omega)).1 (by linarith)
      rw [if_neg hmore, if_neg hodd']

theorem roundDiv_bounds (num den : Nat) :
    num / den ≤ roundDiv num den ∧ roundDiv num den ≤ num / den + 1 := by
  unfold roundDiv
  dsimp only
  split_ifs <;> omega

/-! ## 2. Exponents -/

theorem zpow_of_nonneg (b : ℚ) {k : Int} (h : 0 ≤ k) : b ^ k = b ^ k.toNat := by
  rw [← zpow_natCast, Int.toNat_of_nonneg h]

theorem zpow_of_not_nonneg (b : ℚ) {k : Int} (h : ¬ 0 ≤ k) : b ^ k = (b ^ (-k).toNat)⁻¹ := by
  rw [← zpow_natCast, Int.toNat_of_nonneg (by omega), zpow_neg, inv_inv]

theorem scaleDown_pos (num : Nat) {den : Nat} (hden : 0 < den) (e : Int) :
    0 < (scaleDown num den e).2 := by
  unfold scaleDown
  split
  · exact Nat.mul_pos hden (Nat.pow_pos (by decide))
  · exact hden

theorem scaleDown_eq (num den : Nat) (e : Int) :
    ((scaleDown num den e).1 : ℚ) / (scaleDown num den e).2 = (num / den : ℚ) / 2 ^ e := by
  unfold scaleDown
  split
  · rename_i h
    push_cast
    rw [zpow_of_nonneg 2 h, div_div]
    simp
  · rename_i h
    rw [div_eq_mul_inv _ ((2 : ℚ) ^ e), zpow_of_not_nonneg 2 h, inv_inv, div_mul_eq_mul_div]
    simp

/-- The quotient of a scaled ratio is compared with a natural number as the ratio itself is with
that many units. -/
theorem scaleDown_div_lt (num : Nat) {den : Nat} (hden : 0 < den) (e : Int) (k : Nat) :
    (scaleDown num den e).1 / (scaleDown num den e).2 < k ↔ (num / den : ℚ) < k * 2 ^ e := by
  have hpos := scaleDown_pos num hden e
  have hpow : (0 : ℚ) < 2 ^ e := zpow_pos two_pos e
  rw [Nat.div_lt_iff_lt_mul hpos, ← div_lt_iff₀ hpow, ← scaleDown_eq,
    div_lt_iff₀ (by exact_mod_cast hpos)]
  exact_mod_cast Iff.rfl

/-- The logarithms of numerator and denominator enclose the ratio in two binades. -/
theorem log2_bounds {num den : Nat} (hnum : 0 < num) (hden : 0 < den) :
    (2 : ℚ) ^ ((num.log2 : Int) - den.log2 - 1) < num / den ∧
      (num / den : ℚ) < 2 ^ ((num.log2 : Int) - den.log2 + 1) := by
  have hn : (2 : ℚ) ^ num.log2 ≤ num := by
    exact_mod_cast Nat.log2_self_le (Nat.pos_iff_ne_zero.mp hnum)
  have hn' : (num : ℚ) < 2 ^ (num.log2 + 1) := by exact_mod_cast Nat.lt_log2_self (n := num)
  have hd : (2 : ℚ) ^ den.log2 ≤ den := by
    exact_mod_cast Nat.log2_self_le (Nat.pos_iff_ne_zero.mp hden)
  have hd' : (den : ℚ) < 2 ^ (den.log2 + 1) := by exact_mod_cast Nat.lt_log2_self (n := den)
  have hpos : (0 : ℚ) < den := by exact_mod_cast hden
  constructor
  · rw [lt_div_iff₀ hpos]
    calc (2 : ℚ) ^ ((num.log2 : Int) - den.log2 - 1) * den
        < 2 ^ ((num.log2 : Int) - den.log2 - 1) * 2 ^ (den.log2 + 1) := by gcongr
      _ = 2 ^ num.log2 := by
        rw [← zpow_natCast, ← zpow_natCast, ← zpow_add₀ two_ne_zero]
        congr 1
        push_cast
        ring
      _ ≤ num := hn
  · rw [div_lt_iff₀ hpos]
    calc (num : ℚ) < 2 ^ (num.log2 + 1) := hn'
      _ = 2 ^ ((num.log2 : Int) - den.log2 + 1) * 2 ^ den.log2 := by
        rw [← zpow_natCast, ← zpow_natCast, ← zpow_add₀ two_ne_zero]
        congr 1
        push_cast
        ring
      _ ≤ 2 ^ ((num.log2 : Int) - den.log2 + 1) * den := by gcongr

theorem leastNormal_eq : leastNormal = 2 ^ 52 := rfl

theorem leastNormal_mul_zpow (e : Int) : (leastNormal : ℚ) * 2 ^ e = 2 ^ (52 + e) := by
  rw [leastNormal_eq, zpow_add₀ two_ne_zero]
  norm_num

/-- **The exponent of a ratio** is the one at which the ratio has the digits of a mantissa, or the
least exponent of the format if that one is above it. -/
theorem exponentFor_spec {num den : Nat} (hnum : 0 < num) (hden : 0 < den) :
    ∃ fitted : Int, exponentFor num den = max fitted minExponent ∧
      (2 : ℚ) ^ (52 + fitted) ≤ num / den ∧ (num / den : ℚ) < 2 ^ (53 + fitted) := by
  obtain ⟨hlow, hhigh⟩ := log2_bounds hnum hden
  obtain ⟨guess, hguess⟩ : ∃ guess : Int, guess = (num.log2 : Int) - den.log2 - (precision - 1) :=
    ⟨_, rfl⟩
  have hprecision : (precision : Int) = 53 := rfl
  have hdiv := scaleDown_div_lt num hden guess leastNormal
  rw [leastNormal_mul_zpow] at hdiv
  refine ⟨if (scaleDown num den guess).1 / (scaleDown num den guess).2 < leastNormal then guess - 1
    else guess, by rw [hguess]; rfl, ?_⟩
  split
  · rename_i hsmall
    refine ⟨?_, ?_⟩
    · rw [show 52 + (guess - 1) = (num.log2 : Int) - den.log2 - 1 by omega]
      exact hlow.le
    · rw [show 53 + (guess - 1) = 52 + guess by omega]
      exact hdiv.mp hsmall
  · rename_i hlarge
    refine ⟨not_lt.mp fun h => hlarge (hdiv.mpr h), ?_⟩
    rw [show 53 + guess = (num.log2 : Int) - den.log2 + 1 by omega]
    exact hhigh

/-! ## 3. Intervals -/

/-- A mantissa and an exponent in the form in which the format has them. -/
structure Normalized (m : Nat) (e : Int) : Prop where
  pos : 0 < m
  lt : m < 2 * leastNormal
  le_exponent : minExponent ≤ e
  exponent_le : e ≤ maxExponent
  subnormal : m < leastNormal → e = minExponent

/-- Whether a number is in the form in which the format has it: zero is the one with exponent zero,
and of several forms of another number it is the one with the most digits in its mantissa. -/
def isCanonical : Binary64 → Bool
  | nan | infinite _ => true
  | finite _ m e =>
    if m = 0 then e = 0
    else m < 2 * leastNormal && minExponent ≤ e && e ≤ maxExponent &&
      (leastNormal ≤ m || e = minExponent)

theorem isCanonical_finite {negative : Bool} {m : Nat} {e : Int} :
    (finite negative m e).isCanonical = true ↔ m = 0 ∧ e = 0 ∨ Normalized m e := by
  unfold isCanonical
  by_cases hm : m = 0
  · subst hm
    have hnot : ¬ Normalized 0 e := fun h => absurd rfl h.pos.ne'
    simp [hnot]
  · simp only [hm, ↓reduceIte, Bool.and_eq_true, Bool.or_eq_true, decide_eq_true_eq, false_and,
      false_or]
    constructor
    · rintro ⟨⟨⟨hlt, hmin⟩, hmax⟩, hleast⟩
      exact ⟨Nat.pos_of_ne_zero hm, hlt, hmin, hmax,
        fun h => hleast.resolve_left (Nat.not_le.mpr h)⟩
    · intro h
      exact ⟨⟨⟨h.lt, h.le_exponent⟩, h.exponent_le⟩, or_iff_not_imp_left.mpr fun hle =>
        h.subnormal (Nat.not_le.mp hle)⟩

/-- The distance of a number from the middle between it and the next lower one, in quarters of a
unit of its last place.  Below a power of two the numbers are closer. -/
def lowGap (m : Nat) (e : Int) : Nat := if m = leastNormal ∧ minExponent < e then 1 else 2

theorem lowGap_le (m : Nat) (e : Int) : lowGap m e ≤ 2 := by
  unfold lowGap
  split <;> decide

theorem lowGap_odd {m : Nat} (h : m % 2 = 1) (e : Int) : lowGap m e = 2 := by
  have hne : m ≠ leastNormal := by
    rintro rfl
    exact absurd h (by decide)
  exact if_neg fun hand => hne hand.1

/-- A rational number that is rounded to a number of the format: in units of its last place, it is
between the middles to the next numbers, or in the middle if the mantissa is even. -/
structure Rounds (q : ℚ) (m : Nat) (e : Int) : Prop where
  low : (m : ℚ) - lowGap m e / 4 ≤ q / 2 ^ e
  high : q / 2 ^ e ≤ m + 1 / 2
  odd : m % 2 = 1 → (m : ℚ) - lowGap m e / 4 ≠ q / 2 ^ e ∧ q / 2 ^ e ≠ m + 1 / 2

/-- A ratio within a half of a number of units is rounded to that number at the scale of the
unit. -/
theorem roundDiv_scaleDown {num den m : Nat} {e : Int} (hden : 0 < den)
    (hlow : (m : ℚ) - 1 / 2 ≤ (num / den : ℚ) / 2 ^ e) (hhigh : (num / den : ℚ) / 2 ^ e ≤ m + 1 / 2)
    (hodd : m % 2 = 1 →
      (m : ℚ) - 1 / 2 ≠ (num / den : ℚ) / 2 ^ e ∧ (num / den : ℚ) / 2 ^ e ≠ m + 1 / 2) :
    roundDiv (scaleDown num den e).1 (scaleDown num den e).2 = m := by
  have hpos := scaleDown_pos num hden e
  have hd : (0 : ℚ) < (scaleDown num den e).2 := by exact_mod_cast hpos
  rw [← scaleDown_eq] at hlow hhigh hodd
  revert hlow hhigh hodd hpos hd
  generalize (scaleDown num den e).1 = n
  generalize (scaleDown num den e).2 = d
  intro hlow hhigh hodd hpos hd
  rw [le_div_iff₀ hd] at hlow
  rw [div_le_iff₀ hd] at hhigh
  refine roundDiv_eq hpos ?_ ?_ fun h => ⟨fun heq => ?_, fun heq => ?_⟩
  · have : (2 * m * d : ℚ) ≤ 2 * n + d := by linarith
    exact_mod_cast this
  · have : (2 * n : ℚ) ≤ 2 * m * d + d := by linarith
    exact_mod_cast this
  · have : (2 * m * d : ℚ) = 2 * n + d := by exact_mod_cast heq
    refine (hodd h).1 ?_
    rw [eq_div_iff hd.ne']
    linarith
  · have : (2 * n : ℚ) = 2 * m * d + d := by exact_mod_cast heq
    refine (hodd h).2 ?_
    rw [div_eq_iff hd.ne']
    linarith

/-- The result, once exponent and mantissa are known. -/
theorem ofRatio_of_roundDiv {negative : Bool} {num den m : Nat} {e : Int} (hnum : 0 < num)
    (hexponent : exponentFor num den = e)
    (hm : roundDiv (scaleDown num den e).1 (scaleDown num den e).2 = m) (hpos : 0 < m)
    (hlt : m < 2 * leastNormal) (he : e ≤ maxExponent) :
    ofRatio negative num den = finite negative m e := by
  subst hexponent
  simp only [ofRatio, hm]
  rw [if_neg (Nat.pos_iff_ne_zero.mp hnum), if_neg (Nat.ne_of_lt hlt),
    if_neg (Nat.pos_iff_ne_zero.mp hpos), if_neg (not_lt.mpr he)]

theorem lt_of_zpow_le {q : ℚ} {a k e : Int} (h : (2 : ℚ) ^ a ≤ q) (h' : q / 2 ^ e < 2 ^ k) :
    a < k + e := by
  rw [div_lt_iff₀ (zpow_pos two_pos e), ← zpow_add₀ two_ne_zero] at h'
  exact (zpow_lt_zpow_iff_right₀ one_lt_two).mp (h.trans_lt h')

theorem lt_of_lt_zpow {q : ℚ} {a k e : Int} (h : q < (2 : ℚ) ^ a) (h' : 2 ^ k ≤ q / 2 ^ e) :
    k + e < a := by
  rw [le_div_iff₀ (zpow_pos two_pos e), ← zpow_add₀ two_ne_zero] at h'
  exact (zpow_lt_zpow_iff_right₀ one_lt_two).mp (h'.trans_lt h)

/-- A ratio in the interval of a number is between its neighbours' middles even where they are
closer, and the interval of a power of two ends in the binade below it. -/
theorem Rounds.cases {q : ℚ} {m : Nat} {e : Int} (hnormal : Normalized m e) (h : Rounds q m e) :
    (2 ^ (52 : Int) ≤ q / 2 ^ e ∨ e = minExponent) ∨
      m = leastNormal ∧ minExponent < e ∧ (2 : ℚ) ^ (53 : Int) - 1 / 2 ≤ q / 2 ^ (e - 1) ∧
        q / 2 ^ (e - 1) < 2 ^ (53 : Int) := by
  by_cases hlarge : (2 : ℚ) ^ (52 : Int) ≤ q / 2 ^ e ∨ e = minExponent
  · exact .inl hlarge
  · obtain ⟨hsmall, hmin⟩ := not_or.mp hlarge
    have hlow := h.low
    have hpow : (2 : ℚ) ^ (53 : Int) = 2 * 2 ^ (52 : Int) := by norm_num
    have hleast : leastNormal ≤ m := not_lt.mp fun hlt => hmin (hnormal.subnormal hlt)
    have hexponent : minExponent < e := lt_of_le_of_ne hnormal.le_exponent (Ne.symm hmin)
    have htwice : q / 2 ^ (e - 1) = 2 * (q / 2 ^ e) := by
      rw [zpow_sub_one₀ two_ne_zero]
      field_simp
    have hm : m = leastNormal := by
      by_contra hne
      have hmore : (2 : ℚ) ^ (52 : Int) + 1 ≤ m := by
        exact_mod_cast Nat.lt_of_le_of_ne hleast (Ne.symm hne)
      have hgap : (lowGap m e : ℚ) ≤ 2 := by exact_mod_cast lowGap_le m e
      linarith
    have hgap : lowGap m e = 1 := if_pos ⟨hm, hexponent⟩
    have hm' : (m : ℚ) = 2 ^ (52 : Int) := by exact_mod_cast hm
    rw [hgap, hm'] at hlow
    refine .inr ⟨hm, hexponent, ?_, ?_⟩
    · rw [htwice, hpow]
      push_cast at hlow
      linarith
    · rw [htwice, hpow]
      linarith

theorem Rounds.pos {q : ℚ} {m : Nat} {e : Int} (hnormal : Normalized m e) (h : Rounds q m e) :
    0 < q := by
  have hm : (1 : ℚ) ≤ m := by exact_mod_cast hnormal.pos
  have hgap : (lowGap m e : ℚ) ≤ 2 := by exact_mod_cast lowGap_le m e
  have hpos : 0 < q / 2 ^ e := lt_of_lt_of_le (by linarith) h.low
  exact (div_pos_iff_of_pos_right (zpow_pos two_pos e)).mp hpos

/-- **A ratio in the interval of a number is rounded to the number.** -/
theorem ofRatio_of_rounds (negative : Bool) {num den m : Nat} {e : Int} (hden : 0 < den)
    (hnormal : Normalized m e) (h : Rounds (num / den) m e) :
    ofRatio negative num den = finite negative m e := by
  have hgap : (lowGap m e : ℚ) ≤ 2 := by exact_mod_cast lowGap_le m e
  have hm' : (m : ℚ) + 1 ≤ 2 ^ (53 : Int) := by exact_mod_cast hnormal.lt
  have hlow : (m : ℚ) - 1 / 2 ≤ (num / den : ℚ) / 2 ^ e := le_trans (by linarith) h.low
  have hnum : 0 < num := by
    have hpos := (div_pos_iff_of_pos_right (by exact_mod_cast hden)).mp (h.pos hnormal)
    exact_mod_cast hpos
  obtain ⟨fitted, hexponent, hfitted, hfitted'⟩ := exponentFor_spec hnum hden
  rcases h.cases hnormal with hlarge | ⟨hleast, hmin, hbelow, hbelow'⟩
  · have hle : fitted ≤ e := by
      have := lt_of_zpow_le (k := 53) hfitted (h.high.trans_lt (by linarith))
      omega
    have he : exponentFor num den = e := by
      have hmin := hnormal.le_exponent
      rcases hlarge with hlarge | rfl
      · have := lt_of_lt_zpow hfitted' hlarge
        omega
      · omega
    refine ofRatio_of_roundDiv hnum he (roundDiv_scaleDown hden hlow h.high fun hodd => ?_)
      hnormal.pos hnormal.lt hnormal.exponent_le
    have hodd' := h.odd hodd
    rw [lowGap_odd hodd] at hodd'
    norm_num at hodd' ⊢
    exact hodd'
  · -- The ratio is rounded up to a power of two, at the exponent of the binade below.
    have hle := lt_of_zpow_le hfitted hbelow'
    have hge := lt_of_lt_zpow (k := 52) hfitted' (le_trans (by norm_num) hbelow)
    have he : exponentFor num den = e - 1 := by omega
    have hround : roundDiv (scaleDown num den (e - 1)).1 (scaleDown num den (e - 1)).2
        = 2 * leastNormal := by
      refine roundDiv_scaleDown hden ?_ ?_ fun hodd => absurd hodd (by decide)
      · exact_mod_cast hbelow
      · refine hbelow'.le.trans ?_
        norm_num [leastNormal_eq]
    simp only [ofRatio, he, hround, if_neg (Nat.pos_iff_ne_zero.mp hnum), ↓reduceIte,
      sub_add_cancel]
    rw [if_neg (by decide), if_neg (not_lt.mpr hnormal.exponent_le), hleast]

/-! ## 4. The form of a result -/

/-- The quotient at the exponent of a ratio has the digits of a mantissa. -/
theorem exponentFor_bounds {num den : Nat} (hnum : 0 < num) (hden : 0 < den) {e : Int}
    (he : exponentFor num den = e) : minExponent ≤ e ∧
      (scaleDown num den e).1 / (scaleDown num den e).2 < 2 * leastNormal ∧
      ((scaleDown num den e).1 / (scaleDown num den e).2 < leastNormal → e = minExponent) := by
  obtain ⟨fitted, hexponent, hlow, hhigh⟩ := exponentFor_spec hnum hden
  refine ⟨by omega, ?_, fun hsmall => ?_⟩
  · rw [scaleDown_div_lt num hden]
    push_cast
    rw [mul_assoc, leastNormal_mul_zpow, ← zpow_one_add₀ two_ne_zero]
    exact hhigh.trans_le (zpow_le_zpow_right₀ one_le_two (by omega))
  · rw [scaleDown_div_lt num hden, leastNormal_mul_zpow] at hsmall
    have := (zpow_lt_zpow_iff_right₀ one_lt_two).mp (hlow.trans_lt hsmall)
    omega

/-- **Whatever is rounded is in its form.** -/
theorem isCanonical_ofRatio (negative : Bool) {num den : Nat} (hden : 0 < den) :
    (ofRatio negative num den).isCanonical = true := by
  rcases Nat.eq_zero_or_pos num with rfl | hnum
  · rfl
  · obtain ⟨e, he⟩ : ∃ e, exponentFor num den = e := ⟨_, rfl⟩
    obtain ⟨hmin, hlt, hsmall⟩ := exponentFor_bounds hnum hden he
    obtain ⟨hlow, hhigh⟩ := roundDiv_bounds (scaleDown num den e).1 (scaleDown num den e).2
    simp only [ofRatio, he]
    generalize roundDiv (scaleDown num den e).1 (scaleDown num den e).2 = m at hlow hhigh ⊢
    rw [if_neg (Nat.pos_iff_ne_zero.mp hnum)]
    by_cases hcarried : m = 2 * leastNormal
    · rw [if_pos hcarried]
      dsimp only
      rw [if_neg (by decide)]
      split
      · rfl
      · exact isCanonical_finite.mpr (.inr ⟨by decide, by decide, by omega, by omega,
          fun h => absurd h (lt_irrefl _)⟩)
    · rw [if_neg hcarried]
      dsimp only
      split
      · rfl
      · rename_i hpos
        split
        · rfl
        · exact isCanonical_finite.mpr (.inr ⟨Nat.pos_of_ne_zero hpos, by omega, hmin, by omega,
            fun h => hsmall (by omega)⟩)

theorem isCanonical_ofDecimal (negative : Bool) (digits width : Nat) (power : Int) :
    (ofDecimal negative digits width power).isCanonical = true := by
  have hpow : ∀ k, 0 < Nat.pow 10 k := fun k => Nat.pow_pos (by decide)
  unfold ofDecimal
  split_ifs
  · rfl
  · rfl
  · rfl
  · exact isCanonical_ofRatio negative Nat.one_pos
  · exact isCanonical_ofRatio negative (hpow _)

end Schemata.Binary64
