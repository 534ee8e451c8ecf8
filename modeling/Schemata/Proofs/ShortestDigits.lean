import Mathlib.Algebra.Order.Floor.Ring
import Schemata.Proofs.Rounding
/-!
# Shortest digits

The digits that are found for a number are rounded to the number.  They are a point of a decimal
grid in the interval of the number; the grid of seventeen digits is finer than any interval, so that
one of the grids has such a point.

* `two_zpow_le_ten_zpow`: powers of two and of ten, compared by their exponents.
* `magnitudeOf_spec`: the place of the first digit.
* `exists_onGrid?`: on the grid of seventeen digits there is always a point in the interval.
* `denotes_shortest`: the digits that are found stand for the number.
-/

namespace Schemata.Decimal

/-! ## 1. Powers of two and of ten -/

/-- A power of two is at most a power of ten, by the bounds `28 / 93` and `59 / 196` of the decimal
logarithm of two; they are near enough for the numbers of the format. -/
theorem two_zpow_le_ten_zpow {a b : Int} (hpos : 0 ≤ a → 28 * a ≤ 93 * b)
    (hneg : a ≤ 0 → 59 * a ≤ 196 * b) : (2 : ℚ) ^ a ≤ 10 ^ b := by
  have hroot : ∀ k : ℕ, k ≠ 0 → ((2 : ℚ) ^ a) ^ k ≤ (10 ^ b) ^ k → (2 : ℚ) ^ a ≤ 10 ^ b :=
    fun k hk =>
      (pow_le_pow_iff_left₀ (zpow_nonneg (by norm_num) a) (zpow_nonneg (by norm_num) b) hk).mp
  rcases le_total 0 a with h | h
  · refine hroot 93 (by decide) ?_
    calc ((2 : ℚ) ^ a) ^ 93 = (2 ^ (93 : ℕ)) ^ a := by
          rw [← zpow_natCast, ← zpow_natCast, ← zpow_mul, ← zpow_mul, mul_comm]
      _ ≤ (10 ^ (28 : ℕ)) ^ a := zpow_le_zpow_left₀ h (by norm_num) (by norm_num)
      _ = 10 ^ (28 * a) := by rw [← zpow_natCast, ← zpow_mul]; rfl
      _ ≤ 10 ^ (93 * b) := zpow_le_zpow_right₀ (by norm_num) (hpos h)
      _ = (10 ^ b) ^ 93 := by rw [mul_comm, zpow_mul]; rfl
  · refine hroot 196 (by decide) ?_
    have hinv : ((10 : ℚ) ^ (59 : ℕ)) ^ (-a) ≤ (2 ^ (196 : ℕ)) ^ (-a) :=
      zpow_le_zpow_left₀ (by omega) (by norm_num) (by norm_num)
    calc ((2 : ℚ) ^ a) ^ 196 = ((2 ^ (196 : ℕ)) ^ (-a))⁻¹ := by
          rw [← zpow_neg, neg_neg, ← zpow_natCast, ← zpow_natCast, ← zpow_mul, ← zpow_mul, mul_comm]
      _ ≤ ((10 ^ (59 : ℕ)) ^ (-a))⁻¹ := inv_anti₀ (zpow_pos (by norm_num) _) hinv
      _ = 10 ^ (59 * a) := by rw [← zpow_neg, neg_neg, ← zpow_natCast, ← zpow_mul]; rfl
      _ ≤ 10 ^ (196 * b) := zpow_le_zpow_right₀ (by norm_num) (hneg h)
      _ = (10 ^ b) ^ 196 := by rw [mul_comm, zpow_mul]; rfl

theorem ten_zpow_le_two_zpow {a b : Int} (hpos : 0 ≤ a → 196 * b ≤ 59 * a)
    (hneg : a ≤ 0 → 93 * b ≤ 28 * a) : (10 : ℚ) ^ b ≤ 2 ^ a := by
  have h := two_zpow_le_ten_zpow (a := -a) (b := -b) (fun h => by have := hneg (by omega); omega)
    fun h => by have := hpos (by omega); omega
  rw [zpow_neg, zpow_neg] at h
  exact (inv_le_inv₀ (zpow_pos two_pos a) (zpow_pos (by norm_num) b)).mp h

/-! ## 2. The place of the first digit -/

/-- A ratio is compared with a power of ten by a comparison of natural numbers. -/
theorem below_iff {num den : Nat} (hden : 0 < den) (k : Int) :
    (if 0 ≤ k then decide (num < den * Nat.pow 10 k.toNat)
      else decide (num * Nat.pow 10 (-k).toNat < den)) = true ↔ (num / den : ℚ) < 10 ^ k := by
  have hpos : (0 : ℚ) < den := by exact_mod_cast hden
  rw [div_lt_iff₀ hpos]
  split
  · rename_i h
    rw [Binary64.zpow_of_nonneg 10 h, decide_eq_true_eq, mul_comm]
    exact_mod_cast Iff.rfl
  · rename_i h
    rw [Binary64.zpow_of_not_nonneg 10 h, decide_eq_true_eq, inv_mul_eq_div,
      lt_div_iff₀ (by positivity)]
    exact_mod_cast Iff.rfl

/-- The first of four neighbours that has a property, the last one being taken unseen. -/
theorem find?_neighbours (p : Int → Bool) (g : Int) :
    ∃ k, ([g, g + 1, g + 2].find? p).getD (g + 3) = k ∧
      (k = g ∨ p (k - 1) = false) ∧ (k = g + 3 ∨ p k = true) := by
  refine ⟨_, rfl, ?_⟩
  simp only [List.find?]
  cases h0 : p g
  · cases h1 : p (g + 1)
    · cases h2 : p (g + 2)
      · exact ⟨.inr (by simpa [show g + 3 - 1 = g + 2 by omega] using h2), .inl rfl⟩
      · exact ⟨.inr (by simpa [show g + 2 - 1 = g + 1 by omega] using h1), .inr h2⟩
    · exact ⟨.inr (by simpa using h0), .inr h1⟩
  · exact ⟨.inl rfl, .inr h0⟩

/-- **The place of the first digit** is found for every ratio that is not far outside of the
format. -/
theorem magnitudeOf_spec {num den : Nat} (hnum : 0 < num) (hden : 0 < den)
    (hlow : (2 : ℚ) ^ (-1200 : Int) ≤ num / den) (hhigh : (num / den : ℚ) ≤ 2 ^ (1200 : Int)) :
    (10 : ℚ) ^ (magnitudeOf num den - 1) ≤ num / den ∧
      (num / den : ℚ) < 10 ^ magnitudeOf num den := by
  obtain ⟨hlow', hhigh'⟩ := Binary64.log2_bounds hnum hden
  have hmin := (zpow_lt_zpow_iff_right₀ (one_lt_two : (1 : ℚ) < 2)).mp (hlow.trans_lt hhigh')
  have hmax := (zpow_lt_zpow_iff_right₀ (one_lt_two : (1 : ℚ) < 2)).mp (hlow'.trans_le hhigh)
  unfold magnitudeOf
  obtain ⟨k, hk, hbefore, hat⟩ := find?_neighbours
    (fun k => if 0 ≤ k then decide (num < den * Nat.pow 10 k.toNat)
      else decide (num * Nat.pow 10 (-k).toNat < den))
    ((((num.log2 : Int) - den.log2) * 30103).fdiv 100000 - 1)
  rw [Bool.eq_false_iff, ne_eq, below_iff hden, not_lt] at hbefore
  rw [below_iff hden] at hat
  rw [Int.fdiv_eq_ediv_of_nonneg _ (by decide)] at hbefore hat
  dsimp only
  rw [hk]
  constructor
  · rcases hbefore with rfl | hbefore
    · exact (ten_zpow_le_two_zpow (by omega) (by omega)).trans hlow'.le
    · exact hbefore
  · rcases hat with rfl | hat
    · exact hhigh'.trans_le (two_zpow_le_ten_zpow (by omega) (by omega))
    · exact hat

/-! ## 3. Grids -/

/-- Numerator of a power. -/
def powNum (b : Nat) (k : Int) : Nat := if 0 ≤ k then Nat.pow b k.toNat else 1

/-- Denominator of a power. -/
def powDen (b : Nat) (k : Int) : Nat := if 0 ≤ k then 1 else Nat.pow b (-k).toNat

theorem powNum_pos {b : Nat} (hb : 0 < b) (k : Int) : 0 < powNum b k := by
  unfold powNum
  split
  · exact Nat.pow_pos hb
  · decide

theorem powDen_pos {b : Nat} (hb : 0 < b) (k : Int) : 0 < powDen b k := by
  unfold powDen
  split
  · decide
  · exact Nat.pow_pos hb

theorem pow_ratio (b : Nat) (k : Int) : (b : ℚ) ^ k = powNum b k / powDen b k := by
  unfold powNum powDen
  split
  · rename_i h
    simp [Binary64.zpow_of_nonneg _ h]
  · rename_i h
    simp [Binary64.zpow_of_not_nonneg _ h]

/-- Whether a grid point is in the interval. -/
def isInside (low high den : Nat) (closed : Bool) (step : Int) (d : Nat) : Bool :=
  let p := d * powNum 10 step * den
  if closed then decide (low * powDen 10 step ≤ p ∧ p ≤ high * powDen 10 step)
  else decide (low * powDen 10 step < p ∧ p < high * powDen 10 step)

/-- The grid point below the value. -/
def gridBelow (value den : Nat) (step : Int) : Nat :=
  value * powDen 10 step / (den * powNum 10 step)

/-- A point of a grid in the interval, one of the two around the value. -/
structure IsGridPoint (low value high den : Nat) (closed : Bool) (step : Int) (d : Nat) : Prop where
  near : d = gridBelow value den step ∨ d = gridBelow value den step + 1
  inside : isInside low high den closed step d = true

/-- What holds of both outcomes of a choice holds of the choice. -/
theorem ite_of_both {α : Type} {P : α → Prop} {a b : α} (ha : P a) (hb : P b) (p : Prop)
    [Decidable p] : P (if p then a else b) := by
  split
  · exact ha
  · exact hb

/-- A point that is taken from a grid is in the interval, on one side of the value. -/
theorem onGrid?_eq_some {low value high den : Nat} {closed : Bool} {point : Int} {n : Nat}
    {r : Digits} (h : onGrid? low value high den closed point n = some r) :
    ∃ d, IsGridPoint low value high den closed (point - n) d ∧ r = carried n d point := by
  unfold onGrid? at h
  dsimp only at h
  split at h
  · rename_i hinside hinside'
    have hbelow : IsGridPoint low value high den closed (point - n)
        (gridBelow value den (point - n)) := ⟨.inl rfl, hinside⟩
    have habove : IsGridPoint low value high den closed (point - n)
        (gridBelow value den (point - n) + 1) := ⟨.inr rfl, hinside'⟩
    cases h
    exact ⟨_, ite_of_both hbelow (ite_of_both habove (ite_of_both hbelow habove _) _) _, rfl⟩
  · rename_i hinside _
    cases h
    exact ⟨_, ⟨.inl rfl, hinside⟩, rfl⟩
  · rename_i _ hinside
    cases h
    exact ⟨_, ⟨.inr rfl, hinside⟩, rfl⟩
  · cases h

/-- No point is taken from a grid if both points around the value are outside of the interval. -/
theorem onGrid?_eq_none {low value high den : Nat} {closed : Bool} {point : Int} {n : Nat}
    (h : onGrid? low value high den closed point n = none) :
    isInside low high den closed (point - n) (gridBelow value den (point - n)) = false ∧
      isInside low high den closed (point - n) (gridBelow value den (point - n) + 1) = false := by
  unfold onGrid? at h
  dsimp only at h
  split at h
  · cases h
  · cases h
  · cases h
  · rename_i h1 h2
    exact ⟨h1, h2⟩

theorem isInside_iff {low high den : Nat} {closed : Bool} {step : Int} {d : Nat} (hden : 0 < den) :
    isInside low high den closed step d = true ↔
      if closed then (low / den : ℚ) ≤ d * 10 ^ step ∧ (d * 10 ^ step : ℚ) ≤ high / den
      else (low / den : ℚ) < d * 10 ^ step ∧ (d * 10 ^ step : ℚ) < high / den := by
  have hd : (0 : ℚ) < den := by exact_mod_cast hden
  have hdown : (0 : ℚ) < powDen 10 step := by exact_mod_cast powDen_pos (by decide) step
  have hpow : (10 : ℚ) ^ step = powNum 10 step / powDen 10 step := pow_ratio 10 step
  rw [hpow, isInside, mul_div_assoc', div_le_div_iff₀ hd hdown, div_le_div_iff₀ hdown hd,
    div_lt_div_iff₀ hd hdown, div_lt_div_iff₀ hdown hd]
  cases closed
  · simp only [Bool.false_eq_true, ↓reduceIte, decide_eq_true_eq]
    exact_mod_cast Iff.rfl
  · simp only [↓reduceIte, decide_eq_true_eq]
    exact_mod_cast Iff.rfl

/-- The value is between the point below it and the next one. -/
theorem gridBelow_spec (value : Nat) {den : Nat} (hden : 0 < den) (step : Int) :
    (gridBelow value den step * 10 ^ step : ℚ) ≤ value / den ∧
      (value / den : ℚ) < (gridBelow value den step + 1) * 10 ^ step := by
  have hd : (0 : ℚ) < den := by exact_mod_cast hden
  have hdown : (0 : ℚ) < powDen 10 step := by exact_mod_cast powDen_pos (by decide) step
  have hup : 0 < den * powNum 10 step := Nat.mul_pos hden (powNum_pos (by decide) step)
  have hpow : (10 : ℚ) ^ step = powNum 10 step / powDen 10 step := pow_ratio 10 step
  have hle := Nat.div_mul_le_self (value * powDen 10 step) (den * powNum 10 step)
  have hlt := Nat.lt_div_mul_add (a := value * powDen 10 step) hup
  rw [hpow, mul_div_assoc', mul_div_assoc', div_le_div_iff₀ hdown hd, div_lt_div_iff₀ hd hdown]
  unfold gridBelow
  generalize value * powDen 10 step / (den * powNum 10 step) = b at *
  constructor
  · exact_mod_cast (by linarith : b * powNum 10 step * den ≤ value * powDen 10 step)
  · exact_mod_cast (by linarith : value * powDen 10 step < (b + 1) * powNum 10 step * den)

/-! ## 4. The interval of a number -/

section Shortest

open Binary64 (Normalized Rounds lowGap leastNormal minExponent)

variable {m : Nat} {e : Int}

/-- The denominator of the interval of a number; its middle and its ends are quarters of a unit of
the last place. -/
def intervalDen (e : Int) : Nat := powDen 2 (e - 2)

/-- The numerator of the number itself. -/
def intervalMid (m : Nat) (e : Int) : Nat := 4 * m * powNum 2 (e - 2)

/-- The numerator of the lower end. -/
def intervalLow (m : Nat) (e : Int) : Nat := (4 * m - lowGap m e) * powNum 2 (e - 2)

/-- The numerator of the upper end. -/
def intervalHigh (m : Nat) (e : Int) : Nat := (4 * m + 2) * powNum 2 (e - 2)

theorem intervalDen_pos (e : Int) : 0 < intervalDen e := powDen_pos (by decide) _

theorem quarter (e : Int) : (powNum 2 (e - 2) : ℚ) / intervalDen e = 2 ^ e / 4 := by
  have h := pow_ratio 2 (e - 2)
  rw [intervalDen, ← h, zpow_sub₀ (by norm_num)]
  norm_num

theorem intervalMid_eq (m : Nat) (e : Int) : (intervalMid m e : ℚ) / intervalDen e = m * 2 ^ e := by
  rw [intervalMid, Nat.cast_mul, mul_div_assoc, quarter]
  push_cast
  ring

theorem intervalLow_eq (h : Normalized m e) :
    (intervalLow m e : ℚ) / intervalDen e = (m - lowGap m e / 4) * 2 ^ e := by
  have hgap : lowGap m e ≤ 4 * m := by
    have := Binary64.lowGap_le m e
    have := h.pos
    omega
  rw [intervalLow, Nat.cast_mul, mul_div_assoc, quarter, Nat.cast_sub hgap]
  push_cast
  ring

theorem intervalHigh_eq (m : Nat) (e : Int) :
    (intervalHigh m e : ℚ) / intervalDen e = (m + 1 / 2) * 2 ^ e := by
  rw [intervalHigh, Nat.cast_mul, mul_div_assoc, quarter]
  push_cast
  ring

theorem shortest_eq (m : Nat) (e : Int) :
    shortest m e = ((List.range 17).findSome? fun i =>
      onGrid? (intervalLow m e) (intervalMid m e) (intervalHigh m e) (intervalDen e) (m % 2 = 0)
        (magnitudeOf (intervalMid m e) (intervalDen e)) (i + 1)).getD
      ⟨intervalMid m e / intervalDen e, magnitudeOf (intervalMid m e) (intervalDen e)⟩ := rfl

/-- Whether a point of a grid is in the interval of a number. -/
theorem isInside_interval_iff (hnormal : Normalized m e) {closed : Bool} {step : Int} {d : Nat} :
    isInside (intervalLow m e) (intervalHigh m e) (intervalDen e) closed step d = true ↔
      if closed then (m - lowGap m e / 4 : ℚ) ≤ d * 10 ^ step / 2 ^ e ∧
        (d * 10 ^ step / 2 ^ e : ℚ) ≤ m + 1 / 2
      else (m - lowGap m e / 4 : ℚ) < d * 10 ^ step / 2 ^ e ∧
        (d * 10 ^ step / 2 ^ e : ℚ) < m + 1 / 2 := by
  have hpow : (0 : ℚ) < 2 ^ e := zpow_pos two_pos e
  rw [isInside_iff (intervalDen_pos e), intervalLow_eq hnormal, intervalHigh_eq, le_div_iff₀ hpow,
    div_le_iff₀ hpow, lt_div_iff₀ hpow, div_lt_iff₀ hpow]

/-- What is in the interval is rounded to the number. -/
theorem rounds_of_isInside (hnormal : Normalized m e) {step : Int} {d : Nat}
    (h : isInside (intervalLow m e) (intervalHigh m e) (intervalDen e) (m % 2 = 0) step d = true) :
    Rounds (d * 10 ^ step) m e := by
  rw [isInside_interval_iff hnormal] at h
  split at h
  · rename_i heven
    exact ⟨h.1, h.2, fun hodd => absurd (of_decide_eq_true heven) (by omega)⟩
  · exact ⟨h.1.le, h.2.le, fun _ => ⟨h.1.ne, h.2.ne⟩⟩

/-- A point outside of the interval is below it or above it. -/
theorem le_of_not_isInside (hnormal : Normalized m e) {closed : Bool} {step : Int} {d : Nat}
    (h : isInside (intervalLow m e) (intervalHigh m e) (intervalDen e) closed step d = false) :
    (d * 10 ^ step / 2 ^ e : ℚ) ≤ m - lowGap m e / 4 ∨ (m + 1 / 2 : ℚ) ≤ d * 10 ^ step / 2 ^ e := by
  by_contra hnot
  obtain ⟨hlow, hhigh⟩ := not_or.mp hnot
  rw [not_le] at hlow hhigh
  have hinside : isInside (intervalLow m e) (intervalHigh m e) (intervalDen e) closed step d
      = true := by
    rw [isInside_interval_iff hnormal]
    cases closed
    · exact ⟨hlow, hhigh⟩
    · exact ⟨hlow.le, hhigh.le⟩
  rw [hinside] at h
  cases h

/-- The interval is wider than a unit in the seventeenth digit of the number. -/
theorem lt_width (hnormal : Normalized m e) :
    (m : ℚ) / 10 ^ 16 < lowGap m e / 4 + 1 / 2 := by
  unfold lowGap
  split
  · rename_i h
    rw [h.1, Binary64.leastNormal_eq]
    norm_num
  · have hm : (m : ℚ) < 9007199254740992 := by exact_mod_cast hnormal.lt
    linarith

/-- **On the grid of seventeen digits there is always a point in the interval.** -/
theorem exists_onGrid? (hnormal : Normalized m e) {point : Int}
    (hpoint : (10 : ℚ) ^ (point - 1) ≤ m * 2 ^ e) (closed : Bool) :
    onGrid? (intervalLow m e) (intervalMid m e) (intervalHigh m e) (intervalDen e) closed point 17
      ≠ none := by
  intro hnone
  have hpow : (0 : ℚ) < 2 ^ e := zpow_pos two_pos e
  obtain ⟨hbelow, habove⟩ := onGrid?_eq_none hnone
  obtain ⟨hmid, hmid'⟩ := gridBelow_spec (intervalMid m e) (intervalDen_pos e)
    (point - (17 : Nat))
  rw [intervalMid_eq] at hmid hmid'
  have hunit : (10 : ℚ) ^ (point - (17 : Nat)) ≤ m / 10 ^ 16 * 2 ^ e := by
    rw [show point - ((17 : Nat) : Int) = point - 1 - 16 by push_cast; ring,
      zpow_sub₀ (by norm_num), div_mul_eq_mul_div]
    exact div_le_div_of_nonneg_right hpoint (by norm_num)
  have hb := le_of_not_isInside hnormal hbelow
  have ha := le_of_not_isInside hnormal habove
  have hw := lt_width hnormal
  rw [← div_le_iff₀ hpow] at hunit hmid
  rw [← lt_div_iff₀ hpow] at hmid'
  have hgap : (0 : ℚ) ≤ lowGap m e := Nat.cast_nonneg _
  rw [Nat.cast_add, Nat.cast_one] at ha
  have hstep : ((gridBelow (intervalMid m e) (intervalDen e) (point - (17 : Nat)) : ℚ) + 1) *
      10 ^ (point - (17 : Nat)) / 2 ^ e
      = gridBelow (intervalMid m e) (intervalDen e) (point - (17 : Nat)) *
        10 ^ (point - (17 : Nat)) / 2 ^ e + 10 ^ (point - (17 : Nat)) / 2 ^ e := by ring
  rcases hb with hb | hb
  · rcases ha with ha | ha
    · linarith
    · linarith
  · linarith

/-! ## 5. Shortest digits -/

/-- The numbers of the format are between powers of two. -/
theorem value_bounds (hnormal : Normalized m e) :
    (2 : ℚ) ^ (-1074 : Int) ≤ m * 2 ^ e ∧ (m * 2 ^ e : ℚ) ≤ 2 ^ (1024 : Int) := by
  have hm : (1 : ℚ) ≤ m := by exact_mod_cast hnormal.pos
  have hm' : (m : ℚ) ≤ 2 ^ (53 : Int) := by exact_mod_cast hnormal.lt.le
  have hmin : (-1074 : Int) ≤ e := hnormal.le_exponent
  have hmax : e ≤ 971 := hnormal.exponent_le
  constructor
  · calc (2 : ℚ) ^ (-1074 : Int) ≤ 2 ^ e := zpow_le_zpow_right₀ one_le_two hmin
      _ ≤ m * 2 ^ e := le_mul_of_one_le_left (zpow_pos two_pos e).le hm
  · calc (m * 2 ^ e : ℚ) ≤ 2 ^ (53 : Int) * 2 ^ (971 : Int) := by gcongr; norm_num
      _ = 2 ^ (1024 : Int) := by rw [← zpow_add₀ two_ne_zero]; norm_num

/-- The place of the first digit of a number. -/
def pointOf (m : Nat) (e : Int) : Int := magnitudeOf (intervalMid m e) (intervalDen e)

theorem pointOf_spec (hnormal : Normalized m e) :
    (10 : ℚ) ^ (pointOf m e - 1) ≤ m * 2 ^ e ∧ (m * 2 ^ e : ℚ) < 10 ^ pointOf m e := by
  have hmid : 0 < intervalMid m e :=
    Nat.mul_pos (Nat.mul_pos (by decide) hnormal.pos) (powNum_pos (by decide) _)
  obtain ⟨hlow, hhigh⟩ := value_bounds hnormal
  have h := magnitudeOf_spec hmid (intervalDen_pos e)
  rw [intervalMid_eq] at h
  exact h ((zpow_le_zpow_right₀ one_le_two (by decide)).trans hlow)
    (hhigh.trans (zpow_le_zpow_right₀ one_le_two (by decide)))

theorem pointOf_bounds (hnormal : Normalized m e) : -324 < pointOf m e ∧ pointOf m e ≤ 310 := by
  obtain ⟨hlow, hhigh⟩ := value_bounds hnormal
  obtain ⟨hlow', hhigh'⟩ := pointOf_spec hnormal
  have hmin : (10 : ℚ) ^ (-324 : Int) ≤ 2 ^ (-1074 : Int) :=
    ten_zpow_le_two_zpow (by decide) (by decide)
  have hmax : (2 : ℚ) ^ (1024 : Int) ≤ 10 ^ (309 : Int) :=
    two_zpow_le_ten_zpow (by decide) (by decide)
  constructor
  · exact (zpow_lt_zpow_iff_right₀ (by norm_num : (1 : ℚ) < 10)).mp
      (hmin.trans_lt (hlow.trans_lt hhigh'))
  · have hle := (zpow_le_zpow_iff_right₀ (by norm_num : (1 : ℚ) < 10)).mp
      (hlow'.trans (hhigh.trans hmax))
    omega

/-- The point of a grid below a number has as many digits as the grid. -/
theorem gridBelow_bounds (hnormal : Normalized m e) (n : Nat) :
    10 ^ n ≤ gridBelow (intervalMid m e) (intervalDen e) (pointOf m e - (n + 1 : Nat)) ∧
      gridBelow (intervalMid m e) (intervalDen e) (pointOf m e - (n + 1 : Nat)) < 10 ^ (n + 1) := by
  have hten : (10 : ℚ) ≠ 0 := by norm_num
  have hunit : (0 : ℚ) < 10 ^ (pointOf m e - (n + 1 : Nat)) := zpow_pos (by norm_num) _
  obtain ⟨hlow, hhigh⟩ := pointOf_spec hnormal
  obtain ⟨hmid, hmid'⟩ := gridBelow_spec (intervalMid m e) (intervalDen_pos e)
    (pointOf m e - (n + 1 : Nat))
  rw [intervalMid_eq] at hmid hmid'
  have hfirst : (10 : ℚ) ^ (pointOf m e - 1) = 10 ^ n * 10 ^ (pointOf m e - (n + 1 : Nat)) := by
    rw [← zpow_natCast (10 : ℚ) n, ← zpow_add₀ hten]
    congr 1
    push_cast
    ring
  have hnext : (10 : ℚ) ^ pointOf m e = 10 ^ (n + 1) * 10 ^ (pointOf m e - (n + 1 : Nat)) := by
    rw [← zpow_natCast (10 : ℚ) (n + 1), ← zpow_add₀ hten]
    congr 1
    ring
  rw [hfirst] at hlow
  rw [hnext] at hhigh
  constructor
  · have hlt := lt_of_mul_lt_mul_right (hlow.trans_lt hmid') hunit.le
    exact Nat.le_of_lt_succ (by exact_mod_cast hlt)
  · exact_mod_cast lt_of_mul_lt_mul_right (hmid.trans_lt hhigh) hunit.le

/-- Decimal digits that are rounded to a number: as many as there are, the first one being behind
the point, and the point not far outside of the format. -/
structure Denotes (r : Digits) (m : Nat) (e : Int) : Prop where
  rounds : ∃ n : Nat, 10 ^ n ≤ r.digits ∧ r.digits < 10 ^ (n + 1) ∧
    Rounds (r.digits * 10 ^ (r.point - (n + 1 : Nat))) m e
  reach : r.point.natAbs ≤ 400

/-- A carry out of the digits changes nothing of what they stand for. -/
theorem denotes_carried (hnormal : Normalized m e) {n d : Nat} (hlow : 10 ^ n ≤ d)
    (hhigh : d ≤ 10 ^ (n + 1)) (h : Rounds (d * 10 ^ (pointOf m e - (n + 1 : Nat))) m e) :
    Denotes (carried (n + 1) d (pointOf m e)) m e := by
  have hreach := pointOf_bounds hnormal
  unfold carried
  split
  · rename_i hd
    have hvalue : (1 : ℕ) * (10 : ℚ) ^ (pointOf m e + 1 - (0 + 1 : Nat))
        = d * 10 ^ (pointOf m e - (n + 1 : Nat)) := by
      have hcast : (d : ℚ) = 10 ^ ((n + 1 : Nat) : Int) := by
        rw [zpow_natCast]
        exact_mod_cast (hd : d = 10 ^ (n + 1))
      rw [hcast, ← zpow_add₀ (by norm_num), Nat.cast_one, one_mul]
      congr 1
      push_cast
      ring
    exact ⟨⟨0, le_refl 1, by norm_num, hvalue ▸ h⟩, by dsimp only; omega⟩
  · rename_i hd
    exact ⟨⟨n, hlow, lt_of_le_of_ne hhigh hd, h⟩, by dsimp only; omega⟩

/-- **The shortest digits stand for the number.** -/
theorem denotes_shortest (hnormal : Normalized m e) : Denotes (shortest m e) m e := by
  obtain ⟨hpoint, -⟩ := pointOf_spec hnormal
  rw [shortest_eq]
  cases hfound : (List.range 17).findSome? fun i =>
      onGrid? (intervalLow m e) (intervalMid m e) (intervalHigh m e) (intervalDen e) (m % 2 = 0)
        (magnitudeOf (intervalMid m e) (intervalDen e)) (i + 1) with
  | none =>
    exact absurd (List.findSome?_eq_none_iff.mp hfound 16 (by decide))
      (exists_onGrid? hnormal hpoint _)
  | some r =>
    obtain ⟨i, -, hgrid⟩ := List.exists_of_findSome?_eq_some hfound
    obtain ⟨d, hd, rfl⟩ := onGrid?_eq_some hgrid
    obtain ⟨hlow, hhigh⟩ := gridBelow_bounds hnormal i
    have hnear : d = gridBelow (intervalMid m e) (intervalDen e) (pointOf m e - (i + 1 : Nat)) ∨
        d = gridBelow (intervalMid m e) (intervalDen e) (pointOf m e - (i + 1 : Nat)) + 1 := hd.near
    have hrounds := rounds_of_isInside hnormal hd.inside
    rcases hnear with rfl | rfl
    · exact denotes_carried hnormal hlow hhigh.le hrounds
    · exact denotes_carried hnormal (Nat.le_succ_of_le hlow) hhigh hrounds

end Shortest

end Schemata.Decimal
