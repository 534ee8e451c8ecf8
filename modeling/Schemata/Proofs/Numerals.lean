import Schemata.Proofs.DecimalText
import Schemata.Proofs.Outcome
/-!
# Numerals

What is written of a number is read as the number, whatever follows it that does not go on as a
number.  A numeral is read in three steps, the digits before the point, the fraction and the
exponent; `Lays` says that a text has these parts and that the digits of a number are spelled by
them.

* `number_append`, `afterWhole_int`, `afterWhole_float`: how a numeral is read from its parts.
* `toList_positional`, `toList_scientific`: both layouts of a number have the parts of a numeral.
* `isNumeral_render`, `isNumeral_integer`: what is written of a number is a numeral of it.
* `scalar_of_isNumeral`: a numeral is read as its number, no word of the language being in its
  place.
-/

namespace Schemata.Json

/-! ## 1. Digits, fractions and exponents -/

/-- Whether a text does not go on with digits. -/
def endsDigits (cs : List Char) : Bool := cs.head?.all fun c => !c.isDigit

/-- Whether a text does not go on as a number. -/
def endsNumber (cs : List Char) : Bool :=
  cs.head?.all fun c => !(c.isDigit || c = '.' || c = 'e' || c = 'E')

theorem endsDigits_of_endsNumber {cs : List Char} (h : endsNumber cs = true) :
    endsDigits cs = true := by
  cases cs with
  | nil => rfl
  | cons c rest => simp_all [endsNumber, endsDigits]

theorem isDigit_replicate {n : Nat} {c : Char} (h : c ∈ List.replicate n '0') :
    c.isDigit = true := by
  rw [List.eq_of_mem_replicate h]
  rfl

theorem digits_append {ds rest : List Char} (hds : ∀ c ∈ ds, c.isDigit = true)
    (hrest : endsDigits rest = true) : digits (ds ++ rest) = (ds, rest) := by
  have hnone : rest.takeWhile Char.isDigit = [] ∧ rest.dropWhile Char.isDigit = rest := by
    cases rest with
    | nil => exact ⟨rfl, rfl⟩
    | cons c rest =>
      have hc : c.isDigit = false := by simpa [endsDigits] using hrest
      simp [hc]
  rw [digits, List.takeWhile_append_of_pos hds, List.dropWhile_append_of_pos hds, hnone.1, hnone.2,
    List.append_nil]

theorem fraction_append {fs rest : List Char} (hfs : ∀ c ∈ fs, c.isDigit = true) (hne : fs ≠ [])
    (hrest : endsDigits rest = true) : fraction ('.' :: fs ++ rest) = some (fs, rest) := by
  obtain ⟨c, fs, rfl⟩ := List.exists_cons_of_ne_nil hne
  rw [List.cons_append, fraction, digits_append hfs hrest]

theorem fraction_none {cs : List Char} (h : cs.head? ≠ some '.') : fraction cs = none := by
  unfold fraction
  split
  · exact absurd rfl h
  · rfl

theorem exponent_none {cs : List Char} (h : endsNumber cs = true) : exponent cs = none := by
  cases cs with
  | nil => rfl
  | cons c rest =>
    have hc : (c = 'e' || c = 'E') = false := by simp_all [endsNumber]
    simp only [exponent, hc, Bool.false_eq_true, ↓reduceIte]

/-- The text of an exponent, if there is one. -/
def exponentText? : Option Int → List Char
  | some e => (Decimal.exponentText e).toList
  | none => []

/-- An exponent is a letter, a sign and the digits of its magnitude, padded with zeros. -/
theorem toList_exponentText (e : Int) : ∃ ds : List Char,
    (Decimal.exponentText e).toList = 'e' :: (if e < 0 then '-' else '+') :: ds ∧
      (∀ c ∈ ds, c.isDigit = true) ∧ ds ≠ [] ∧ digitsValue ds = e.natAbs := by
  have hdigits : (toString e.natAbs).toList = Nat.toDigits 10 e.natAbs := Nat.toList_repr
  refine ⟨List.replicate (2 - (toString e.natAbs).length) '0' ++ Nat.toDigits 10 e.natAbs, ?_, ?_,
    List.append_ne_nil_of_right_ne_nil _ Nat.toDigits_ne_nil, ?_⟩
  · unfold Decimal.exponentText Decimal.zeroPadded
    dsimp only
    rw [String.toList_append, String.toList_append, String.toList_ofList, hdigits]
    split <;> rfl
  · intro c hc
    rcases List.mem_append.mp hc with hc | hc
    · exact isDigit_replicate hc
    · exact isDigit_toDigits hc
  · rw [digitsValue_zeros_append, digitsValue_toDigits]

theorem exponent_append (e : Int) {rest : List Char} (hrest : endsDigits rest = true) :
    exponent ((Decimal.exponentText e).toList ++ rest) = some (e, rest) := by
  obtain ⟨ds, htext, hdigits, hne, hvalue⟩ := toList_exponentText e
  have hsplit := digits_append hdigits hrest
  obtain ⟨d, ds, rfl⟩ := List.exists_cons_of_ne_nil hne
  rw [List.cons_append] at hsplit
  rw [htext]
  by_cases hneg : e < 0
  · have hnatAbs : -(e.natAbs : Int) = e := by omega
    simp [hneg, exponent, hsplit, hvalue, -Nat.cast_natAbs, hnatAbs]
  · have hnatAbs : (e.natAbs : Int) = e := by omega
    simp [hneg, exponent, hsplit, hvalue, -Nat.cast_natAbs, hnatAbs]

/-! ## 2. The parts of a numeral -/

/-- The text of a fraction, if there is one. -/
def fractionText (fs : List Char) : List Char := if fs = [] then [] else '.' :: fs

/-- The digits before the point, and what follows them. -/
def whole? (cs : List Char) : Option (List Char × List Char) :=
  match cs with
  | '0' :: rest => some (['0'], rest)
  | _ =>
    match digits cs with
    | ([], _) => none
    | split => some split

/-- What is made of the digits before the point and of what follows them. -/
def afterWhole (negative : Bool) (ds rest : List Char) : Except ReadCause Scalar × List Char :=
  let frac := fraction rest
  let (fs, rest) := frac.getD ([], rest)
  let expo := exponent rest
  let (e, rest) := expo.getD (0, rest)
  if frac.isSome || expo.isSome then
    let all := (ds ++ fs).dropWhile (· = '0')
    let x := Binary64.ofDecimal negative (digitsValue all) all.length (e - fs.length)
    (.ok (.float x), rest)
  else if Written.digitLimit < ds.length then (.error (.tooLong ds.length), rest)
  else
    let n : Int := digitsValue ds
    (.ok (.int (if negative then -n else n)), rest)

/-- Digits before a point: a zero stands alone. -/
structure IsWhole (ds : List Char) : Prop where
  digits : ∀ c ∈ ds, c.isDigit = true
  ne_nil : ds ≠ []
  zero : ds.head? = some '0' → ds = ['0']

/-- A numeral is read from its digits before the point, and from what follows them. -/
theorem number_append (negative : Bool) {ds rest : List Char} (hds : IsWhole ds)
    (hrest : endsDigits rest = true) :
    number negative (ds ++ rest) = some (afterWhole negative ds rest) := by
  have hsplit := digits_append hds.digits hrest
  have hzero := hds.zero
  obtain ⟨c, cs, rfl⟩ := List.exists_cons_of_ne_nil hds.ne_nil
  by_cases hc : c = '0'
  · subst hc
    obtain ⟨rfl⟩ := List.cons.inj (hzero rfl) |>.2
    rfl
  · have hwhole : whole? (c :: cs ++ rest) = some (c :: cs, rest) := by
      unfold whole?
      rw [hsplit]
      split
      · rename_i heq
        exact absurd (List.cons.inj heq).1 hc
      · rfl
    exact congrArg (Option.map fun p => afterWhole negative p.1 p.2) hwhole

/-- **Without fraction and exponent** a numeral is one of an integer. -/
theorem afterWhole_int (negative : Bool) {ds rest : List Char} (hrest : endsNumber rest = true)
    (hlimit : ds.length ≤ Written.digitLimit) :
    afterWhole negative ds rest
      = (.ok (.int (if negative then -(digitsValue ds : Int) else digitsValue ds)), rest) := by
  have hpoint : rest.head? ≠ some '.' := by
    rintro h
    simp [endsNumber, h] at hrest
  simp only [afterWhole, fraction_none hpoint, exponent_none hrest, Option.getD_none,
    Option.isSome_none, Bool.or_self, Bool.false_eq_true, ↓reduceIte, Nat.not_lt.mpr hlimit]

theorem fraction_fractionText {fs rest : List Char} (hfs : ∀ c ∈ fs, c.isDigit = true)
    (hrest : endsDigits rest = true) (hpoint : rest.head? ≠ some '.') :
    (fraction (fractionText fs ++ rest)).getD ([], fractionText fs ++ rest) = (fs, rest) ∧
      (fraction (fractionText fs ++ rest)).isSome = !fs.isEmpty := by
  unfold fractionText
  split
  · rename_i hnil
    subst hnil
    simp [fraction_none hpoint]
  · rename_i hne
    rw [fraction_append hfs hne hrest]
    simp [hne]

theorem exponent_exponentText? (expo : Option Int) {rest : List Char}
    (hrest : endsNumber rest = true) :
    exponent (exponentText? expo ++ rest) = expo.map (·, rest) := by
  cases expo with
  | none => exact exponent_none hrest
  | some e => exact exponent_append e (endsDigits_of_endsNumber hrest)

theorem exponentText?_append (expo : Option Int) {rest : List Char} (h : endsNumber rest = true) :
    endsDigits (exponentText? expo ++ rest) = true ∧
      (exponentText? expo ++ rest).head? ≠ some '.' := by
  cases expo with
  | none =>
    refine ⟨endsDigits_of_endsNumber h, fun hpoint => ?_⟩
    rw [exponentText?, List.nil_append] at hpoint
    simp [endsNumber, hpoint] at h
  | some e =>
    obtain ⟨ds, htext, -⟩ := toList_exponentText e
    rw [exponentText?, htext]
    exact ⟨rfl, by simp⟩

/-- **With a fraction or an exponent** a numeral is one of a floating-point number. -/
theorem afterWhole_float (negative : Bool) {ds fs rest : List Char} {expo : Option Int}
    (hfs : ∀ c ∈ fs, c.isDigit = true) (h : fs ≠ [] ∨ expo ≠ none)
    (hrest : endsNumber rest = true) :
    afterWhole negative ds (fractionText fs ++ (exponentText? expo ++ rest))
      = (.ok (.float (Binary64.ofDecimal negative (digitsValue ((ds ++ fs).dropWhile (· = '0')))
          ((ds ++ fs).dropWhile (· = '0')).length (expo.getD 0 - fs.length))), rest) := by
  obtain ⟨hdigits, hpoint⟩ := exponentText?_append expo hrest
  obtain ⟨hfraction, hsome⟩ := fraction_fractionText hfs hdigits hpoint
  have hexponent := exponent_exponentText? expo hrest
  have hfloat : (!fs.isEmpty || (expo.map fun e => (e, rest)).isSome) = true := by
    rcases h with h | h
    · simp [h]
    · simp [Option.isSome_iff_ne_none, h]
  simp only [afterWhole, hfraction, hsome, hexponent, hfloat, ↓reduceIte]
  cases expo with
  | none => rfl
  | some e => rfl

/-! ## 3. Rendered numbers -/

open Decimal (Spells)
open Binary64 (Normalized)

/-- A numeral with a fraction or an exponent, whose digits are those of a text with zeros around
them. -/
structure Lays (body text : List Char) (point : Int) : Prop where
  split : ∃ (ds fs : List Char) (expo : Option Int) (a k : Nat),
    body = ds ++ (fractionText fs ++ exponentText? expo) ∧ IsWhole ds ∧
      (∀ c ∈ fs, c.isDigit = true) ∧ (fs ≠ [] ∨ expo ≠ none) ∧
      ds ++ fs = List.replicate a '0' ++ text ++ List.replicate k '0' ∧
      expo.getD 0 - fs.length = point - text.length - k

theorem endsDigits_fractionText {fs : List Char} {expo : Option Int} {rest : List Char}
    (hrest : endsNumber rest = true) :
    endsDigits (fractionText fs ++ (exponentText? expo ++ rest)) = true := by
  unfold fractionText
  split
  · exact (exponentText?_append expo hrest).1
  · rfl

theorem number_of_lays {body text rest : List Char} {point : Int} {m : Nat} {e : Int}
    (h : Lays body text point) (hspells : Spells text point m e) (hnormal : Normalized m e)
    (negative : Bool) (hrest : endsNumber rest = true) :
    number negative (body ++ rest) = some (.ok (.float (.finite negative m e)), rest) := by
  obtain ⟨ds, fs, expo, a, k, rfl, hds, hfs, hfloat, hall, hpower⟩ := h
  rw [List.append_assoc, List.append_assoc,
    number_append negative hds (endsDigits_fractionText hrest),
    afterWhole_float negative hfs hfloat hrest, hspells.ofDecimal_eq hnormal negative hall hpower]

section Layouts

variable {text : List Char} {point : Int} {m : Nat} {e : Int}

theorem fractionText_of_ne_nil {fs : List Char} (h : fs ≠ []) : fractionText fs = '.' :: fs :=
  if_neg h

theorem isWhole_take (h : Spells text point m e) {n : Nat} (hn : 0 < n) :
    IsWhole (text.take n) where
  digits c hc := h.digits c (List.mem_of_mem_take hc)
  ne_nil hnil := (List.take_eq_nil_iff.mp hnil).elim (fun hzero => absurd hzero hn.ne') h.ne_nil
  zero hhead := by
    rw [List.head?_take, if_neg hn.ne'] at hhead
    exact absurd hhead h.head

/-- The digits come after the point. -/
theorem lays_leading (h : Spells text point m e) (hpoint : point ≤ 0) :
    Lays ('0' :: '.' :: (List.replicate (-point).toNat '0' ++ text)) text point := by
  have hne : List.replicate (-point).toNat '0' ++ text ≠ [] :=
    List.append_ne_nil_of_right_ne_nil _ h.ne_nil
  refine ⟨['0'], List.replicate (-point).toNat '0' ++ text, none, (-point).toNat + 1, 0, ?_, ?_,
    ?_, .inl hne, ?_, ?_⟩
  · rw [fractionText_of_ne_nil hne, exponentText?, List.append_nil]
    rfl
  · exact ⟨by simp, by simp, fun _ => rfl⟩
  · intro c hc
    rcases List.mem_append.mp hc with hc | hc
    · exact isDigit_replicate hc
    · exact h.digits c hc
  · simp [List.replicate_succ]
  · rw [List.length_append, List.length_replicate]
    push_cast
    simp
    omega

/-- The digits come before the point. -/
theorem lays_trailing (h : Spells text point m e) (hpoint : text.length ≤ point.toNat) :
    Lays (text ++ (List.replicate (point.toNat - text.length) '0' ++ ['.', '0'])) text point := by
  refine ⟨text ++ List.replicate (point.toNat - text.length) '0', ['0'], none, 0,
    point.toNat - text.length + 1, ?_, ?_, ?_, .inl (by simp), ?_, ?_⟩
  · simp [fractionText, exponentText?]
  · refine ⟨fun c hc => ?_, by simp [h.ne_nil], fun hhead => ?_⟩
    · rcases List.mem_append.mp hc with hc | hc
      · exact h.digits c hc
      · exact isDigit_replicate hc
    · rw [List.head?_append_of_ne_nil _ h.ne_nil] at hhead
      exact absurd hhead h.head
  · simp
  · simp [List.replicate_succ']
  · have hpos : 0 < text.length := List.length_pos_iff.mpr h.ne_nil
    rw [Option.getD_none, List.length_singleton]
    omega

/-- The point is among the digits. -/
theorem lays_between (h : Spells text point m e) (hpos : 0 < point)
    (hpoint : point.toNat < text.length) :
    Lays (text.take point.toNat ++ ('.' :: text.drop point.toNat)) text point := by
  have hne : text.drop point.toNat ≠ [] := by simpa using hpoint
  refine ⟨text.take point.toNat, text.drop point.toNat, none, 0, 0, ?_, isWhole_take h (by omega),
    fun c hc => h.digits c (List.mem_of_mem_drop hc), .inl hne, ?_, ?_⟩
  · rw [fractionText_of_ne_nil hne, exponentText?, List.append_nil]
  · simp
  · rw [Option.getD_none, List.length_drop]
    omega

/-- One digit comes before the point, and there is an exponent. -/
theorem lays_scientific (h : Spells text point m e) :
    Lays (text.take 1 ++
      (fractionText (text.drop 1) ++ (Decimal.exponentText (point - 1)).toList)) text point := by
  refine ⟨text.take 1, text.drop 1, some (point - 1), 0, 0, rfl, isWhole_take h (by decide),
    fun c hc => h.digits c (List.mem_of_mem_drop hc), .inr (by simp), ?_, ?_⟩
  · rw [List.take_append_drop]
    simp
  · have hpos : 0 < text.length := List.length_pos_iff.mpr h.ne_nil
    rw [Option.getD_some, List.length_drop]
    omega

theorem toList_positional {s : String} {point : Int} {m : Nat} {e : Int}
    (h : Spells s.toList point m e) : Lays (Decimal.positional s point).toList s.toList point := by
  have hlength : s.length = s.toList.length := String.length_toList.symm
  unfold Decimal.positional Decimal.zeros
  dsimp only
  rw [hlength]
  split
  · rename_i hpoint
    simpa using lays_leading h hpoint
  · rename_i hpos
    split
    · rename_i hpoint
      simpa using lays_trailing h hpoint
    · rename_i hpoint
      simpa using lays_between h (by omega) (by omega)

theorem toList_scientific {s : String} {point : Int} {m : Nat} {e : Int}
    (h : Spells s.toList point m e) :
    Lays (numberLayout.scientific s (point - 1)).toList s.toList point := by
  have hpoint : numberLayout.pointBeforeExponent = false := rfl
  have htext : (numberLayout.scientific s (point - 1)).toList
      = s.toList.take 1 ++
        (fractionText (s.toList.drop 1) ++ (Decimal.exponentText (point - 1)).toList) := by
    unfold Decimal.Layout.scientific fractionText
    simp only [hpoint, String.toList_append, String.toList_ofList, List.append_assoc,
      List.isEmpty_iff, Bool.false_eq_true, ↓reduceIte]
    split <;> simp
  rw [htext]
  exact lays_scientific h

end Layouts

/-! ## 4. Numerals -/

/-- The minus of a negative number. -/
def minus (negative : Bool) : List Char := if negative then ['-'] else []

/-- A text that is read as a number, whatever follows it that does not go on as a number. -/
structure IsNumeral (cs : List Char) (s : Scalar) : Prop where
  reads : ∃ negative body, cs = minus negative ++ body ∧ body.head?.any Char.isDigit = true ∧
    ∀ rest, endsNumber rest = true → number negative (body ++ rest) = some (.ok s, rest)

theorem IsWhole.starts {ds : List Char} (h : IsWhole ds) (rest : List Char) :
    (ds ++ rest).head?.any Char.isDigit = true := by
  obtain ⟨c, ds, rfl⟩ := List.exists_cons_of_ne_nil h.ne_nil
  exact h.digits c List.mem_cons_self

theorem Lays.isNumeral {body text : List Char} {point : Int} {m : Nat} {e : Int}
    (h : Lays body text point) (hspells : Spells text point m e) (hnormal : Normalized m e)
    (negative : Bool) : IsNumeral (minus negative ++ body) (.float (.finite negative m e)) := by
  refine ⟨negative, body, rfl, ?_, fun rest hrest =>
    number_of_lays h hspells hnormal negative hrest⟩
  obtain ⟨ds, fs, expo, a, k, rfl, hds, -⟩ := h
  exact hds.starts _

theorem isNumeral_zero (negative : Bool) :
    IsNumeral (minus negative ++ ['0', '.', '0']) (.float (.finite negative 0 0)) := by
  refine ⟨negative, ['0', '.', '0'], rfl, rfl, fun rest hrest => ?_⟩
  have hds : IsWhole ['0'] := ⟨by simp, by simp, fun _ => rfl⟩
  have hsplit : ['0', '.', '0'] ++ rest
      = ['0'] ++ (fractionText ['0'] ++ (exponentText? none ++ rest)) := rfl
  rw [hsplit, number_append negative hds (endsDigits_fractionText hrest),
    afterWhole_float negative (by simp) (.inl (by simp)) hrest]
  rfl

/-- **A floating-point number is read from its text.** -/
theorem isNumeral_render {negative : Bool} {m : Nat} {e : Int}
    (h : (Binary64.finite negative m e).isCanonical = true) :
    IsNumeral (numberLayout.render (.finite negative m e)).toList
      (.float (.finite negative m e)) := by
  have hminus : (if negative then "-" else "").toList = minus negative := by
    cases negative <;> rfl
  rcases Binary64.isCanonical_finite.mp h with ⟨rfl, rfl⟩ | hnormal
  · have htext : (numberLayout.render (.finite negative 0 0)).toList
        = minus negative ++ ['0', '.', '0'] := by cases negative <;> rfl
    rw [htext]
    exact isNumeral_zero negative
  · have hspells := Decimal.spells_shortest hnormal
    unfold Decimal.Layout.render
    dsimp only
    rw [if_neg hnormal.pos.ne', String.toList_append, hminus]
    split
    · exact (toList_positional hspells).isNumeral hspells hnormal negative
    · exact (toList_scientific hspells).isNumeral hspells hnormal negative

theorem isWhole_toDigits (n : Nat) : IsWhole (Nat.toDigits 10 n) where
  digits _ hc := isDigit_toDigits hc
  ne_nil := Nat.toDigits_ne_nil
  zero hhead := by
    rcases Nat.eq_zero_or_pos n with rfl | hpos
    · rfl
    · exact absurd hhead (head?_toDigits hpos)

theorem length_toDigits_of_isWritable {n : Int} (h : Written.isWritable n = true) :
    (Nat.toDigits 10 n.natAbs).length ≤ Written.digitLimit := by
  -- The power is kept out of sight: it is too large to be computed.
  have hpow : ∀ k, 0 < k → (n.natAbs.log2 < 3 * k ∨ n.natAbs < Nat.pow 10 k) →
      (Nat.toDigits 10 n.natAbs).length ≤ k := fun k hk hlt => by
    rw [Nat.length_toDigits_le_iff (by decide) hk]
    rcases hlt with hlog | hlt
    · calc n.natAbs < 2 ^ (n.natAbs.log2 + 1) := Nat.lt_log2_self
        _ ≤ 2 ^ (3 * k) := Nat.pow_le_pow_right (by decide) hlog
        _ = 8 ^ k := by rw [Nat.pow_mul]
        _ ≤ 10 ^ k := Nat.pow_le_pow_left (by decide) k
    · exact hlt
  refine hpow _ (by decide) ?_
  simpa [Written.isWritable] using h

/-- **An integer is read from its text**, if it has one. -/
theorem isNumeral_integer {n : Int} (h : Written.isWritable n = true) :
    IsNumeral (toString n).toList (.int n) := by
  have htext : (toString n).toList = minus (n < 0) ++ Nat.toDigits 10 n.natAbs := by
    cases n with
    | ofNat k => exact Nat.toList_repr
    | negSucc k =>
      have hsucc : toString (Int.negSucc k) = "-" ++ (k + 1).repr := rfl
      have hminus : minus (Int.negSucc k < 0) = "-".toList := by
        rw [decide_eq_true (Int.negSucc_lt_zero k)]
        rfl
      rw [hsucc, String.toList_append, Nat.toList_repr, hminus]
      rfl
  have hstarts := (isWhole_toDigits n.natAbs).starts []
  rw [List.append_nil] at hstarts
  refine ⟨n < 0, _, htext, hstarts, fun rest hrest => ?_⟩
  rw [number_append _ (isWhole_toDigits _) (endsDigits_of_endsNumber hrest),
    afterWhole_int _ hrest (length_toDigits_of_isWritable h), digitsValue_toDigits]
  have hvalue : (if decide (n < 0) = true then -(n.natAbs : Int) else n.natAbs) = n := by
    simp only [decide_eq_true_eq]
    split <;> omega
  rw [hvalue]

/-! ## 5. Scalars -/

/-- No word has a digit where a number has its first one. -/
theorem not_isPrefixOf_number {c : Char} (h : c.isDigit = true) (cs : List Char) :
    ∀ p ∈ words, ∀ negative, p.1.toList.isPrefixOf (minus negative ++ c :: cs) = false := by
  have hne : ∀ d : Char, d.isDigit = false → (d == c) = false := fun d hd => by
    rw [beq_eq_false_iff_ne]
    rintro rfl
    rw [h] at hd
    cases hd
  have hwords : ∀ p ∈ words, (∃ d w, p.1.toList = d :: w ∧ d.isDigit = false ∧ d ≠ '-') ∨
      ∃ d w, p.1.toList = '-' :: d :: w ∧ d.isDigit = false := by
    intro p hp
    simp only [words, List.mem_cons, List.not_mem_nil, or_false] at hp
    rcases hp with rfl | rfl | rfl | rfl | rfl | rfl
    · exact .inl ⟨_, _, rfl, rfl, by decide⟩
    · exact .inl ⟨_, _, rfl, rfl, by decide⟩
    · exact .inl ⟨_, _, rfl, rfl, by decide⟩
    · exact .inl ⟨_, _, rfl, rfl, by decide⟩
    · exact .inl ⟨_, _, rfl, rfl, by decide⟩
    · exact .inr ⟨_, _, rfl, rfl⟩
  intro p hp negative
  rcases hwords p hp with ⟨d, w, hw, hd, hminus⟩ | ⟨d, w, hw, hd⟩
  · cases negative <;> simp [hw, minus, List.isPrefixOf, hne d hd, hminus]
  · cases negative <;> simp [hw, minus, List.isPrefixOf, hne d hd, hne '-' rfl]

theorem word?_of_digit {cs : List Char} (h : cs.head?.any Char.isDigit = true) (negative : Bool)
    (rest : List Char) : word? (minus negative ++ cs ++ rest) = none := by
  cases cs with
  | nil => cases h
  | cons c cs =>
    refine List.findSome?_eq_none_iff.mpr fun p hp => ?_
    rw [List.append_assoc]
    exact if_neg (Bool.eq_false_iff.mp (not_isPrefixOf_number h (cs ++ rest) p hp negative))

theorem scalar_of_isNumeral {cs rest : List Char} {s : Scalar} (h : IsNumeral cs s)
    (hrest : endsNumber rest = true) : scalar (cs ++ rest) = .ok (.atom s, rest) := by
  obtain ⟨negative, body, rfl, hdigit, hread⟩ := h
  have hword := word?_of_digit hdigit negative rest
  cases negative with
  | true =>
    rw [List.append_assoc] at hword ⊢
    unfold scalar
    rw [hword]
    simp [minus, hread rest hrest]
  | false =>
    obtain ⟨c, body, rfl⟩ : ∃ c tail, body = c :: tail := by
      cases body with
      | nil => cases hdigit
      | cons c tail => exact ⟨c, tail, rfl⟩
    have hc : c ≠ '-' := by
      rintro rfl
      cases hdigit
    have hnumber : number false (c :: (body ++ rest)) = some (.ok s, rest) := hread rest hrest
    rw [List.append_assoc] at hword ⊢
    unfold scalar
    rw [hword]
    simp [minus, hc, hnumber]

end Schemata.Json
