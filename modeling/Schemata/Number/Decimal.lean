import Schemata.Number.Binary64
/-!
# Decimal text of binary numbers

* `Decimal.shortest` finds the fewest decimal digits that read back as the same number, and of
  those the nearest to it.
* `Layout` says where positional notation ends and how an exponent is written;
  `Layout.render` writes digits by it.
* `Decimal.fixed` writes a number with a given count of places, `Decimal.roundPlaces` rounds it
  there, both from its exact value with a tie going to the even digit.
-/

namespace Schemata.Decimal

/-! ## 1. Shortest digits -/

/-- Decimal digits and the place of the point: the value is `0.d₁d₂… * 10 ^ point`. -/
structure Digits where
  digits : Nat
  point : Int
  deriving Repr

/-- The least power of ten above `num / den`, as an exponent. -/
def magnitudeOf (num den : Nat) : Int :=
  let guess : Int := (((num.log2 : Int) - den.log2) * 30103).fdiv 100000 - 1
  let below (k : Int) : Bool :=
    if 0 ≤ k then num < den * Nat.pow 10 k.toNat else num * Nat.pow 10 (-k).toNat < den
  ([guess, guess + 1, guess + 2].find? below).getD (guess + 3)

/-- Digits of `n` places behind the point; a carry out of them moves the point. -/
def carried (n d : Nat) (point : Int) : Digits :=
  if d = Nat.pow 10 n then ⟨1, point + 1⟩ else ⟨d, point⟩

/-- The grid of `n` significant digits: a grid point in the interval that is nearest to the
value, if there is one.  `low`, `value` and `high` are numerators over `den`. -/
def onGrid? (low value high den : Nat) (closed : Bool) (point : Int) (n : Nat) : Option Digits :=
  let step := point - n
  let up := if 0 ≤ step then Nat.pow 10 step.toNat else 1
  let down := if 0 ≤ step then 1 else Nat.pow 10 (-step).toNat
  let below := value * down / (den * up)
  let inside (d : Nat) : Bool :=
    let p := d * up * den
    if closed then decide (low * down ≤ p ∧ p ≤ high * down)
    else decide (low * down < p ∧ p < high * down)
  let gap (d : Nat) : Nat := ((d * up * den : Nat) - (value * down : Nat) : Int).natAbs
  let above := below + 1
  match inside below, inside above with
  | true, true =>
    let choice :=
      if gap below < gap above then below
      else if gap above < gap below then above
      else if below % 2 = 0 then below else above
    some (carried n choice point)
  | true, false => some (carried n below point)
  | false, true => some (carried n above point)
  | false, false => none

/-- The fewest digits that read back as `mantissa * 2 ^ exponent`, which is not zero. -/
def shortest (mantissa : Nat) (exponent : Int) : Digits :=
  let lowGap : Nat :=
    if mantissa = Binary64.leastNormal ∧ Binary64.minExponent < exponent then 1 else 2
  let shift := exponent - 2
  let up := if 0 ≤ shift then Nat.pow 2 shift.toNat else 1
  let den := if 0 ≤ shift then 1 else Nat.pow 2 (-shift).toNat
  let value := 4 * mantissa * up
  let low := (4 * mantissa - lowGap) * up
  let high := (4 * mantissa + 2) * up
  let point := magnitudeOf value den
  ((List.range 17).findSome? fun i =>
    onGrid? low value high den (mantissa % 2 = 0) point (i + 1)).getD ⟨value / den, point⟩

/-! ## 2. Layout -/

/-- How a floating-point number is laid out. -/
structure Layout where
  /-- The least decimal exponent written positionally. -/
  positionalFrom : Int
  /-- The first decimal exponent above zero that is not written positionally. -/
  positionalBelow : Int
  /-- Whether a mantissa without a fraction keeps `.0` before an exponent. -/
  pointBeforeExponent : Bool
  /-- Texts of not-a-number and of infinity without its sign. -/
  nanText : String
  infinityText : String

/-- The layout of numbers in documents: positional from `0.0001` up to `10 ^ 16`. -/
def Layout.document : Layout := ⟨-4, 16, false, "nan", "inf"⟩

/-- Pads a decimal numeral with zeros on the left. -/
def zeroPadded (width n : Nat) : String :=
  let s := toString n
  String.ofList (List.replicate (width - s.length) '0') ++ s

/-- A text of `n` zeros. -/
def zeros (n : Nat) : String := String.ofList (List.replicate n '0')

/-- Writes `e`, the sign and at least two digits of an exponent. -/
def exponentText (e : Int) : String :=
  (if e < 0 then "e-" else "e+") ++ zeroPadded 2 e.natAbs

/-- Writes the digits `text` with the point after the first `point` of them. -/
def positional (text : String) (point : Int) : String :=
  let n := text.length
  if point ≤ 0 then "0." ++ zeros (-point).toNat ++ text
  else if n ≤ point.toNat then text ++ zeros (point.toNat - n) ++ ".0"
  else
    let cs := text.toList
    String.ofList (cs.take point.toNat) ++ "." ++ String.ofList (cs.drop point.toNat)

/-- Writes the digits `text` in exponent form. -/
def Layout.scientific (layout : Layout) (text : String) (exponent : Int) : String :=
  let cs := text.toList
  let head := String.ofList (cs.take 1)
  let tail := cs.drop 1
  let fraction :=
    if tail.isEmpty then (if layout.pointBeforeExponent then ".0" else "")
    else "." ++ String.ofList tail
  head ++ fraction ++ exponentText exponent

/-- Drops the zeros at the end of a nonzero natural's decimal digits. -/
def trimZeros (s : String) : String :=
  let kept := (s.toList.reverse.dropWhile (· = '0')).reverse
  if kept.isEmpty then "0" else String.ofList kept

/-- The text of a floating-point number. -/
def Layout.render (layout : Layout) : Binary64 → String
  | .nan => layout.nanText
  | .infinite negative => (if negative then "-" else "") ++ layout.infinityText
  | .finite negative m e =>
    let sign := if negative then "-" else ""
    if m = 0 then sign ++ "0.0"
    else
      let d := shortest m e
      let written := toString d.digits
      -- A neighbour that rounds up to a power of ten has one digit more.
      let point := d.point
      let text := trimZeros written
      let exponent := point - 1
      sign ++
        (if layout.positionalFrom ≤ exponent ∧ exponent < layout.positionalBelow then
          positional text point
        else layout.scientific text exponent)

/-! ## 3. Fixed places -/

/-- `num / den` with `places` decimals, as the rounded count of units in the last place. -/
def roundedUnits (num den places : Nat) : Nat := Binary64.roundDiv (num * Nat.pow 10 places) den

/-- A number written with exactly `places` decimals, `places` being positive. -/
def fixed (places : Nat) : Binary64 → String
  | .nan => "nan"
  | .infinite negative => if negative then "-inf" else "inf"
  | .finite negative m e =>
    let (num, den) := Binary64.magnitude m e
    let units := roundedUnits num den places
    let scale := Nat.pow 10 places
    (if negative then "-" else "") ++ toString (units / scale) ++ "." ++
      zeroPadded places (units % scale)

/-- The number nearest to the value rounded to `places` decimals. -/
def roundPlaces (places : Nat) : Binary64 → Binary64
  | .finite negative m e =>
    let (num, den) := Binary64.magnitude m e
    Binary64.ofRatio negative (roundedUnits num den places) (Nat.pow 10 places)
  | x => x

end Schemata.Decimal
