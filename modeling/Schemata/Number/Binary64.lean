/-!
# Binary floating point, exactly

`Binary64` is a number in the 64-bit binary interchange format, kept as an integer mantissa and
a power of two so that every operation below is integer arithmetic.

* `Binary64.ofRatio` rounds a ratio of naturals to the nearest representable number, a tie going
  to the even mantissa; `Binary64.ofDecimal` reads a decimal text's digits through it.
* `Binary64.toRatio?` is the exact value again.
* `Binary64.add` and `Binary64.mul` round the exact sum and product.
* `Binary64.compareInt?` and `Binary64.compare?` order numbers by their exact values.
-/

namespace Schemata

/-- A 64-bit binary floating-point number.  A finite one has the value
`± mantissa * 2 ^ exponent`. -/
inductive Binary64
  | nan
  | infinite (negative : Bool)
  | finite (negative : Bool) (mantissa : Nat) (exponent : Int)
  deriving DecidableEq, Repr, Inhabited

namespace Binary64

/-! ## 1. Limits of the format -/

/-- Significant binary digits of a normal number. -/
def precision : Nat := 53

/-- The least mantissa with `precision` digits. -/
def leastNormal : Nat := Nat.pow 2 (precision - 1)

/-- The least exponent of a mantissa. -/
def minExponent : Int := -1074

/-- The greatest exponent of a mantissa. -/
def maxExponent : Int := 971

/-! ## 2. Rounding -/

/-- The natural nearest to `num / den`, a tie going to the even one. -/
def roundDiv (num den : Nat) : Nat :=
  let q := num / den
  let r := num % den
  if 2 * r < den then q
  else if den < 2 * r then q + 1
  else if q % 2 = 0 then q else q + 1

/-- `num / den` divided by `2 ^ e`, as a ratio again. -/
def scaleDown (num den : Nat) (e : Int) : Nat × Nat :=
  if 0 ≤ e then (num, den * Nat.pow 2 e.toNat) else (num * Nat.pow 2 (-e).toNat, den)

/-- The exponent at which the ratio's quotient has `precision` binary digits, never below the
least exponent of the format. -/
def exponentFor (num den : Nat) : Int :=
  let guess : Int := (num.log2 : Int) - den.log2 - (precision - 1)
  let (n, d) := scaleDown num den guess
  let fitted := if n / d < leastNormal then guess - 1 else guess
  max fitted minExponent

/-- The floating-point number nearest to `± num / den`. -/
def ofRatio (negative : Bool) (num den : Nat) : Binary64 :=
  if num = 0 then finite negative 0 0
  else
    let e := exponentFor num den
    let (n, d) := scaleDown num den e
    let m := roundDiv n d
    let (m, e) := if m = 2 * leastNormal then (leastNormal, e + 1) else (m, e)
    if m = 0 then finite negative 0 0
    else if maxExponent < e then infinite negative
    else finite negative m e

/-- Decimal digits beyond these powers of ten are certainly infinite or certainly zero. -/
def decimalReach : Int := 400

/-- The floating-point number nearest to `± digits * 10 ^ power`, where `digits` has `width`
decimal digits. -/
def ofDecimal (negative : Bool) (digits width : Nat) (power : Int) : Binary64 :=
  if digits = 0 then finite negative 0 0
  else if decimalReach < width + power then infinite negative
  else if width + power < -decimalReach then finite negative 0 0
  else if 0 ≤ power then ofRatio negative (digits * Nat.pow 10 power.toNat) 1
  else ofRatio negative digits (Nat.pow 10 (-power).toNat)

/-- The floating-point number nearest to an integer. -/
def ofInt (n : Int) : Binary64 := ofRatio (n < 0) n.natAbs 1

/-! ## 3. Values -/

/-- Numerator and denominator of the magnitude of `mantissa * 2 ^ exponent`. -/
def magnitude (mantissa : Nat) (exponent : Int) : Nat × Nat :=
  if 0 ≤ exponent then (mantissa * Nat.pow 2 exponent.toNat, 1)
  else (mantissa, Nat.pow 2 (-exponent).toNat)

/-- The exact value of a finite number as a signed numerator over a positive denominator. -/
def toRatio? : Binary64 → Option (Int × Nat)
  | finite negative m e =>
    let (num, den) := magnitude m e
    some (if negative then -(num : Int) else num, den)
  | _ => none

/-- The integer that a finite number is, when it has no fraction. -/
def toInt? (x : Binary64) : Option Int :=
  match x.toRatio? with
  | some (num, den) => if num % den = 0 then some (num / den) else none
  | none => none

/-- Whether the number is `0.0` or `-0.0`. -/
def isZero : Binary64 → Bool
  | finite _ m _ => m = 0
  | _ => false

/-! ## 4. Arithmetic -/

/-- The number with its sign changed if asked. -/
def signed (negative : Bool) : Binary64 → Binary64
  | finite s m e => finite (s != negative) m e
  | infinite s => infinite (s != negative)
  | nan => nan

/-- The sum, rounded.  An exact zero is negative only as the sum of two negative zeros. -/
def add : Binary64 → Binary64 → Binary64
  | nan, _ | _, nan => nan
  | infinite s, infinite t => if s = t then infinite s else nan
  | infinite s, _ | _, infinite s => infinite s
  | finite s m e, finite t n f =>
    let low := min e f
    let scaled (negative : Bool) (m : Nat) (e : Int) : Int :=
      let units : Int := m * Nat.pow 2 (e - low).toNat
      if negative then -units else units
    let sum := scaled s m e + scaled t n f
    if sum = 0 then finite (s && t) 0 0
    else
      let (num, den) := magnitude sum.natAbs low
      ofRatio (sum < 0) num den

/-- The product, rounded. -/
def mul : Binary64 → Binary64 → Binary64
  | nan, _ | _, nan => nan
  | infinite s, infinite t => infinite (s != t)
  | infinite s, finite t m _ | finite t m _, infinite s => if m = 0 then nan else infinite (s != t)
  | finite s m e, finite t n f =>
    let (num, den) := magnitude (m * n) (e + f)
    ofRatio (s != t) num den

/-! ## 5. Order by exact value -/

/-- The order of two ratios with positive denominators. -/
def compareRatio (a b : Int × Nat) : Ordering := compare (a.1 * b.2) (b.1 * a.2)

/-- The order of two numbers; none when one of them is not a number. -/
def compare? : Binary64 → Binary64 → Option Ordering
  | nan, _ | _, nan => none
  | infinite a, infinite b =>
    some (match a, b with
      | true, false => .lt
      | false, true => .gt
      | _, _ => .eq)
  | infinite a, _ => some (if a then .lt else .gt)
  | _, infinite b => some (if b then .gt else .lt)
  | x@(finite ..), y@(finite ..) =>
    match x.toRatio?, y.toRatio? with
    | some a, some b => some (compareRatio a b)
    | _, _ => none

/-- The order of a number and an integer. -/
def compareInt? : Binary64 → Int → Option Ordering
  | nan, _ => none
  | infinite a, _ => some (if a then .lt else .gt)
  | x@(finite ..), n => x.toRatio?.map (compareRatio · (n, 1))

end Binary64

end Schemata
