import Schemata.Number.Written
/-!
# Numerals read leniently

The numerals that a loosely typed value may give a number by.

* A plain integer is an optional minus and decimal digits without a zero in front.  Any other text
  is cleaned first: blanks around it, a plus, zeros in front, a fraction of zeros and single low
  lines are left out.
* A fraction is read as it stands, or else without its low lines.
-/

namespace Schemata.Lenient

/-! ## 1. Low lines -/

/-- A text without its low lines, which may neither lead nor trail nor follow each other; nothing
if there are none. -/
def withoutLowLines? (cs : List Char) : Option (List Char) :=
  if cs.contains '_' && Written.wellGrouped cs then some (cs.filter (· ≠ '_')) else none

/-! ## 2. Integers -/

/-- Whether a text starts as a plain integer with more characters than are converted. -/
def isTooLong (cs : List Char) : Bool :=
  let (signs, digits) := match cs with
    | '-' :: rest => (1, rest)
    | _ => (0, cs)
  (digits.head?.map fun c => c.isDigit && c ≠ '0').getD false &&
    Written.digitLimit < signs + (digits.takeWhile Char.isDigit).length

/-- A plain integer. -/
def plain? (cs : List Char) : Option Int :=
  let (negative, digits) := match cs with
    | '-' :: rest => (true, rest)
    | _ => (false, cs)
  if isTooLong cs || (digits.head? = some '0' && digits.length ≠ 1) then none
  else (Numeral.natural? digits).map fun n => if negative then -(n : Int) else n

/-- A numeral without the zeros and low lines in front of it.  A zero is kept before a point, and
where there is nothing else. -/
def withoutZeros? : List Char → Option (List Char)
  | '0' :: rest => go '0' rest
  | c :: rest => if c.isDigit then some (c :: rest) else none
  | [] => none
where
  go (last : Char) : List Char → Option (List Char)
    | [] => some [last]
    | '.' :: rest => some (last :: '.' :: rest)
    | c :: rest =>
      if c = '0' || c = '_' then go c rest
      else if c.isDigit || c = '-' then some (c :: rest)
      else none

/-- A numeral without a fraction of zeros. -/
def withoutFraction (cs : List Char) : List Char :=
  match cs.dropWhile (· ≠ '.') with
  | _ :: zeros =>
    if !zeros.isEmpty && zeros.all (· = '0') then cs.takeWhile (· ≠ '.') else cs
  | [] => cs

/-- A text with what does not change an integer left out. -/
def cleaned? (cs : List Char) : Option (List Char) :=
  let unsigned := match Text.trimSpace cs with
    | '+' :: rest => rest
    | trimmed => trimmed
  let whole? := match unsigned with
    | '-' :: rest => (withoutZeros? rest).map ('-' :: ·)
    | _ => withoutZeros? unsigned
  whole?.map fun whole =>
    let whole := withoutFraction whole
    (withoutLowLines? whole).getD whole

/-- The integer that a text gives. -/
def integer (cs : List Char) : Except Written.Fault Int :=
  if isTooLong cs then .error (.tooLong cs.length)
  else
    match (plain? cs).or ((cleaned? cs).bind plain?) with
    | some n => .ok n
    | none => .error .unreadable

/-! ## 3. Fractions -/

/-- The floating-point number that a text gives. -/
def floating? (cs : List Char) : Option Binary64 :=
  (Written.fractionOrWord? (Text.trimSpace cs)).or
    ((withoutLowLines? cs).bind Written.fractionOrWord?)

end Schemata.Lenient
