import Schemata.Number.Written
import Schemata.Text.LowerCase
import Schemata.Yaml.Fault
import Schemata.Yaml.Tag
/-!
# Values of YAML scalars

`Scalar.ofText` is the value of a text of a standard type.  A text that got its type from a tag
need not have the form of that type; some of those texts have a value all the same.
-/

namespace Schemata.Yaml.Scalar

/-! ## 1. Booleans and numbers -/

/-- The value of a boolean. -/
def boolean (text : String) : Except Fault Scalar :=
  match Tag.booleans.lookup (Text.lower text) with
  | some b => .ok (.bool b)
  | none => .error (.boolean (Text.lower text))

/-- A text without underscores. -/
def withoutLowLines (text : String) : String := String.ofList (text.toList.filter (· ≠ '_'))

/-- The sign and the rest of a text that is not empty. -/
def signed (text : String) : Except Fault (Bool × List Char) :=
  if text = "" then .error .emptyNumeral else .ok (Numeral.sign text.toList)

/-- The number that base-60 parts write, the last part first. -/
def sixtieths (parts : List Int) : Int := parts.foldr (fun d n => d + 60 * n) 0

/-- A numeral in a base. -/
def numeral (base : Nat) (cs : List Char) : Except Fault Int :=
  match Written.integer base cs with
  | .ok n => .ok n
  | .error .unreadable => .error (.numeral base (String.ofList cs))
  | .error (.tooLong n) => .error (.tooLong n)

/-- The value of an integer. -/
def integer (text : String) : Except Fault Scalar := do
  let (negative, cs) ← signed (withoutLowLines text)
  let n ← match cs with
    | ['0'] => pure 0
    | '0' :: 'b' :: ds => numeral 2 ds
    | '0' :: 'x' :: ds => numeral 16 ds
    | '0' :: _ => numeral 8 cs
    | [] => throw .emptyNumeral
    | _ =>
      if cs.contains ':' then
        pure (sixtieths (← (Tag.colonParts cs).mapM (numeral 10)).reverse)
      else numeral 10 cs
  return .int (if negative then -n else n)

/-- A decimal fraction, or the name of a number that is none. -/
def fraction (cs : List Char) : Except Fault Binary64 :=
  match Written.floating? cs with
  | some x => .ok x
  | none => .error (.fraction (String.ofList cs))

/-- The number that base-60 parts write, the last part first, added to `sum`; the first of the
parts counts `unit`. -/
def sixtiethFractions (sum : Binary64) (unit : Nat) : List Binary64 → Except Fault Binary64
  | [] => .ok sum
  | x :: rest =>
    match Binary64.ofInt unit with
    | .infinite _ => .error .tooManyPlaces
    | u => sixtiethFractions (sum.add (x.mul u)) (unit * 60) rest

/-- The value of a floating-point number. -/
def floating (text : String) : Except Fault Scalar := do
  let (negative, cs) ← signed (Text.lower (withoutLowLines text))
  let word := String.ofList cs
  if word = ".inf" then return .float (.infinite negative)
  else if word = ".nan" then return .float .nan
  else if cs.contains ':' then
    let parts ← (Tag.colonParts cs).mapM fraction
    return .float (.signed negative (← sixtiethFractions (.finite false 0 0) 1 parts.reverse))
  else return .float (.signed negative (← fraction cs))

/-! ## 2. Timestamps -/

/-- The offset of a zone in minutes, which is less than a day. -/
def zoneOffset (zone : Option (Bool × List Char × List Char)) : Except Fault Int :=
  match zone with
  | none => .ok 0
  | some (west, hours, minutes) =>
    let n : Int := 60 * Numeral.value hours + Numeral.value minutes
    let n := if west then -n else n
    if n.natAbs < 1440 then .ok n else .error (.offset n)

/-- A date that the calendar has. -/
def date (year month day : Nat) : Except Fault Date :=
  if year = 0 then .error (.year year)
  else if month = 0 || 12 < month then .error .month
  else if day = 0 || Date.daysInMonth year month < day then .error .day
  else .ok ⟨year, month, day⟩

/-- Microseconds of a fraction of a second, its first six digits. -/
def microseconds (ds : List Char) : Nat :=
  let ds := ds.take 6
  Numeral.value ds * Nat.pow 10 (6 - ds.length)

/-- The value of a timestamp; a line feed may follow it. -/
def timestamp (text : String) : Except Fault Scalar :=
  match Tag.timestampForm? (Tag.withoutFinalBreak text.toList) with
  | none => .error .timestamp
  | some f =>
    let ofDigits := Numeral.value
    match f.time with
    | none => (date (ofDigits f.year) (ofDigits f.month) (ofDigits f.day)).map .date
    | some (h, m, s, fraction) => do
      let offset ← match f.zone with
        | none => pure none
        | some zone => (fun n => some (Offset.ofMinutes n)) <$> zoneOffset zone
      let d ← date (ofDigits f.year) (ofDigits f.month) (ofDigits f.day)
      if 23 < ofDigits h then throw .hour
      if 59 < ofDigits m then throw .minute
      if 59 < ofDigits s then throw .second
      return .moment ⟨d, ofDigits h, ofDigits m, ofDigits s, microseconds fraction, offset⟩

/-! ## 3. Bytes -/

/-- The six bits of a character of base 64. -/
def sixBits? (c : Char) : Option Nat :=
  if c.isUpper then some (c.toNat - 'A'.toNat)
  else if c.isLower then some (c.toNat - 'a'.toNat + 26)
  else if c.isDigit then some (c.toNat - '0'.toNat + 52)
  else if c = '+' then some 62
  else if c = '/' then some 63
  else none

/-- The bytes of groups of four characters; other characters count for nothing.  The text may end
after a padded group only. -/
def base64 (cs : List Char) : Except Fault (List UInt8) :=
  let step (acc : List UInt8 × List Nat × Nat × Bool) (c : Char) :
      List UInt8 × List Nat × Nat × Bool :=
    let (bytes, group, pads, done) := acc
    if done then acc
    else if c = '=' then
      if 2 ≤ group.length && 4 ≤ group.length + pads + 1 then (bytes, group, pads + 1, true)
      else (bytes, group, pads + 1, false)
    else
      match sixBits? c with
      | none => acc
      | some n =>
        match group with
        | [x, y, z] =>
          let word := ((x * 64 + y) * 64 + z) * 64 + n
          (bytes ++ [UInt8.ofNat (word / 65536), UInt8.ofNat (word / 256 % 256),
            UInt8.ofNat (word % 256)], [], 0, false)
        | _ => (bytes, group ++ [n], 0, false)
  let (bytes, group, _, done) := cs.foldl step ([], [], 0, false)
  match group, done with
  | [], _ => .ok bytes
  | [x, y], true => .ok (bytes ++ [UInt8.ofNat ((x * 64 + y) / 16)])
  | [x, y, z], true =>
    let word := (x * 64 + y) * 64 + z
    .ok (bytes ++ [UInt8.ofNat (word / 1024), UInt8.ofNat (word / 4 % 256)])
  | _, _ => .error .malformed

/-! ## 4. The standard types -/

/-- The value of a text by its type. -/
def ofText (tag : Tag) (text : String) : Except Fault Scalar :=
  match tag with
  | .null => .ok .null
  | .bool => boolean text
  | .int => integer text
  | .float => floating text
  | .timestamp => timestamp text
  | .str => .ok (.str text)
  | .binary =>
    if text.toList.all fun c => c.toNat < 0x80 then (base64 text.toList).map .bytes
    else .error .malformed
  | _ => .error .malformed

end Schemata.Yaml.Scalar
