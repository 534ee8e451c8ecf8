import Schemata.Number.Written
import Schemata.Value.Display
/-!
# Why a YAML text cannot be read

`Fault.malformed` covers every text that breaks the rules of the language or of the standard tags.
The other causes are scalars that have the form of their type but no value of it, such as a 13th
month.
-/

namespace Schemata.Yaml

/-- Why a YAML text cannot be read. -/
inductive Fault
  /-- The text is no well-formed document of standard tags. -/
  | malformed
  /-- A numeral without digits of its base. -/
  | numeral (base : Nat) (text : String)
  /-- A numeral with too many decimal digits. -/
  | tooLong (digits : Nat)
  /-- A decimal fraction that is none. -/
  | fraction (text : String)
  /-- A base-60 fraction with a place beyond the range of floating-point numbers. -/
  | tooManyPlaces
  /-- A number tag on an empty text. -/
  | emptyNumeral
  /-- A word that is no boolean. -/
  | boolean (text : String)
  /-- A timestamp tag on a text of another form. -/
  | timestamp
  /-- A timestamp tag on a mapping. -/
  | timestampMapping
  | year (n : Nat)
  | month
  | day
  | hour
  | minute
  | second
  /-- An offset from UTC, in minutes, of a day or more. -/
  | offset (minutes : Int)
  /-- An escape beyond the last code point. -/
  | codePoint (n : Nat)
  /-- An escape that writes half of a character. -/
  | halfCharacter
  /-- A mapping that stands for itself under `=`. -/
  | endless
  deriving DecidableEq, Repr

namespace Fault

/-- The most characters of a numeral that are shown. -/
def shownLength : Nat := 200

/-- The text of a cause; a malformed text says no more than that. -/
def message : Fault → String
  | malformed => "malformed document"
  | numeral base text =>
    "invalid literal for int() with base " ++ toString base ++ ": " ++
      String.ofList ((Text.Quoted.literal text).toList.take shownLength)
  | tooLong n => Written.tooLongMessage n
  | fraction text => "could not convert string to float: " ++ Text.Quoted.literal text
  | tooManyPlaces => "int too large to convert to float"
  | emptyNumeral => "string index out of range"
  | boolean text => Text.Quoted.literal text
  | timestamp => "'NoneType' object has no attribute 'groupdict'"
  | timestampMapping => "expected string or bytes-like object, got 'list'"
  | year n => "year " ++ toString n ++ " is out of range"
  | month => "month must be in 1..12"
  | day => "day is out of range for month"
  | hour => "hour must be in 0..23"
  | minute => "minute must be in 0..59"
  | second => "second must be in 0..59"
  | offset minutes =>
    "offset must be a timedelta strictly between -timedelta(hours=24) and timedelta(hours=24), not "
      ++ (Offset.ofMinutes minutes).spanLiteral ++ "."
  | codePoint n =>
    if n < 0x80000000 then "chr() arg not in range(0x110000)"
    else "Python int too large to convert to C int"
  | halfCharacter => "half of a character"
  | endless => "maximum recursion depth exceeded"

end Fault

end Schemata.Yaml
