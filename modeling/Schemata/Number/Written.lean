import Schemata.Number.Numeral
import Schemata.Text.Blank
/-!
# Numbers as people write them

`Written.integer` and `Written.floating?` read the numeral that a text writes: blanks around it do
not count, a digit of any script is that digit, and single low lines may stand between digits.

* `Written.asciiForm` is the text in which blanks and digits are those of ASCII.
* `Written.digitLimit` is the longest run of decimal digits that is still converted, either way.
-/

namespace Schemata.Written

/-! ## 1. The text of a numeral -/

/-- The text with blanks and digits of all scripts as those of ASCII.  A character that is neither
ends the text, as a question mark; a text of ASCII characters stays as it is. -/
def asciiForm (cs : List Char) : List Char :=
  if cs.all fun c => c.toNat < 0x80 then cs else convert cs
where
  convert : List Char → List Char
    | [] => []
    | c :: rest =>
      if c.toNat < 0x7F then c :: convert rest
      else if Text.isBlank c then ' ' :: convert rest
      else
        match Text.decimalValue? c with
        | some d => Nat.digitChar d :: convert rest
        | none => ['?']

/-- The blanks of ASCII. -/
def isPadding (c : Char) : Bool :=
  c = ' ' || c = '\t' || c = '\n' || c = '\r' || c = '\x0b' || c = '\x0c'

/-- The text without blanks at either end. -/
def unpadded (cs : List Char) : List Char :=
  ((cs.dropWhile isPadding).reverse.dropWhile isPadding).reverse

/-! ## 2. Integers -/

/-- Why a text writes no integer. -/
inductive Fault
  | unreadable
  /-- More decimal digits than are converted. -/
  | tooLong (digits : Nat)
  deriving DecidableEq, Repr

/-- The most decimal digits that an integer is read from or written with. -/
def digitLimit : Nat := 4300

/-- The text of a fault about too many digits; `detail` says how many, where that is known. -/
def limitMessage (detail : String) : String :=
  "Exceeds the limit (" ++ toString digitLimit ++ " digits) for integer string conversion" ++
    detail ++ "; use sys.set_int_max_str_digits() to increase the limit"

/-- The text of the fault of a numeral with too many digits. -/
def tooLongMessage (digits : Nat) : String :=
  limitMessage (": value has " ++ toString digits ++ " digits")

/-- Whether an integer has few enough digits to be written.  One below `8 ^ digitLimit` has. -/
def isWritable (n : Int) : Bool :=
  n.natAbs.log2 < 3 * digitLimit || n.natAbs < Nat.pow 10 digitLimit

/-- Digits of a base with low lines among them, and what follows. -/
def digitRun (base : Nat) (cs : List Char) : List Char × List Char :=
  cs.span fun c => c = '_' || (Numeral.digitValue? base c).isSome

/-- Whether low lines stand between digits alone. -/
def wellGrouped (run : List Char) : Bool :=
  run.head? ≠ some '_' && run.getLast? ≠ some '_' &&
    (run.zip run.tail).all fun p => !(p.1 = '_' && p.2 = '_')

/-- A numeral without the mark of its base, after which one low line may stand. -/
def withoutMark (base : Nat) : List Char → List Char
  | '0' :: m :: ds =>
    if (base, m.toLower) ∈ [(2, 'b'), (8, 'o'), (16, 'x')] then
      match ds with
      | '_' :: ds => ds
      | ds => ds
    else '0' :: m :: ds
  | ds => ds

/-- The integer that a text writes in a base. -/
def integer (base : Nat) (cs : List Char) : Except Fault Int :=
  let (negative, body) := Numeral.sign (unpadded (asciiForm cs))
  let (run, rest) := digitRun base (withoutMark base body)
  let digits := run.filter (· ≠ '_')
  if !wellGrouped run then .error .unreadable
  else if base = 10 && digitLimit < digits.length then .error (.tooLong digits.length)
  else if !rest.isEmpty then .error .unreadable
  else
    match Numeral.inBase? base digits with
    | some n => .ok (if negative then -(n : Int) else n)
    | none => .error .unreadable

/-! ## 3. Floating-point numbers -/

/-- The text without its low lines, each of which has to stand between digits. -/
def ungrouped? : List Char → Option (List Char)
  | [] => some []
  | ['_'] => none
  | c :: '_' :: d :: rest =>
    if c.isDigit && d.isDigit then (ungrouped? (d :: rest)).map (c :: ·) else none
  | c :: rest => if c = '_' then none else (ungrouped? rest).map (c :: ·)

/-- A decimal fraction, or the name of a number that is none. -/
def fractionOrWord? (cs : List Char) : Option Binary64 :=
  let (negative, body) := Numeral.sign cs
  let word := String.ofList (body.map Char.toLower)
  if word = "inf" || word = "infinity" then some (.infinite negative)
  else if word = "nan" then some .nan
  else Numeral.fractional? negative body

/-- The floating-point number that a text writes. -/
def floating? (cs : List Char) : Option Binary64 :=
  (ungrouped? (unpadded (asciiForm cs))).bind fractionOrWord?

end Schemata.Written
