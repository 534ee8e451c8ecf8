import Schemata.Number.Written
import Schemata.Value
/-!
# Reading JSON

`Json.read` reads one JSON value that fills the whole text.  Besides numbers it takes the words
`NaN`, `Infinity` and `-Infinity`; an integer numeral is an integer, if it is not too long, and one
with a fraction or an exponent is a floating-point number.  A repeated key of an object keeps its
first place and takes its last value.  An escape that writes half of a character needs the other
half after it: a text has whole characters only.

A failure has a cause and the place where it arose, counted in characters; `ReadFault.message`
adds line and column.
-/

namespace Schemata.Json

/-! ## 1. Failures -/

/-- What a text lacks or has too much of. -/
inductive ReadCause
  | byteOrderMark
  | extraData
  | expectedValue
  | expectedKey
  | expectedColon
  | expectedComma
  | unterminatedString
  | controlCharacter
  | badEscape
  | badCodePoint
  /-- Half of a character without its other half. -/
  | halfCharacter
  /-- An integer with more digits than are converted. -/
  | tooLong (digits : Nat)
  deriving DecidableEq, Repr

/-- The text of a cause. -/
def ReadCause.message : ReadCause → String
  | byteOrderMark => "Unexpected UTF-8 BOM (decode using utf-8-sig)"
  | extraData => "Extra data"
  | expectedValue => "Expecting value"
  | expectedKey => "Expecting property name enclosed in double quotes"
  | expectedColon => "Expecting ':' delimiter"
  | expectedComma => "Expecting ',' delimiter"
  | unterminatedString => "Unterminated string starting at"
  | controlCharacter => "Invalid control character at"
  | badEscape => "Invalid \\escape"
  | badCodePoint => "Invalid \\uXXXX escape"
  | halfCharacter => "Half of a character"
  | tooLong n => Written.tooLongMessage n

/-- A failure inside a text: its cause, and the rest of the text from the place it arose. -/
abbrev Failure := ReadCause × List Char

/-- A failure and its place as a count of characters, a line and a column. -/
structure ReadFault where
  cause : ReadCause
  line : Nat
  column : Nat
  offset : Nat
  deriving DecidableEq, Repr

/-- Whether a text of a failure says where it arose. -/
def ReadCause.isPlaced : ReadCause → Bool
  | tooLong _ => false
  | _ => true

/-- The text of a failure. -/
def ReadFault.message (f : ReadFault) : String :=
  f.cause.message ++
    (if f.cause.isPlaced then
      ": line " ++ toString f.line ++ " column " ++ toString f.column ++
        " (char " ++ toString f.offset ++ ")"
    else "")

/-- The failure at an offset of a text: lines end at a line feed, columns count from one. -/
def ReadFault.at (cause : ReadCause) (text : List Char) (offset : Nat) : ReadFault :=
  let before := text.take offset
  ⟨cause, before.count '\n' + 1, (before.reverse.takeWhile (· ≠ '\n')).length + 1, offset⟩

/-! ## 2. Blanks, digits and numbers -/

/-- The blanks between tokens. -/
def isBlank (c : Char) : Bool := c = ' ' || c = '\t' || c = '\n' || c = '\r'

/-- Skips blanks. -/
def skip (cs : List Char) : List Char := cs.dropWhile isBlank

/-- Splits off the digits at the front. -/
def digits (cs : List Char) : List Char × List Char :=
  (cs.takeWhile Char.isDigit, cs.dropWhile Char.isDigit)

/-- The value of decimal digits. -/
def digitsValue (cs : List Char) : Nat :=
  cs.foldl (fun n c => 10 * n + (c.toNat - '0'.toNat)) 0

/-- The fraction at the front: a point and at least one digit. -/
def fraction (cs : List Char) : Option (List Char × List Char) :=
  match cs with
  | '.' :: rest =>
    match digits rest with
    | ([], _) => none
    | (ds, rest) => some (ds, rest)
  | _ => none

/-- The exponent at the front: the letter, perhaps a sign, and at least one digit. -/
def exponent (cs : List Char) : Option (Int × List Char) :=
  match cs with
  | e :: rest =>
    if e = 'e' || e = 'E' then
      let (negative, rest) := match rest with
        | '-' :: r => (true, r)
        | '+' :: r => (false, r)
        | r => (false, r)
      match digits rest with
      | ([], _) => none
      | (ds, rest) =>
        let n : Int := digitsValue ds
        some (if negative then -n else n, rest)
    else none
  | [] => none

/-- The number at the front, without its sign. -/
def number (negative : Bool) (cs : List Char) :
    Option (Except ReadCause Scalar × List Char) :=
  let whole : Option (List Char × List Char) := match cs with
    | '0' :: rest => some (['0'], rest)
    | _ =>
      match digits cs with
      | ([], _) => none
      | split => some split
  whole.map fun (ds, rest) =>
    let frac := fraction rest
    let (fs, rest) := frac.getD ([], rest)
    let expo := exponent rest
    let (e, rest) := expo.getD (0, rest)
    if frac.isSome || expo.isSome then
      let all := (ds ++ fs).dropWhile (· = '0')
      let x := Binary64.ofDecimal negative (digitsValue all) all.length (e - fs.length)
      (.ok (.float x), rest)
    else if Written.digitLimit < ds.length then (.error (.tooLong ds.length), rest)
    else
      let n : Int := digitsValue ds
      (.ok (.int (if negative then -n else n)), rest)

/-! ## 3. Texts -/

/-- The value of a hexadecimal digit. -/
def hexValue? (c : Char) : Option Nat :=
  if c.isDigit then some (c.toNat - '0'.toNat)
  else if 'a' ≤ c ∧ c ≤ 'f' then some (c.toNat - 'a'.toNat + 10)
  else if 'A' ≤ c ∧ c ≤ 'F' then some (c.toNat - 'A'.toNat + 10)
  else none

/-- The number that hexadecimal digits write. -/
def hexNumber? (cs : List Char) : Option Nat :=
  cs.foldlM (fun n c => (hexValue? c).map (16 * n + ·)) 0

/-- The character of a one-letter escape. -/
def shortEscape? : Char → Option Char
  | '"' => some '"'
  | '\\' => some '\\'
  | '/' => some '/'
  | 'b' => some '\x08'
  | 'f' => some '\x0c'
  | 'n' => some '\n'
  | 'r' => some '\r'
  | 't' => some '\t'
  | _ => none

/-- The second half of a character outside the basic plane, taken from an escape at the front of
`cs`; none when there is no such escape or it writes no second half. -/
def secondHalf? (high : Nat) (cs : List Char) : Except Failure (Option (Char × List Char)) :=
  match cs with
  | '\\' :: 'u' :: a :: b :: c :: d :: next :: rest =>
    match hexNumber? [a, b, c, d] with
    | some low =>
      if 0xDC00 ≤ low ∧ low < 0xE000 then
        .ok (some (Char.ofNat (0x10000 + (high - 0xD800) * 0x400 + (low - 0xDC00)), next :: rest))
      else .ok none
    | none => .error (.badCodePoint, cs.drop 1)
  | _ => .ok none

/-- The character of an escape by code point, `cs` following the letter `u`. -/
def codePoint (cs : List Char) : Except Failure (Char × List Char) :=
  match cs with
  | a :: b :: c :: d :: next :: rest =>
    match hexNumber? [a, b, c, d] with
    | none => .error (.badCodePoint, 'u' :: cs)
    | some n =>
      if 0xD800 ≤ n ∧ n < 0xDC00 then do
        let some whole ← secondHalf? n (next :: rest) | throw (.halfCharacter, 'u' :: cs)
        return whole
      else if 0xDC00 ≤ n ∧ n < 0xE000 then .error (.halfCharacter, 'u' :: cs)
      else .ok (Char.ofNat n, next :: rest)
  | _ => .error (.badCodePoint, 'u' :: cs)

/-- The text up to its closing quote.  `start` is where its opening quote stood; `fuel` bounds
the number of characters. -/
def string (start : List Char) : Nat → List Char → Except Failure (List Char × List Char)
  | 0, _ => .error (.unterminatedString, start)
  | _, [] => .error (.unterminatedString, start)
  | fuel + 1, c :: rest =>
    if c = '"' then .ok ([], rest)
    else if c = '\\' then
      match rest with
      | [] => .error (.unterminatedString, start)
      | 'u' :: more => do
        let (ch, more) ← codePoint more
        let (tail, more) ← string start fuel more
        return (ch :: tail, more)
      | e :: more =>
        match shortEscape? e with
        | none => .error (.badEscape, c :: rest)
        | some ch => do
          let (tail, more) ← string start fuel more
          return (ch :: tail, more)
    else if c.toNat < 0x20 then .error (.controlCharacter, c :: rest)
    else do
      let (tail, more) ← string start fuel rest
      return (c :: tail, more)

/-! ## 4. Values -/

/-- Words that stand for a value. -/
def words : List (String × Scalar) :=
  [("null", .null), ("true", .bool true), ("false", .bool false), ("NaN", .float .nan),
   ("Infinity", .float (.infinite false)), ("-Infinity", .float (.infinite true))]

/-- The word at the front. -/
def word? (cs : List Char) : Option (Scalar × List Char) :=
  words.findSome? fun (w, s) =>
    if w.toList.isPrefixOf cs then some (s, cs.drop w.length) else none

/-- The number or word at the front. -/
def scalar (cs : List Char) : Except Failure (Value × List Char) :=
  match word? cs with
  | some (s, rest) => .ok (.atom s, rest)
  | none =>
    let found := match cs with
      | '-' :: rest => number true rest
      | _ => number false cs
    match found with
    | some (.ok s, rest) => .ok (.atom s, rest)
    | some (.error cause, _) => .error (cause, cs)
    | none => .error (.expectedValue, cs)

mutual

/-- The value at the front. -/
def value : Nat → List Char → Except Failure (Value × List Char)
  | 0, cs => .error (.expectedValue, cs)
  | fuel + 1, cs =>
    match cs with
    | '"' :: rest => do
      let (s, rest) ← string cs fuel rest
      return (.str (String.ofList s), rest)
    | '\x7b' :: rest =>
      match skip rest with
      | '\x7d' :: rest => .ok (.map [], rest)
      | rest => do
        let (entries, rest) ← members fuel [] rest
        return (.map entries, rest)
    | '[' :: rest =>
      match skip rest with
      | ']' :: rest => .ok (.list [], rest)
      | rest => do
        let (items, rest) ← elements fuel rest
        return (.list items, rest)
    | _ => scalar cs

/-- The elements of a list and its closing bracket. -/
def elements : Nat → List Char → Except Failure (List Value × List Char)
  | 0, cs => .error (.expectedValue, cs)
  | fuel + 1, cs => do
    let (v, rest) ← value fuel cs
    match skip rest with
    | ']' :: rest => return ([v], rest)
    | ',' :: rest =>
      let (others, rest) ← elements fuel (skip rest)
      return (v :: others, rest)
    | rest => .error (.expectedComma, rest)

/-- The members of an object and its closing brace, put into the entries read so far. -/
def members : Nat → List (Scalar × Value) → List Char →
    Except Failure (List (Scalar × Value) × List Char)
  | 0, _, cs => .error (.expectedKey, cs)
  | fuel + 1, entries, cs =>
    match cs with
    | '"' :: rest => do
      let (key, rest) ← string cs fuel rest
      match skip rest with
      | ':' :: rest =>
        let (v, rest) ← value fuel (skip rest)
        let entries := Entries.put (.str (String.ofList key)) v entries
        match skip rest with
        | '\x7d' :: rest => return (entries, rest)
        | ',' :: rest => members fuel entries (skip rest)
        | rest => .error (.expectedComma, rest)
      | rest => .error (.expectedColon, rest)
    | _ => .error (.expectedKey, cs)

end

/-- The value that fills a text. -/
def document (cs : List Char) : Except Failure Value := do
  if cs.head? = some '\uFEFF' then throw (.byteOrderMark, cs)
  let (v, rest) ← value (2 * (cs.length + 1)) (skip cs)
  match skip rest with
  | [] => return v
  | rest => throw (.extraData, rest)

/-- Reads a JSON text. -/
def read (text : String) : Except ReadFault Value :=
  let cs := text.toList
  (document cs).mapError fun (cause, rest) => .at cause cs (cs.length - rest.length)

end Schemata.Json
