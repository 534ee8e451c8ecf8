import Schemata.Text.Printable
/-!
# Quoted literals

`Quoted.literal` writes a text between quotes so that it can be shown in a message: the quote is
`'` unless the text holds one and no `"`; the quote itself, the backslash, line feed, carriage
return and tab are escaped by a backslash, and every other character that is not printable by its
code point in hexadecimal.
-/

namespace Schemata.Text.Quoted

/-- The quote that surrounds a text. -/
def quoteFor (cs : List Char) : Char :=
  if cs.contains '\'' && !cs.contains '"' then '"' else '\''

/-- A natural number in hexadecimal, padded with zeros on the left. -/
def hex (width n : Nat) : List Char :=
  let digits := Nat.toDigits 16 n
  List.replicate (width - digits.length) '0' ++ digits

/-- The escape of a character that is not printable. -/
def codePointEscape (c : Char) : List Char :=
  let n := c.toNat
  if n < 0x100 then '\\' :: 'x' :: hex 2 n
  else if n < 0x10000 then '\\' :: 'u' :: hex 4 n
  else '\\' :: 'U' :: hex 8 n

/-- One character of a literal. -/
def escape (quote : Char) (c : Char) : List Char :=
  if c = quote || c = '\\' then ['\\', c]
  else if c = '\n' then ['\\', 'n']
  else if c = '\r' then ['\\', 'r']
  else if c = '\t' then ['\\', 't']
  else if isPrintable c then [c]
  else codePointEscape c

/-- A text as a quoted literal. -/
def literalChars (cs : List Char) : List Char :=
  let quote := quoteFor cs
  quote :: cs.flatMap (escape quote) ++ [quote]

/-- A text as a quoted literal. -/
def literal (s : String) : String := String.ofList (literalChars s.toList)

/-- Bytes as a quoted literal, after the letter `b`: bytes outside printable ASCII are escaped. -/
def bytesLiteral (bs : List UInt8) : String :=
  let cs := bs.map fun b => Char.ofNat b.toNat
  let quote := quoteFor cs
  let escapeByte (c : Char) : List Char :=
    if 0x7F ≤ c.toNat then '\\' :: 'x' :: hex 2 c.toNat else escape quote c
  String.ofList ('b' :: quote :: cs.flatMap escapeByte ++ [quote])

end Schemata.Text.Quoted
