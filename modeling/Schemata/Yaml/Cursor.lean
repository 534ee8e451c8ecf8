/-!
# A place in a YAML text

A `Cursor` is what is left of a text together with the place reached: an index, a line and a
column.  Past the end every character reads as `NUL`, which no readable text holds.
-/

namespace Schemata.Yaml

/-! ## 1. Characters -/

/-- Line breaks. -/
def isBreak (c : Char) : Bool :=
  c = '\n' || c = '\r' || c = '\u0085' || c = '\u2028' || c = '\u2029'

/-- A line break or the end of the text. -/
def isBreakOrEnd (c : Char) : Bool := isBreak c || c = '\x00'

/-- A space, a line break or the end of the text. -/
def isSpaceOrEnd (c : Char) : Bool := isBreakOrEnd c || c = ' '

/-- A space, a tab, a line break or the end of the text. -/
def isBlankOrEnd (c : Char) : Bool := isSpaceOrEnd c || c = '\t'

/-- Letters, digits, the hyphen and the underscore. -/
def isWordChar (c : Char) : Bool := c.isAlphanum || c = '-' || c = '_'

/-- Characters that a text may hold at all. -/
def isReadable (c : Char) : Bool :=
  let n := c.toNat
  n = 0x9 || n = 0xA || n = 0xD || n = 0x85 || (0x20 ≤ n && n ≤ 0x7E) ||
    (0xA0 ≤ n && n ≤ 0xD7FF) || (0xE000 ≤ n && n ≤ 0xFFFD) || 0x10000 ≤ n

/-! ## 2. The cursor -/

/-- What is left of a text, and the place reached. -/
structure Cursor where
  rest : List Char
  index : Nat
  line : Nat
  column : Nat
  deriving Repr, Inhabited

namespace Cursor

/-- The start of a text. -/
def start (cs : List Char) : Cursor := ⟨cs, 0, 0, 0⟩

/-- The character at the place reached. -/
def peek (c : Cursor) : Char := c.rest.headD '\x00'

/-- The character `n` places on. -/
def peekAt (c : Cursor) (n : Nat) : Char := (c.rest.drop n).headD '\x00'

/-- One character on.  A line ends after a line break; a carriage return before a line feed
counts with it. -/
def next (c : Cursor) : Cursor :=
  match c.rest with
  | [] => c
  | ch :: rest =>
    if ch ≠ '\r' && isBreak ch || ch = '\r' && rest.head? ≠ some '\n' then
      ⟨rest, c.index + 1, c.line + 1, 0⟩
    else ⟨rest, c.index + 1, c.line, if ch = '\uFEFF' then c.column else c.column + 1⟩

/-- Several characters on. -/
def skip (c : Cursor) : Nat → Cursor
  | 0 => c
  | n + 1 => c.next.skip n

/-- Past the characters of a class, and those characters. -/
def takeWhile (c : Cursor) (p : Char → Bool) : List Char × Cursor :=
  let taken := c.rest.takeWhile p
  (taken, c.skip taken.length)

/-- Past the characters of a class. -/
def dropWhile (c : Cursor) (p : Char → Bool) : Cursor := (c.takeWhile p).2

/-- Past the line break at the place reached, and the text it stands for; empty when there is
none.  Only the line and paragraph separators stand for themselves. -/
def lineBreak (c : Cursor) : List Char × Cursor :=
  let ch := c.peek
  if ch = '\r' && c.peekAt 1 = '\n' then (['\n'], c.skip 2)
  else if ch = '\n' || ch = '\r' || ch = '\u0085' then (['\n'], c.next)
  else if ch = '\u2028' || ch = '\u2029' then ([ch], c.next)
  else ([], c)

/-- Whether a document marker of three equal characters stands here. -/
def atMarker (c : Cursor) (ch : Char) : Bool :=
  c.peek = ch && c.peekAt 1 = ch && c.peekAt 2 = ch && isBlankOrEnd (c.peekAt 3)

/-- Whether a document starts or ends here. -/
def atSeparator (c : Cursor) : Bool := c.atMarker '-' || c.atMarker '.'

end Cursor

end Schemata.Yaml
