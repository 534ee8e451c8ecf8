import Schemata.Value.Display
import Schemata.Text.Blank
/-!
# Literals over several lines

`Value.wrapped` writes a value's literal within a width.  A collection that does not fit has
each item on a line of its own, one column further in than its bracket; a text that does not fit
is split at its line ends and then at its blanks into literals that stand side by side, in
parentheses when the text stands alone.
-/

namespace Schemata.Value

namespace Wrapped

/-! ## 1. Splitting texts -/

/-- Characters that end a line. -/
def endsLine (c : Char) : Bool :=
  c = '\n' || c = '\r' || c = '\x0b' || c = '\x0c' || c = '\x1c' || c = '\x1d' || c = '\x1e' ||
    c = '\u0085' || c = '\u2028' || c = '\u2029'

/-- Puts a character in front of the first piece. -/
def consFirst (c : Char) : List (List Char) → List (List Char)
  | [] => [[c]]
  | piece :: rest => (c :: piece) :: rest

/-- The lines of a text, each with its line end. -/
def lines : List Char → List (List Char)
  | [] => []
  | '\r' :: '\n' :: rest => ['\r', '\n'] :: lines rest
  | c :: rest => if endsLine c then [c] :: lines rest else consFirst c (lines rest)

/-- The words of a line, each with the blanks after it. -/
def words : List Char → List (List Char)
  | [] => []
  | [c] => [[c]]
  | c :: d :: rest =>
    if Text.isBlank c && !Text.isBlank d then [c] :: words (d :: rest)
    else consFirst c (words (d :: rest))

/-- The length of the literal of a text. -/
def literalLength (cs : List Char) : Int := (Text.Quoted.literalChars cs).length

/-- Joins words to pieces whose literals fit a width; the last word has `narrow` to fit. -/
def pack (width narrow : Int) (current : List Char) : List (List Char) → List (List Char)
  | [] => if current.isEmpty then [] else [current]
  | word :: rest =>
    let limit := if rest.isEmpty then narrow else width
    let joined := current ++ word
    if literalLength joined > limit then
      if current.isEmpty then pack width narrow word rest
      else current :: pack width narrow word rest
    else pack width narrow joined rest

/-- The pieces of lines whose literals fit a width; the last line has `narrow` to fit. -/
def pieces (width narrow : Int) : List (List Char) → List (List Char)
  | [] => []
  | line :: rest =>
    let limit := if rest.isEmpty then narrow else width
    (if literalLength line ≤ limit then [line] else pack width limit [] (words line)) ++
      pieces width narrow rest

/-- A line break and an indentation. -/
def newLine (indent : Nat) : String := "\n" ++ String.ofList (List.replicate indent ' ')

/-- The literals of a text that does not fit one line. -/
def wrapText (width indent allowance : Nat) (alone : Bool) (s : String) : String :=
  let cs := s.toList
  if cs.isEmpty then Text.Quoted.literal s
  else
    let indent := if alone then indent + 1 else indent
    let allowance := if alone then allowance + 1 else allowance
    let room : Int := (width : Int) - indent
    match pieces room (room - allowance) (lines cs) with
    | [_] => Text.Quoted.literal s
    | parts =>
      let joined := (newLine indent).intercalate
        (parts.map fun p => String.ofList (Text.Quoted.literalChars p))
      if alone then "(" ++ joined ++ ")" else joined

/-! ## 2. Values -/

/-- A literal that fits between a column and what follows it, or else another text. -/
def orElse (width indent allowance : Nat) (literal wrapped : String) : String :=
  if (literal.length : Int) ≤ (width : Int) - indent - allowance then literal else wrapped

/-- What stands between two items. -/
def comma (indent : Nat) : String := "," ++ newLine indent

/-- The room to leave behind an item: for a comma, or for what closes the whole. -/
def room (isLast : Bool) (allowance : Nat) : Nat := if isLast then allowance else 1

mutual

/-- A value's literal from a column on, with room for what follows it. -/
def format (width indent allowance : Nat) (alone : Bool) : Value → String
  | .map entries =>
    orElse width indent allowance (Value.map entries).literal
      ("\x7b" ++ (comma (indent + 1)).intercalate
        (formatMembers width (indent + 1) (allowance + 1) entries) ++ "\x7d")
  | .list items =>
    orElse width indent allowance (Value.list items).literal
      ("[" ++ (comma (indent + 1)).intercalate
        (formatItems width (indent + 1) (allowance + 1) items) ++ "]")
  | .atom s =>
    orElse width indent allowance s.literal
      (match s with
        | .str s => wrapText width indent allowance alone s
        | s => s.literal)
  | .pair first second =>
    orElse width indent allowance (Value.pair first second).literal
      ("(" ++ (comma (indent + 1)).intercalate
        [format width (indent + 1) 1 false first,
          format width (indent + 1) (allowance + 1) false second] ++ ")")
  | v => v.literal

def formatItems (width indent allowance : Nat) : List Value → List String
  | [] => []
  | v :: rest =>
    format width indent (room rest.isEmpty allowance) false v ::
      formatItems width indent allowance rest

def formatMembers (width indent allowance : Nat) : List (Scalar × Value) → List String
  | [] => []
  | (k, v) :: rest =>
    (k.literal ++ ": " ++
      format width (indent + k.literal.length + 2) (room rest.isEmpty allowance) false v) ::
      formatMembers width indent allowance rest

end

/-- The width that literals keep to. -/
def standardWidth : Nat := 80

end Wrapped

/-- A value's literal within the standard width. -/
def wrapped (v : Value) : String := Wrapped.format Wrapped.standardWidth 0 0 true v

end Schemata.Value
