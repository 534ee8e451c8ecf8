import Schemata.Value.Display
import Schemata.Yaml.Tag
/-!
# Styles of scalars

A text stands plain where it reads back as itself, else between single quotes, else between double
quotes.

* `Traits.ofChars` says which styles can hold a text.
* `Style.ofText` chooses the style of a text.  As a key on one line with its value a text is
  neither empty nor of several lines.
-/

namespace Schemata.Yaml

/-- How a scalar is written. -/
inductive Style
  | plain | single | double
  deriving DecidableEq, Repr

/-- Characters at which the lines of a quoted text end. -/
def endsLine (c : Char) : Bool :=
  c = '\n' || c = '\u0085' || c = '\u2028' || c = '\u2029'

/-- Characters that can be written as they are; the byte order mark cannot. -/
def isWritable (c : Char) : Bool :=
  let n := c.toNat
  c = '\n' || (0x20 ≤ n && n ≤ 0x7e) || n = 0x85 || (0xa0 ≤ n && n ≤ 0xd7ff) ||
    (0xe000 ≤ n && n ≤ 0xfffd && n ≠ 0xfeff) || (0x10000 ≤ n && n < 0x10ffff)

/-- Characters that begin no plain text. -/
def isIndicator (c : Char) : Bool :=
  "#,[]\x7b\x7d&*!|>'\"%@\x60".toList.contains c

/-- Whether two characters in a row fulfil a condition. -/
def anyPair (p : Char → Char → Bool) : List Char → Bool
  | a :: b :: rest => p a b || anyPair p (b :: rest)
  | _ => false

/-- Whether a text begins as other parts of a document do. -/
def beginsAsIndicator (cs : List Char) : Bool :=
  "---".toList.isPrefixOf cs || "...".toList.isPrefixOf cs ||
    match cs with
    | [] => false
    | c :: rest =>
      isIndicator c ||
        ((c = '?' || c = ':' || c = '-') && (rest.head?.map isBlankOrEnd).getD true)

/-- Whether a text holds the end of a key or the start of a comment. -/
def holdsIndicator (cs : List Char) : Bool :=
  (anyPair (fun a b => a = ':' && isBlankOrEnd b) (cs.drop 1)) ||
    (cs.length > 1 && cs.getLast? = some ':') ||
    anyPair (fun a b => isBlankOrEnd a && b = '#') cs

/-- Which styles can hold a text, apart from double quotes, which can hold every text. -/
structure Traits where
  multiline : Bool
  plain : Bool
  single : Bool
  deriving DecidableEq, Repr

namespace Traits

/-- The styles that can hold a text. -/
def ofChars (cs : List Char) : Traits :=
  let multiline := cs.any endsLine
  let edge (c : Option Char) : Bool := (c.map fun c => c = ' ' || endsLine c).getD false
  let single := cs.all isWritable && !anyPair (fun a b => a = ' ' && endsLine b) cs &&
    !anyPair (fun a b => endsLine a && b = ' ') cs
  let plain := single && !multiline && !edge cs.head? && !edge cs.getLast? &&
    !beginsAsIndicator cs && !holdsIndicator cs
  ⟨multiline, plain, single⟩

end Traits

/-- The style of a text. -/
def Style.ofText (s : String) : Style :=
  let traits := Traits.ofChars s.toList
  if traits.plain && Tag.ofPlain s = .str then plain
  else if traits.single then single
  else double

/-! ## Scalars -/

/-- The layout of a floating-point number in YAML. -/
def numberLayout : Decimal.Layout := ⟨-4, 16, true, ".nan", ".inf"⟩

/-- The text of a scalar. -/
def writtenText : Scalar → String
  | .null => "null"
  | .bool b => if b then "true" else "false"
  | .int n => toString n
  | .float x => numberLayout.render x
  | s => s.display

/-- The short name of a scalar's tag. -/
def shortTag : Scalar → String
  | .null => "!!null"
  | .bool _ => "!!bool"
  | .int _ => "!!int"
  | .float _ => "!!float"
  | .str _ => "!!str"
  | .date _ | .moment _ => "!!timestamp"
  | .bytes _ => "!!binary"

/-- The style of a scalar; only a text is ever quoted. -/
def Style.ofScalar : Scalar → Style
  | .str s => .ofText s
  | _ => .plain

/-- A key that has to be shorter than this, with its tag, to stand on one line with its value. -/
def keyReach : Nat := 128

/-- Whether a key can stand on one line with its value. -/
def isSimpleKey (s : Scalar) : Bool :=
  let text := writtenText s
  (shortTag s).length + text.length < keyReach && text ≠ "" && !text.toList.any endsLine

end Schemata.Yaml
