import Schemata.Value.Display
/-!
# Writing JSON

`Json.write` writes a value as JSON text, on one line or indented.  Texts keep every character
but the quote, the backslash and those below the space.  A key may be a text, a number, a boolean
or null, and is written as a text; a pair is written as a list.  A value or key that JSON cannot
hold is refused.
-/

namespace Schemata.Json

/-! ## 1. Texts -/

/-- One character of a JSON text. -/
def escape (c : Char) : List Char :=
  if c = '"' then ['\\', '"']
  else if c = '\\' then ['\\', '\\']
  else if c = '\n' then ['\\', 'n']
  else if c = '\r' then ['\\', 'r']
  else if c = '\t' then ['\\', 't']
  else if c.toNat = 8 then ['\\', 'b']
  else if c.toNat = 12 then ['\\', 'f']
  else if c.toNat < 0x20 then '\\' :: 'u' :: Text.Quoted.hex 4 c.toNat
  else [c]

/-- A text between quotes. -/
def quoted (s : String) : String :=
  String.ofList ('"' :: s.toList.flatMap escape ++ ['"'])

/-- The layout of a floating-point number in JSON. -/
def numberLayout : Decimal.Layout :=
  { Decimal.Layout.document with nanText := "NaN", infinityText := "Infinity" }

/-! ## 2. Values -/

/-- Why a value cannot be written. -/
inductive WriteFault
  | value (kind : Value.Kind)
  | key (kind : Value.Kind)
  | endless
  /-- An integer with too many digits. -/
  | tooLong
  deriving DecidableEq, Repr

/-- The text of a refusal. -/
def WriteFault.message : WriteFault → String
  | .value kind => "Object of type " ++ kind.name ++ " is not JSON serializable"
  | .key kind => "keys must be str, int, float, bool or None, not " ++ kind.name
  | .endless => "Circular reference detected"
  | .tooLong => Written.limitMessage ""

/-- How containers are laid out: on one line with spaces after commas and colons or without, or
every entry on a line of its own, indented by a count of spaces per level. -/
inductive Layout
  | line
  | compact
  | indented (step : Nat)
  deriving DecidableEq, Repr

/-- A line break and the indentation of a level. -/
def Layout.lineBreak : Layout → Nat → String
  | line, _ | compact, _ => ""
  | indented step, level => "\n" ++ String.ofList (List.replicate (step * level) ' ')

/-- What stands between two entries. -/
def Layout.comma : Layout → Nat → String
  | line, _ => ", "
  | layout, level => "," ++ layout.lineBreak level

/-- What stands between a key and its value. -/
def Layout.colon : Layout → String
  | compact => ":"
  | _ => ": "

/-- The digits of an integer. -/
def integerText (n : Int) : Except WriteFault String :=
  if Written.isWritable n then .ok (toString n) else .error .tooLong

/-- A scalar as JSON. -/
def writeScalar : Scalar → Except WriteFault String
  | .null => .ok "null"
  | .bool b => .ok (if b then "true" else "false")
  | .int n => integerText n
  | .float x => .ok (numberLayout.render x)
  | .str s => .ok (quoted s)
  | s => .error (.value s.kind)

/-- A key as the text it is written as. -/
def keyText : Scalar → Except WriteFault String
  | .str s => .ok s
  | .null => .ok "null"
  | .bool b => .ok (if b then "true" else "false")
  | .int n => integerText n
  | .float x => .ok (numberLayout.render x)
  | s => .error (.key s.kind)

/-- Entries between brackets, laid out for a level. -/
def enclose (layout : Layout) (level : Nat) (opening closing : String) (entries : List String) :
    String :=
  if entries.isEmpty then opening ++ closing
  else opening ++ layout.lineBreak (level + 1) ++
    (layout.comma (level + 1)).intercalate entries ++ layout.lineBreak level ++ closing

mutual

/-- A value as JSON, its first line already indented for its level. -/
def writeAt (layout : Layout) (level : Nat) : Value → Except WriteFault String
  | .atom s => writeScalar s
  | .list items => do
    let entries ← writeItems layout (level + 1) items
    return enclose layout level "[" "]" entries
  | .map members => do
    let entries ← writeMembers layout (level + 1) members
    return enclose layout level "\x7b" "\x7d" entries
  | .pair first second => do
    let first ← writeAt layout (level + 1) first
    let second ← writeAt layout (level + 1) second
    return enclose layout level "[" "]" [first, second]
  | .set _ => .error (.value .set)
  | .outer .. => .error .endless

def writeItems (layout : Layout) (level : Nat) : List Value → Except WriteFault (List String)
  | [] => .ok []
  | v :: rest => do
    let first ← writeAt layout level v
    let others ← writeItems layout level rest
    return first :: others

def writeMembers (layout : Layout) (level : Nat) :
    List (Scalar × Value) → Except WriteFault (List String)
  | [] => .ok []
  | (k, v) :: rest => do
    let key ← keyText k
    let value ← writeAt layout level v
    let others ← writeMembers layout level rest
    return (quoted key ++ layout.colon ++ value) :: others

end

/-- A value as JSON. -/
def write (layout : Layout) (v : Value) : Except WriteFault String := writeAt layout 0 v

end Schemata.Json
