import Schemata.Number.Written
import Schemata.Text.Quoted
import Schemata.Value
/-!
# Values as text

* `Value.literal` writes a value as it is shown in messages: texts quoted, null and the booleans
  capitalized, lists in brackets, maps in braces, pairs in parentheses; a list or map inside itself
  is three dots.
* `Value.display` writes a text as itself and every other value as its literal.
* `Value.plain` is the text of a constraint's value for a reader: null and the booleans as JSON
  spells them, a whole floating-point number without its `.0`, a list joined by commas.
* `Value.isWritable` says whether a value has a text: an integer with too many digits has none.
-/

namespace Schemata

open Text.Quoted

/-- The layout of a floating-point number in a text. -/
def Binary64.text (x : Binary64) : String := Decimal.Layout.document.render x

/-- The literal of a span of time, by its days, seconds and microseconds. -/
def Offset.spanLiteral (o : Offset) : String :=
  let days := o.microseconds.fdiv microsecondsPerDay
  let rest := (o.microseconds - days * microsecondsPerDay).toNat
  let parts := [("days=", days), ("seconds=", (rest / microsecondsPerSecond : Nat)),
    ("microseconds=", (rest % microsecondsPerSecond : Nat))].filter fun p => p.2 ≠ 0
  "datetime.timedelta(" ++
    (if parts.isEmpty then "0"
     else ", ".intercalate (parts.map fun (name, n) => name ++ toString n)) ++ ")"

/-- The literal of an offset from UTC. -/
def Offset.literal (o : Offset) : String :=
  if o = .utc then "datetime.timezone.utc" else "datetime.timezone(" ++ o.spanLiteral ++ ")"

/-- The literal of a moment; seconds and microseconds are left out while they are zero. -/
def Moment.literal (t : Moment) : String :=
  let fields := [t.date.year, t.date.month, t.date.day, t.hour, t.minute] ++
    (if t.microsecond ≠ 0 then [t.second, t.microsecond]
     else if t.second ≠ 0 then [t.second] else [])
  "datetime.datetime(" ++ ", ".intercalate (fields.map toString) ++
    (match t.offset with
      | some o => ", tzinfo=" ++ o.literal
      | none => "") ++ ")"

namespace Scalar

/-- The literal of a scalar. -/
def literal : Scalar → String
  | null => "None"
  | bool true => "True"
  | bool false => "False"
  | int n => toString n
  | float x => x.text
  | str s => Text.Quoted.literal s
  | date d => "datetime.date(" ++ ", ".intercalate (([d.year, d.month, d.day]).map toString) ++ ")"
  | moment t => t.literal
  | bytes bs => bytesLiteral bs

/-- A text as itself, a date or moment in ISO form, any other scalar as its literal. -/
def display : Scalar → String
  | str s => s
  | date d => d.iso
  | moment t => t.spaced
  | s => s.literal

/-- Whether a scalar has a text: an integer with too many digits has none. -/
def isWritable : Scalar → Bool
  | int n => Written.isWritable n
  | _ => true

end Scalar

namespace Value

/-- Joins texts between an opening and a closing bracket. -/
def bracketed (opening closing : String) (items : List String) : String :=
  opening ++ ", ".intercalate items ++ closing

mutual

/-- The literal of a value. -/
def literal : Value → String
  | atom s => s.literal
  | list items => bracketed "[" "]" (literals items)
  | map entries => bracketed "\x7b" "\x7d" (memberLiterals entries)
  | set members =>
    if members.isEmpty then "set()" else bracketed "\x7b" "\x7d" (members.map Scalar.literal)
  | pair first second => bracketed "(" ")" [first.literal, second.literal]
  | outer _ isMap => if isMap then "\x7b...\x7d" else "[...]"

def literals : List Value → List String
  | [] => []
  | v :: rest => v.literal :: literals rest

def memberLiterals : List (Scalar × Value) → List String
  | [] => []
  | (k, v) :: rest => (k.literal ++ ": " ++ v.literal) :: memberLiterals rest

end

/-- A text as itself, any other value as its literal. -/
def display : Value → String
  | atom s => s.display
  | v => v.literal

mutual

/-- The text of a constraint's value for a reader. -/
def plain : Value → String
  | null => "null"
  | bool b => if b then "true" else "false"
  | float x =>
    match x.toInt? with
    | some n => toString n
    | none => x.text
  | list items => ",".intercalate (plains items)
  | pair first second => first.plain ++ "," ++ second.plain
  | v => v.display

def plains : List Value → List String
  | [] => []
  | v :: rest => v.plain :: plains rest

end

mutual

/-- Whether every integer in a value has few enough digits to be written. -/
def isWritable : Value → Bool
  | atom s => s.isWritable
  | list items => areWritable items
  | map entries => membersAreWritable entries
  | set members => members.all Scalar.isWritable
  | pair first second => first.isWritable && second.isWritable
  | outer .. => true

def areWritable : List Value → Bool
  | [] => true
  | v :: rest => v.isWritable && areWritable rest

def membersAreWritable : List (Scalar × Value) → Bool
  | [] => true
  | (k, v) :: rest => k.isWritable && v.isWritable && membersAreWritable rest

end

end Value

end Schemata
