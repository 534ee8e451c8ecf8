import Schemata.Yaml.Cursor
/-!
# Tags

The standard types of YAML, and the type that a plain scalar has by its form (`Tag.ofPlain`):
`yes`, `010`, `1_000`, `1:30`, `.5`, `~` and `2024-01-01` are no texts.
-/

namespace Schemata.Yaml

/-- The type of a node. -/
inductive Tag
  | null
  | bool
  | int
  | float
  | binary
  | timestamp
  | omap
  | pairs
  | set
  | str
  | seq
  | map
  | merge
  | default
  | unknown (name : String)
  deriving DecidableEq, Repr, Inhabited

namespace Tag

/-- What the names of standard types begin with. -/
def standard : String := "tag:yaml.org,2002:"

/-- The standard types by name. -/
def byName : List (String × Tag) :=
  [("null", null), ("bool", bool), ("int", int), ("float", float), ("binary", binary),
   ("timestamp", timestamp), ("omap", omap), ("pairs", pairs), ("set", set), ("str", str),
   ("seq", seq), ("map", map), ("merge", merge), ("value", default)]

/-- The type of a full tag. -/
def ofName (name : String) : Tag :=
  ((byName.find? fun p => standard ++ p.1 = name).map Prod.snd).getD (unknown name)

/-- Whether a value can be read for a tag of a scalar. -/
def isReadable : Tag → Bool
  | null | bool | int | float | binary | timestamp | str => true
  | _ => false

/-! ## Forms of plain scalars -/

/-- The words for a boolean, with their values. -/
def booleans : List (String × Bool) :=
  (["yes", "Yes", "YES", "true", "True", "TRUE", "on", "On", "ON"].map (·, true)) ++
  (["no", "No", "NO", "false", "False", "FALSE", "off", "Off", "OFF"].map (·, false))

/-- The words for null. -/
def nulls : List String := ["", "~", "null", "Null", "NULL"]

/-- The characters without a sign in front. -/
def unsigned (cs : List Char) : List Char :=
  match cs with
  | '-' :: rest | '+' :: rest => rest
  | _ => cs

/-- Digits of a class, or underscores. -/
def isRun (p : Char → Bool) (cs : List Char) : Bool := cs.all fun c => p c || c = '_'

/-- A digit and then digits or underscores. -/
def isDecimalRun (cs : List Char) : Bool :=
  match cs with
  | c :: rest => c.isDigit && isRun Char.isDigit rest
  | [] => false

/-- The parts of a text between colons. -/
def colonParts (cs : List Char) : List (List Char) :=
  cs.foldr (fun c acc =>
    if c = ':' then [] :: acc
    else match acc with
      | part :: rest => (c :: part) :: rest
      | [] => [[c]]) [[]]

/-- A part of a base-60 numeral: `0` to `59` with one or two digits. -/
def isSixtieth (cs : List Char) : Bool :=
  match cs with
  | [d] => d.isDigit
  | [t, d] => '0' ≤ t && t ≤ '5' && d.isDigit
  | _ => false

/-- The form of an integer: binary, octal, decimal, hexadecimal or base 60. -/
def isIntForm (cs : List Char) : Bool :=
  match unsigned cs with
  | ['0'] => true
  | '0' :: 'b' :: rest => !rest.isEmpty && isRun (fun c => c = '0' || c = '1') rest
  | '0' :: 'x' :: rest =>
    !rest.isEmpty &&
      isRun (fun c => c.isDigit || ('a' ≤ c && c ≤ 'f') || ('A' ≤ c && c ≤ 'F')) rest
  | '0' :: rest => isRun (fun c => '0' ≤ c && c ≤ '7') rest
  | cs@(c :: _) =>
    '1' ≤ c && c ≤ '9' &&
      (match colonParts cs with
        | first :: rest => isDecimalRun first && rest.all isSixtieth
        | [] => false)
  | [] => false

/-- A signed exponent, or nothing. -/
def isExponentForm (cs : List Char) : Bool :=
  match cs with
  | [] => true
  | e :: s :: rest =>
    (e = 'e' || e = 'E') && (s = '-' || s = '+') && !rest.isEmpty && rest.all Char.isDigit
  | _ => false

/-- A point, digits or underscores, and perhaps a signed exponent. -/
def isPointForm (cs : List Char) : Bool :=
  match cs with
  | '.' :: rest => isExponentForm (rest.dropWhile fun c => c.isDigit || c = '_')
  | _ => false

/-- The form of a floating-point number. -/
def isFloatForm (cs : List Char) : Bool :=
  let body := unsigned cs
  let text := String.ofList
  let head := body.takeWhile fun c => c.isDigit || c = '_'
  let tail := body.dropWhile fun c => c.isDigit || c = '_'
  let plain := isDecimalRun head && isPointForm tail
  let bare := match cs with
    | '.' :: d :: _ => d.isDigit && isPointForm cs
    | _ => false
  let sixtieths :=
    match tail.takeWhile (· ≠ '.'), tail.dropWhile (· ≠ '.') with
    | ':' :: parts, '.' :: rest =>
      isDecimalRun head && (colonParts parts).all isSixtieth && isRun Char.isDigit rest
    | _, _ => false
  plain || bare || sixtieths || [".inf", ".Inf", ".INF"].contains (text body) ||
    [".nan", ".NaN", ".NAN"].contains (text cs)

/-- The parts of a timestamp, as digits. -/
structure TimestampForm where
  year : List Char
  month : List Char
  day : List Char
  time : Option (List Char × List Char × List Char × List Char)
  zone : Option (Option (Bool × List Char × List Char))

/-- One or two digits at the front. -/
def oneOrTwo (cs : List Char) : Option (List Char × List Char) :=
  let ds := (cs.takeWhile Char.isDigit).take 2
  if ds.isEmpty then none else some (ds, cs.drop ds.length)

/-- `n` digits at the front. -/
def exactly (n : Nat) (cs : List Char) : Option (List Char × List Char) :=
  let ds := cs.take n
  if ds.length = n && ds.all Char.isDigit then some (ds, cs.drop n) else none

/-- A character at the front. -/
def expect (ch : Char) (cs : List Char) : Option (List Char) :=
  match cs with
  | c :: rest => if c = ch then some rest else none
  | [] => none

/-- The zone at the end: nothing, `Z`, or a sign, hours and perhaps minutes. -/
def zoneForm (cs : List Char) : Option (Option (Option (Bool × List Char × List Char))) :=
  match cs, cs.dropWhile fun c => c = ' ' || c = '\t' with
  | [], _ => some none
  | _, ['Z'] => some (some none)
  | _, s :: rest =>
    if s = '-' || s = '+' then do
      let (hours, rest) ← oneOrTwo rest
      match rest with
      | [] => some (some (some (s = '-', hours, [])))
      | ':' :: rest =>
        let (minutes, rest) ← exactly 2 rest
        if rest.isEmpty then some (some (some (s = '-', hours, minutes))) else none
      | _ => none
    else none
  | _, [] => none

/-- The parts of a text of the form of a timestamp. -/
def timestampForm? (cs : List Char) : Option TimestampForm := do
  let (year, rest) ← exactly 4 cs
  let rest ← expect '-' rest
  let (month, rest) ← oneOrTwo rest
  let rest ← expect '-' rest
  let (day, rest) ← oneOrTwo rest
  match rest with
  | [] => return ⟨year, month, day, none, none⟩
  | c :: more =>
    let rest ←
      if c = 'T' || c = 't' then some more
      else if c = ' ' || c = '\t' then some (more.dropWhile fun c => c = ' ' || c = '\t')
      else none
    let (hour, rest) ← oneOrTwo rest
    let rest ← expect ':' rest
    let (minute, rest) ← exactly 2 rest
    let rest ← expect ':' rest
    let (second, rest) ← exactly 2 rest
    let (fraction, rest) := match rest with
      | '.' :: more => (more.takeWhile Char.isDigit, more.dropWhile Char.isDigit)
      | _ => ([], rest)
    let zone ← zoneForm rest
    return ⟨year, month, day, some (hour, minute, second, fraction), zone⟩

/-- The form of a plain date has two digits for month and day; with a time one may do. -/
def isTimestamp (cs : List Char) : Bool :=
  match timestampForm? cs with
  | some f => f.time.isSome || (f.month.length = 2 && f.day.length = 2)
  | none => false

/-- A text without the line feed that may end a form. -/
def withoutFinalBreak (cs : List Char) : List Char :=
  match cs.reverse with
  | '\n' :: c :: rest => (c :: rest).reverse
  | _ => cs

/-- The signs that are reserved, each on its own. -/
def reservedSigns : List String := ["!", "&", "*"]

/-- The type that a plain scalar has by its form.  A line feed may follow the form. -/
def ofPlain (text : String) : Tag :=
  let cs := withoutFinalBreak text.toList
  let text := String.ofList cs
  if booleans.any (·.1 = text) then bool
  else if isFloatForm cs then float
  else if isIntForm cs then int
  else if text = "<<" then merge
  else if nulls.contains text then null
  else if isTimestamp cs then timestamp
  else if text = "=" then default
  else if reservedSigns.contains text then ofName (standard ++ "yaml")
  else str

end Tag

end Schemata.Yaml
