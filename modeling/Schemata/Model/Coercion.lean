import Schemata.Model.Complaint
import Schemata.Number.Lenient
import Schemata.Text.Casing
/-!
# Reading scalars leniently

How a loosely typed value is taken for a text, a boolean, an integer or a number.

* A text may also be given by the bytes of its UTF-8 form.
* A boolean may be given as `0` or `1`, or by a word such as `yes` or `off`.
* An integer may be given as a boolean, as a number without a fraction, or by a numeral.
* A bound keeps the sort of number it was given as.
* A list may be given as a set or a pair.
-/

namespace Schemata

/-- An integer or a floating-point number. -/
inductive Number
  | int (n : Int)
  | float (x : Binary64)
  deriving DecidableEq, Repr

namespace Number

/-- A number as a value. -/
def toValue : Number → Value
  | int n => .int n
  | float x => .float x

/-- Whether one number is greater than another, by exact value. -/
def gt : Number → Number → Bool
  | int a, int b => decide (b < a)
  | float x, int b => x.compareInt? b == some .gt
  | int a, float y => y.compareInt? a == some .lt
  | float x, float y => x.compare? y == some .gt

end Number

namespace Coercion

/-! ## 1. Texts and booleans -/

/-- The text of a scalar: a text itself, or the one whose UTF-8 form some bytes are. -/
def spelled? : Scalar → Option String
  | .str s => some s
  | .bytes bs => String.fromUTF8? (ByteArray.mk bs.toArray)
  | _ => none

/-- A text. -/
def text : Value → Checked String
  | .str s => .ok s
  | .atom (.bytes bs) =>
    match spelled? (.bytes bs) with
    | some s => .ok s
    | none => .fail .undecodableText
  | _ => .fail .notText

/-- A text with at least one character. -/
def nonEmptyText (v : Value) : Checked String :=
  (text v).bind fun s => if s = "" then .fail .tooShort else .ok s

/-- The words for a boolean, in any case of their ASCII letters. -/
def boolWords : List (String × Bool) :=
  (["1", "on", "t", "true", "y", "yes"].map (·, true)) ++
  (["0", "off", "f", "false", "n", "no"].map (·, false))

/-- The first magnitude that a floating-point number is not taken for an integer of. -/
def integerReach : Nat := 0x8000000000000000

/-- Whether an integer has a 64-bit form. -/
def isWord (n : Int) : Bool := -(integerReach : Int) ≤ n && n < integerReach

/-- The boolean that an integer stands for. -/
def boolOfInt (n : Int) : Checked Bool :=
  if n = 0 then .ok false
  else if n = 1 then .ok true
  else if isWord n then .fail .unreadableBool
  else .fail .notBool

/-- The integer that a floating-point number is. -/
def integerOfFloat (x : Binary64) : Checked Int :=
  match x, x.toInt? with
  | .finite .., some n => if n.natAbs < integerReach then .ok n else .fail .tooLongInt
  | .finite .., none => .fail .fractionalInt
  | _, _ => .fail .endlessInt

/-- A boolean. -/
def boolean : Value → Checked Bool
  | .bool b => .ok b
  | .int n => boolOfInt n
  | .float x =>
    match integerOfFloat x with
    | .ok n => boolOfInt n
    | .bad _ => .fail .notBool
  | .atom s =>
    match s.kind, (spelled? s).bind fun t => boolWords.lookup (Text.lowerAscii t) with
    | .str, none | .bytes, none => .fail .unreadableBool
    | _, some b => .ok b
    | _, none => .fail .notBool
  | _ => .fail .notBool

/-! ## 2. Integers -/

/-- The integer that a text gives. -/
def integerOfText (s : String) : Checked Int :=
  match Lenient.integer s.toList with
  | .ok n => .ok n
  | .error (.tooLong _) => .fail .tooLongInt
  | .error .unreadable => .fail .unreadableInt

/-- An integer. -/
def integer : Value → Checked Int
  | .int n => .ok n
  | .bool b => .ok (if b then 1 else 0)
  | .float x => integerOfFloat x
  | .str s => integerOfText s
  | .atom (.bytes bs) =>
    match spelled? (.bytes bs) with
    | some s => integerOfText s
    | none => .fail .unreadableInt
  | _ => .fail .notInt

/-- An integer between two bounds. -/
def integerBetween (low high : Int) (v : Value) : Checked Int :=
  (integer v).bind fun n =>
    if n < low then .fail (.atLeast low)
    else if high < n then .fail (.atMost high)
    else .ok n

/-! ## 3. Numbers -/

/-- A number that keeps its sort; a numeral without a fraction is an integer. -/
def number : Value → Checked Number
  | .int n => .ok (.int n)
  | .float x => .ok (.float x)
  | .bool b => .ok (.int (if b then 1 else 0))
  | .atom s =>
    match s.kind, spelled? s with
    | _, some t =>
      match Lenient.integer t.toList, Lenient.floating? t.toList with
      | .ok n, _ => .ok (.int n)
      | .error _, some x => .ok (.float x)
      | .error _, none => .fail .unreadableNumber
    | .bytes, none => .fail .unreadableNumber
    | _, none => .fail .notNumber
  | _ => .fail .notNumber

/-! ## 4. Collections -/

/-- A list of values. -/
def list : Value → Checked (List Value)
  | .list items => .ok items
  | .set members => .ok (members.map Value.atom)
  | .pair first second => .ok [first, second]
  | _ => .fail .notList

/-- A list whose items are read in their turn. -/
def listOf {α : Type} (read : Value → Checked α) (v : Value) : Checked (List α) :=
  (list v).bind (Checked.each read 0)

/-- The step to a key. -/
def keySegment : Scalar → Segment
  | .str s => .key s
  | .int n => if isWord n then .index n else .key (toString n)
  | .bool b => .index (if b then 1 else 0)
  | s => .key s.literal

/-- The complaints about keys that are no texts. -/
def keyComplaints (entries : List (Scalar × Value)) : List Complaint :=
  entries.filterMap fun (k, _) =>
    match k with
    | .str _ => none
    | k => some ⟨[keySegment k], .keyNotText⟩

/-- The entries with text keys. -/
def textEntries (entries : List (Scalar × Value)) : Entries String Value :=
  entries.filterMap fun (k, v) =>
    match k with
    | .str s => some (s, v)
    | _ => none

/-- The complaints about keys that give no text, each at the key itself. -/
def spellingComplaints (entries : List (Scalar × Value)) : List Complaint :=
  entries.flatMap fun (k, _) =>
    (text (.atom k)).complaints.map fun c => ⟨[keySegment k, .key "[key]"], c.cause⟩

/-- A map whose keys give texts. -/
def dictionary : Value → Checked (Entries String Value)
  | .map entries =>
    Checked.ok (Entries.ofList (entries.filterMap fun (k, v) => (spelled? k).map (·, v)))
      |>.withMore (spellingComplaints entries)
  | _ => .fail .notMap

/-- A value, or nothing for null. -/
def optional {α : Type} (read : Value → Checked α) : Value → Checked (Option α)
  | .null => .ok none
  | v => (read v).map some

/-! ## 5. Records -/

/-- The entries of a record, or a complaint that there is none. -/
def record {α : Type} (name : String) (v : Value) (read : List (Scalar × Value) → Checked α) :
    Checked α :=
  match v with
  | .map entries => read entries
  | _ => .fail (.notRecord name)

/-- The value of a field under the first of its names that is there. -/
def field? (entries : List (Scalar × Value)) (names : List String) : Option Value :=
  names.findSome? fun n => Value.member? n entries

/-- The first of a field's names. -/
def segmentOf (names : List String) : Segment := .key (names.headD "")

/-- A field that has to be there, under one of its names. -/
def required {α : Type} (entries : List (Scalar × Value)) (names : List String)
    (read : Value → Checked α) : Checked α :=
  match field? entries names with
  | some v => (read v).under (segmentOf names)
  | none => .bad [⟨[segmentOf names], .missing⟩]

/-- A field that may be left out. -/
def optionalField {α : Type} (entries : List (Scalar × Value)) (names : List String)
    (default : α) (read : Value → Checked α) : Checked α :=
  match field? entries names with
  | some v => (read v).under (segmentOf names)
  | none => .ok default

/-- The complaints about entries that belong to no field. -/
def extraComplaints (entries : List (Scalar × Value)) (names : List String) : List Complaint :=
  entries.filterMap fun (k, _) =>
    match k with
    | .str s => if names.contains s then none else some ⟨[.key s], .forbidden⟩
    | k => some ⟨[keySegment k], .keyNotText⟩

end Coercion

end Schemata
