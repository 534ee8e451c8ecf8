import Schemata.Pattern.Node
import Schemata.Pattern.Source
import Schemata.Text.CharacterName
/-!
# Escapes

What a backslash with a character stands for, inside a set and outside of one.  Inside a set `\b`
is the backspace and a number is octal; outside, a number is a reference to a group unless it has
three octal digits or starts with a zero.
-/

namespace Schemata.Pattern

/-! ## 1. State -/

/-- The flags that are given for the whole pattern. -/
structure Flags where
  ascii : Bool := false
  wide : Bool := false
  verbose : Bool := false
  template : Bool := false
  deriving DecidableEq, Repr

/-- What is known while a pattern is read: the flags, the widths of the groups (none while a group
is open), the names of groups, the number of groups outside the current look-behind, and the
groups asked for by conditions with the places of the conditions. -/
structure State where
  source : Source
  flags : Flags := {}
  widths : List (Option Width) := []
  names : List (String × Nat) := []
  lookBehind : Option Nat := none
  conditions : List (Nat × Nat) := []
  deriving Repr

/-- A step of reading a pattern. -/
abbrev Reading := StateT State Read

namespace Reading

/-- A step on the source. -/
def onSource {α : Type} (f : Source → Read (α × Source)) : Reading α := do
  let s ← get
  let (a, source) ← f s.source
  set { s with source }
  return a

/-- The next token. -/
def peek : Reading (Option Token) := do return (← get).source.next?

/-- The place of the next token. -/
def place : Reading Nat := do return (← get).source.position

/-- Takes the next token. -/
def take : Reading (Option Token) := onSource Source.get

/-- Takes a character if it is next. -/
def accept (c : Char) : Reading Bool := onSource (·.accept c)

/-- A fault noticed some characters before the next token. -/
def fail {α : Type} (cause : Cause) (back : Nat) : Reading α := do (← get).source.fail cause back

/-- A fault at a place. -/
def failAt {α : Type} (cause : Cause) (position : Nat) : Reading α :=
  (Source.failAt cause position : Read α)

/-- The text up to a terminator. -/
def nameUntil (terminator : Char) (what : String) : Reading String := do
  return String.ofList (← onSource (·.nameUntil terminator what))

/-- Refuses a reference to a group that is open, or that belongs to the current look-behind. -/
def checkLookBehind (group : Nat) : Reading Unit := do
  let s ← get
  match s.lookBehind with
  | none => return ()
  | some outside =>
    if (s.widths[group - 1]?.join).isNone then fail .openGroup 0
    if outside ≤ group then fail .sameLookBehind 0

end Reading

/-! ## 2. Numeric escapes -/

/-- A member of a set: a code point, or a class of characters. -/
inductive Member
  | code (n : Nat)
  | category
  deriving DecidableEq, Repr

/-- Octal digits. -/
def isOctal (c : Char) : Bool := '0' ≤ c && c ≤ '7'

/-- Hexadecimal digits. -/
def isHex (c : Char) : Bool := c.isDigit || ('a' ≤ c && c ≤ 'f') || ('A' ≤ c && c ≤ 'F')

/-- The greatest code point. -/
def lastCodePoint : Nat := 0x10FFFF

/-- The greatest octal escape. -/
def lastOctal : Nat := 255

/-- The code point of an escape with a fixed number of hexadecimal digits. -/
def hexEscape (c : Char) (width : Nat) : Reading Nat := do
  let digits ← Reading.onSource (Source.takeIn isHex width)
  let text := String.ofList ('\\' :: c :: digits)
  if digits.length < width then Reading.fail (.incompleteEscape text) text.length
  let n := (Numeral.inBase? 16 digits).getD 0
  if lastCodePoint < n then Reading.fail (.badEscape text) text.length
  return n

/-- The code point of an escape by name. -/
def namedEscape : Reading Nat := do
  unless ← Reading.accept '\x7b' do Reading.fail .missingBrace 0
  let name ← Reading.nameUntil '\x7d' "character name"
  match Text.characterNamed? name with
  | some n => return n
  | none => Reading.fail (.unknownCharacter name) (name.length + 4)

/-- The code point of octal digits, which has to fit a byte. -/
def octal (digits : List Char) : Reading Nat := do
  let n := (Numeral.inBase? 8 digits).getD 0
  let text := String.ofList ('\\' :: digits)
  if lastOctal < n then Reading.fail (.octalRange text) text.length
  return n

/-- The code points of the escapes for control characters. -/
def controls : List (Char × Nat) :=
  [('a', 7), ('b', 8), ('f', 12), ('n', 10), ('r', 13), ('t', 9), ('v', 11), ('\\', 92)]

/-- The letters of classes of characters. -/
def categories : List Char := ['d', 'D', 's', 'S', 'w', 'W']

/-- The letters of anchors. -/
def anchors : List Char := ['A', 'b', 'B', 'Z']

/-- The escapes that are the same inside and outside of a set. -/
def sharedEscape (c : Char) : Reading Nat :=
  if c = 'x' then hexEscape c 2
  else if c = 'u' then hexEscape c 4
  else if c = 'U' then hexEscape c 8
  else if c = 'N' then namedEscape
  else if c.isAlphanum then Reading.fail (.badEscape (String.ofList ['\\', c])) 2
  else return c.toNat

/-! ## 3. Inside a set -/

/-- An escape inside a set. -/
def setEscape (c : Char) : Reading Member := do
  match controls.lookup c with
  | some n => return .code n
  | none =>
    if categories.contains c then return .category
    else if isOctal c then
      let more ← Reading.onSource (Source.takeIn isOctal 2)
      return .code (← octal (c :: more))
    else return .code (← sharedEscape c)

/-! ## 4. Outside of a set -/

/-- A reference to a group by number; `text` is the whole escape. -/
def groupReference (digits : List Char) : Reading Node := do
  let group := Numeral.value digits
  let widths := (← get).widths
  if widths.length < group then Reading.fail (.invalidGroup group) digits.length
  match widths[group - 1]?.join with
  | none => Reading.fail .openGroup (digits.length + 1)
  | some width => do
    Reading.checkLookBehind group
    return .reference group width

/-- An escape that starts with a digit other than zero. -/
def numberEscape (c : Char) : Reading Node := do
  match ← Reading.peek with
  | some (.plain d) =>
    if d.isDigit then do
      let _ ← Reading.take
      match ← Reading.peek with
      | some (.plain e) =>
        if isOctal c && isOctal d && isOctal e then do
          let _ ← Reading.take
          let _ ← octal [c, d, e]
          return .unit
        else groupReference [c, d]
      | _ => groupReference [c, d]
    else groupReference [c]
  | _ => groupReference [c]

/-- An escape outside of a set. -/
def escape (c : Char) : Reading Node := do
  if anchors.contains c then return .anchor
  else if categories.contains c || (controls.lookup c).isSome then return .unit
  else if c = '0' then
    let _ ← Reading.onSource (Source.takeIn isOctal 2)
    return .unit
  else if c.isDigit then numberEscape c
  else
    let _ ← sharedEscape c
    return .unit

end Schemata.Pattern
