import Schemata.Number.Numeral
import Schemata.Pattern.Fault
/-!
# The tokens of a pattern

A pattern is read token by token: a character, or a backslash with the character after it.  A
`Source` is what is left of a pattern; its first token is always whole, because a backslash at the
very end is refused as soon as it comes next.
-/

namespace Schemata.Pattern

/-! ## 1. Tokens -/

/-- A character, or a backslash with a character. -/
inductive Token
  | plain (c : Char)
  | escaped (c : Char)
  deriving DecidableEq, Repr

namespace Token

/-- The characters of a token. -/
def chars : Token → List Char
  | plain c => [c]
  | escaped c => ['\\', c]

/-- The text of a token. -/
def text (t : Token) : String := String.ofList t.chars

/-- The number of characters of a token. -/
def length (t : Token) : Nat := t.chars.length

/-- Whether a token is a character of a class. -/
def isIn (p : Char → Bool) : Token → Bool
  | plain c => p c
  | escaped _ => false

end Token

/-! ## 2. Sources -/

/-- The rest of a pattern and the number of characters before it. -/
structure Source where
  rest : List Char
  position : Nat
  deriving Repr

/-- The result of reading a part of a pattern. -/
abbrev Read := Except Stop

namespace Source

/-- A fault noticed some characters before the next token. -/
def fail {α : Type} (s : Source) (cause : Cause) (back : Nat) : Read α :=
  .error (.fault ⟨cause, some (s.position - back)⟩)

/-- A fault at a position. -/
def failAt {α : Type} (cause : Cause) (position : Nat) : Read α :=
  .error (.fault ⟨cause, some position⟩)

/-- A source whose next token is whole. -/
def check (s : Source) : Read Source :=
  if s.rest = ['\\'] then failAt .trailingBackslash s.position else .ok s

/-- The source of a pattern. -/
def ofPattern (cs : List Char) : Read Source := check ⟨cs, 0⟩

/-- The next token. -/
def next? (s : Source) : Option Token :=
  match s.rest with
  | [] => none
  | '\\' :: c :: _ => some (.escaped c)
  | c :: _ => some (.plain c)

/-- The source after its next token. -/
def advance (s : Source) : Read Source :=
  match s.rest with
  | [] => .ok s
  | '\\' :: _ :: rest => check ⟨rest, s.position + 2⟩
  | _ :: rest => check ⟨rest, s.position + 1⟩

/-- The next token and the source after it. -/
def get (s : Source) : Read (Option Token × Source) := do return (s.next?, ← s.advance)

/-- Whether the next token is a character. -/
def isNext (s : Source) (c : Char) : Bool := s.next? == some (.plain c)

/-- Steps over a character if it is next. -/
def accept (s : Source) (c : Char) : Read (Bool × Source) :=
  if s.isNext c then do return (true, ← s.advance) else .ok (false, s)

/-- At most `n` characters of a class. -/
def takeIn (p : Char → Bool) : Nat → Source → Read (List Char × Source)
  | 0, s => .ok ([], s)
  | n + 1, s =>
    match s.next? with
    | some (.plain c) =>
      if p c then do
        let (cs, rest) ← takeIn p n (← s.advance)
        return (c :: cs, rest)
      else .ok ([], s)
    | _ => .ok ([], s)

/-- The characters of a class that come next. -/
def takeAll (p : Char → Bool) (s : Source) : Read (List Char × Source) :=
  takeIn p s.rest.length s

/-- The text up to a terminator, which is stepped over; it may not be empty. -/
def name (terminator : Char) (what : String) :
    Nat → List Char → Source → Read (List Char × Source)
  | 0, _, s => s.fail (.missingName what) 0
  | n + 1, found, s => do
    let (t, rest) ← s.get
    match t with
    | none =>
      if found.isEmpty then rest.fail (.missingName what) 0
      else rest.fail (.unterminatedName terminator) found.length
    | some t =>
      if t = .plain terminator then
        if found.isEmpty then rest.fail (.missingName what) 1 else return (found, rest)
      else name terminator what n (found ++ t.chars) rest

/-- The text up to a terminator. -/
def nameUntil (s : Source) (terminator : Char) (what : String) : Read (List Char × Source) :=
  name terminator what (s.rest.length + 1) [] s

/-- Steps over everything up to and with a character; at the end of the pattern nothing is left. -/
def skipThrough (c : Char) : Nat → Source → Read Source
  | 0, s => .ok s
  | n + 1, s => do
    let (t, rest) ← s.get
    if t.isNone || t = some (.plain c) then return rest else skipThrough c n rest

end Source

end Schemata.Pattern
