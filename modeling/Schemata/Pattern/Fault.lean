import Schemata.Number.Written
import Schemata.Text.Quoted
/-!
# What is wrong with a pattern

A `Fault` is a cause together with the place in the pattern where it was noticed.  A `Limit` is
reached by a pattern that is no subject of complaint but cannot be compiled either.

* `Fault.message` is the text of a fault; it names the line and column only when the pattern has
  more than one line.
-/

namespace Schemata.Pattern

/-! ## 1. Causes -/

/-- Why a pattern is malformed. -/
inductive Cause
  | trailingBackslash
  | incompleteEscape (text : String)
  | badEscape (text : String)
  | missingBrace
  | missingName (what : String)
  | unterminatedName (terminator : Char)
  | unknownCharacter (name : String)
  | octalRange (text : String)
  | openGroup
  | sameLookBehind
  | invalidGroup (n : Nat)
  | badRange (low high : String)
  | unterminatedSet
  | reversedRepeat
  | nothingToRepeat
  | multipleRepeat
  | unexpectedEnd
  | unknownExtension (text : String)
  | unterminatedComment
  | unterminatedGroup
  | unknownGroup (name : String)
  | badGroupName (name : String)
  | redefinedGroup (name : String) (now before : Nat)
  | badGroupNumber
  | threeBranches
  | lateFlags
  | unknownFlag
  | missingFlagEnd
  | missingFlag
  | missingColon
  | byteFlag
  | clashingFlags
  | globalOn
  | globalOff
  | typeOff
  | onAndOff
  | unbalanced
  | variableLookBehind
  | template (operator : String)
  deriving DecidableEq, Repr

/-- The text of a cause. -/
def Cause.message : Cause → String
  | trailingBackslash => "bad escape (end of pattern)"
  | incompleteEscape text => "incomplete escape " ++ text
  | badEscape text => "bad escape " ++ text
  | missingBrace => "missing \x7b"
  | missingName what => "missing " ++ what
  | unterminatedName terminator =>
    "missing " ++ String.singleton terminator ++ ", unterminated name"
  | unknownCharacter name => "undefined character name " ++ Text.Quoted.literal name
  | octalRange text => "octal escape value " ++ text ++ " outside of range 0-0o377"
  | openGroup => "cannot refer to an open group"
  | sameLookBehind => "cannot refer to group defined in the same lookbehind subpattern"
  | invalidGroup n => "invalid group reference " ++ toString n
  | badRange low high => "bad character range " ++ low ++ "-" ++ high
  | unterminatedSet => "unterminated character set"
  | reversedRepeat => "min repeat greater than max repeat"
  | nothingToRepeat => "nothing to repeat"
  | multipleRepeat => "multiple repeat"
  | unexpectedEnd => "unexpected end of pattern"
  | unknownExtension text => "unknown extension " ++ text
  | unterminatedComment => "missing ), unterminated comment"
  | unterminatedGroup => "missing ), unterminated subpattern"
  | unknownGroup name => "unknown group name " ++ Text.Quoted.literal name
  | badGroupName name => "bad character in group name " ++ Text.Quoted.literal name
  | redefinedGroup name now before =>
    "redefinition of group name " ++ Text.Quoted.literal name ++ " as group " ++ toString now ++
      "; was group " ++ toString before
  | badGroupNumber => "bad group number"
  | threeBranches => "conditional backref with more than two branches"
  | lateFlags => "global flags not at the start of the expression"
  | unknownFlag => "unknown flag"
  | missingFlagEnd => "missing -, : or )"
  | missingFlag => "missing flag"
  | missingColon => "missing :"
  | byteFlag => "bad inline flags: cannot use 'L' flag with a str pattern"
  | clashingFlags => "bad inline flags: flags 'a', 'u' and 'L' are incompatible"
  | globalOn => "bad inline flags: cannot turn on global flag"
  | globalOff => "bad inline flags: cannot turn off global flag"
  | typeOff => "bad inline flags: cannot turn off flags 'a', 'u' and 'L'"
  | onAndOff => "bad inline flags: flag turned on and off"
  | unbalanced => "unbalanced parenthesis"
  | variableLookBehind => "look-behind requires fixed-width pattern"
  | template operator => "internal: unsupported template operator " ++ operator

/-! ## 2. Faults -/

/-- A cause at a place; a fault of the pattern as a whole has none. -/
structure Fault where
  cause : Cause
  position : Option Nat
  deriving DecidableEq, Repr

namespace Fault

/-- The line of a place, from 1. -/
def line (pattern : List Char) (position : Nat) : Nat := (pattern.take position).count '\n' + 1

/-- The column of a place, from 1. -/
def column (pattern : List Char) (position : Nat) : Nat :=
  ((pattern.take position).reverse.takeWhile (· ≠ '\n')).length + 1

/-- The text of a fault in a pattern. -/
def message (f : Fault) (pattern : String) : String :=
  match f.position with
  | none => f.cause.message
  | some p =>
    let cs := pattern.toList
    f.cause.message ++ " at position " ++ toString p ++
      (if cs.contains '\n' then
        " (line " ++ toString (line cs p) ++ ", column " ++ toString (column cs p) ++ ")"
      else "")

end Fault

/-! ## 3. Limits -/

/-- Why a pattern that reads well cannot be compiled; the last limit is one of messages, which no
pattern is beyond. -/
inductive Limit
  | repetition
  /-- A count with more decimal digits than are converted. -/
  | digits (n : Nat)
  | characterSets
  | lookBehind
  /-- An integer with more decimal digits than are written, where a message is to hold one. -/
  | written
  deriving DecidableEq, Repr

/-- The text of a limit. -/
def Limit.message : Limit → String
  | repetition => "the repetition number is too large"
  | digits n => Written.tooLongMessage n
  | characterSets => "ASCII and UNICODE flags are incompatible"
  | lookBehind => "invalid SRE code"
  | written => Written.limitMessage ""

/-- What ends the reading of a pattern early. -/
inductive Stop
  | fault (f : Fault)
  | limit (l : Limit)
  deriving DecidableEq, Repr

end Schemata.Pattern
