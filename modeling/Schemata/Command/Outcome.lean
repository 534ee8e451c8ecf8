import Schemata.Command.Arguments
import Schemata.Export.Exporter
import Schemata.Source
/-!
# What a run of the command leaves behind

An `Outcome` is an exit code, the texts on the two output streams and the files.  A `Crash` is a
run that ends without an exit code.
-/

namespace Schemata.Command

/-- How a run ends. -/
inductive Exit
  | success | invalid | generationFailed | exportFailed | badInput | badUsage
  deriving DecidableEq, Repr

/-- The exit code of a run. -/
def Exit.code : Exit → Nat
  | success => 0
  | invalid => 1
  | generationFailed | badUsage => 2
  | exportFailed => 3
  | badInput => 4

/-- What a run leaves behind. -/
structure Outcome where
  exit : Exit
  output : String := ""
  diagnostics : String := ""
  files : FileTree
  deriving Repr

/-- What stops a run without an exit code. -/
inductive Crash
  | noValue
  /-- A path with a character that no name can have. -/
  | unnameable
  | source (f : Source.Fault)
  | limit (l : Pattern.Limit)
  | unwritable (f : Export.Fault)
  | clock (f : Clock.Fault)
  deriving Repr

/-- Whether the run is followed to its end.  It is not where a file has half of a character in it:
what such a run does is not told by texts. -/
def Crash.isFollowed : Crash → Bool
  | source f => !f.isHalf
  | _ => true

/-- The text of a crash. -/
def Crash.message : Crash → String
  | noValue => "not enough values to unpack (expected 1, got 0)"
  | unnameable => "embedded null byte"
  | source f => f.message
  | limit l => l.message
  | unwritable f => f.message
  | clock f => f.message

/-- Whether a fault of an input is reported by an exit code.  Scalars of a YAML file that have the
form of their type and no value of it are not, unless the value is merely out of range.  A file with
half of a character in it is followed no further. -/
def isReported : Source.Fault → Bool
  | .tooLong _ => false
  | .json _ f => f.cause ≠ .halfCharacter
  | .yaml _ .halfCharacter | .yaml _ .emptyNumeral | .yaml _ (.boolean _) | .yaml _ .timestamp
  | .yaml _ .timestampMapping | .yaml _ .tooManyPlaces | .yaml _ .endless => false
  | .yaml _ (.codePoint n) => n < 0x80000000
  | _ => true

/-- Whether a limit is reported by an exit code while documents are made. -/
def isReportedLimit : Pattern.Limit → Bool
  | .repetition | .lookBehind => false
  | .digits _ | .characterSets | .written => true

/-- A natural number with a comma before every third digit from the right. -/
def grouped (n : Nat) : String :=
  let rec group : List Char → List Char
    | a :: b :: c :: d :: rest => a :: b :: c :: ',' :: group (d :: rest)
    | cs => cs
  String.ofList (group (toString n).toList.reverse).reverse

end Schemata.Command
