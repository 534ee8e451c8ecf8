import Schemata.Failure
import Schemata.Model.Coercion
/-!
# Reports on generation

A `Report` says how the making of the documents of a model went, step by step.

* `Report.summary` is the report for a reader, `Report.toValue` the one for a program.
-/

namespace Schemata

/-! ## 1. Elapsed time -/

namespace Number

/-- A number as a floating-point number. -/
def toBinary64 : Number → Binary64
  | int n => Binary64.ofInt n
  | float x => x

/-- A number of seconds with three places. -/
def secondsText (x : Number) : String := Decimal.fixed 3 x.toBinary64

/-- A number rounded to six places; an integer needs no rounding. -/
def roundedToMicros : Number → Number
  | int n => int n
  | float x => float (Decimal.roundPlaces 6 x)

end Number

/-! ## 2. Reports -/

/-- What came of one step. -/
structure Report.Step where
  name : String := ""
  success : Bool := true
  elapsed : Number := .float (Binary64.ofInt 0)
  detail : String := ""
  deriving Repr

/-- How the making of the documents of a model went. -/
structure Report where
  success : Bool := false
  /-- Where the model comes from; empty when it was not read from a file. -/
  source : String := ""
  entities : Int := 0
  fields : Int := 0
  relationships : Int := 0
  elapsed : Number := .float (Binary64.ofInt 0)
  steps : List Report.Step := []
  lintErrors : List String := []
  lintWarnings : List String := []
  /-- The messages of failures by the names of their stages. -/
  failures : Entries String String := []
  deriving Repr

namespace Report

/-- The width of the report's rules. -/
def width : Nat := 60

/-- A double rule. -/
def doubleRule : String := String.ofList (List.replicate width '=')

/-- A single rule. -/
def singleRule : String := String.ofList (List.replicate width '─')

/-- Pads a text with spaces on the right. -/
def padRight (n : Nat) (s : String) : String :=
  s ++ String.ofList (List.replicate (n - s.length) ' ')

/-- Pads a text with spaces on the left. -/
def padLeft (n : Nat) (s : String) : String :=
  String.ofList (List.replicate (n - s.length) ' ') ++ s

/-- A step on one line, from its texts. -/
def stepLine (success : Bool) (name elapsed detail : String) : String :=
  "    " ++ (if success then "✓" else "✗") ++ " " ++ padRight 28 name ++ " " ++
    padLeft 7 elapsed ++ "s  " ++ detail

/-- A step on one line. -/
def Step.line (s : Step) : String := stepLine s.success s.name s.elapsed.secondsText s.detail

/-- A section with a rule above it, a counted title and its lines; an empty one is left out. -/
def counted (title : String) (lines : List String) : List String :=
  if lines.isEmpty then []
  else singleRule :: ("  " ++ title ++ " (" ++ toString lines.length ++ "):") :: lines

/-- The texts of a report for a reader. -/
structure Sheet where
  success : Bool
  /-- Where the model comes from; empty when that is not said. -/
  source : String
  entities : String
  fields : String
  relationships : String
  seconds : String
  steps : List String
  lintErrors : List String
  lintWarnings : List String
  failures : List (String × String)

/-- The lines of a sheet. -/
def Sheet.lines (s : Sheet) : List String :=
  [doubleRule, "  SchemaGen — Generation Report", doubleRule,
    "  Status:           " ++ (if s.success then "✅ SUCCESS" else "❌ FAILED")] ++
  (if s.source = "" then [] else ["  Source:           " ++ s.source]) ++
  ["  Entities:         " ++ s.entities, "  Fields:           " ++ s.fields,
    "  Relationships:    " ++ s.relationships, "  Total time:       " ++ s.seconds ++ "s",
    singleRule] ++
  (if s.steps.isEmpty then [] else "  Pipeline Steps:" :: s.steps) ++
  counted "Lint Errors" (s.lintErrors.map ("    ✗ " ++ ·)) ++
  counted "Lint Warnings" (s.lintWarnings.map ("    ⚠ " ++ ·)) ++
  counted "Generation Failures"
    (s.failures.map fun (stage, message) => "    ✗ " ++ stage ++ ": " ++ message) ++
  [doubleRule]

/-- The texts of a report. -/
def sheet (r : Report) : Sheet where
  success := r.success
  source := r.source
  entities := toString r.entities
  fields := toString r.fields
  relationships := toString r.relationships
  seconds := r.elapsed.secondsText
  steps := r.steps.map Step.line
  lintErrors := r.lintErrors
  lintWarnings := r.lintWarnings
  failures := r.failures

/-- The report for a reader. -/
def summary (r : Report) : String := "\n".intercalate r.sheet.lines

/-- A step as a value. -/
def Step.toValue (s : Step) : Value :=
  .obj [("name", .str s.name), ("success", .bool s.success),
    ("elapsedSeconds", s.elapsed.roundedToMicros.toValue), ("detail", .str s.detail)]

/-- The report for a program. -/
def toValue (r : Report) : Value :=
  .obj [("success", .bool r.success), ("source", .str r.source),
    ("totalEntities", .int r.entities), ("totalFields", .int r.fields),
    ("totalRelationships", .int r.relationships),
    ("totalElapsedSeconds", r.elapsed.roundedToMicros.toValue),
    ("steps", .list (r.steps.map Step.toValue)), ("lintErrors", .texts r.lintErrors),
    ("lintWarnings", .texts r.lintWarnings),
    ("failures", .obj (r.failures.map fun (stage, message) => (stage, .str message)))]

end Report

end Schemata
