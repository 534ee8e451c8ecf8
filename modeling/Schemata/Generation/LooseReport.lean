import Schemata.Generation.Report
import Schemata.Value.Operation
/-!
# Reports of any values

A `LooseReport` is a report that was put together from any values.  It is shown and written like a
`Report`, as far as its values have the operations for that.
-/

namespace Schemata

/-- A step of a report, put together from any values. -/
structure LooseReport.Step where
  name : Value := .str ""
  success : Value := .bool true
  elapsed : Value := .float (Binary64.ofInt 0)
  detail : Value := .str ""
  deriving Repr

/-- A report that was put together from any values. -/
structure LooseReport where
  success : Value := .bool false
  source : Value := .str ""
  entities : Value := .int 0
  fields : Value := .int 0
  relationships : Value := .int 0
  elapsed : Value := .float (Binary64.ofInt 0)
  steps : List LooseReport.Step := []
  lintErrors : Value := .list []
  lintWarnings : Value := .list []
  failures : Value := .map []
  deriving Repr

namespace LooseReport

/-! ## 1. Putting together -/

/-- Why a report cannot be put together. -/
inductive Fault
  | noField (name : String)
  | tooManyParts (count : Nat)
  | lack (l : Value.Lack)
  deriving Repr

/-- The text of a fault. -/
def Fault.message : Fault → String
  | noField name =>
    "GenerationReport.__init__() got an unexpected keyword argument '" ++ name ++ "'"
  | tooManyParts n =>
    "GenerationStepMetric.__init__() takes from 1 to 5 positional arguments but " ++
      toString (n + 1) ++ " were given"
  | lack l => l.message

/-- A step from its parts, of which the last may be missing. -/
def Step.ofParts (parts : List Value) : Except Fault Step :=
  let d : Step := {}
  match parts with
  | [] => .ok d
  | [name] => .ok { d with name }
  | [name, success] => .ok { d with name, success }
  | [name, success, elapsed] => .ok { d with name, success, elapsed }
  | [name, success, elapsed, detail] => .ok ⟨name, success, elapsed, detail⟩
  | parts => .error (.tooManyParts parts.length)

/-- The steps in a value. -/
def stepsOf (v : Value) : Except Fault (List Step) := do
  (← v.parts.mapError .lack).mapM fun step => do Step.ofParts (← step.parts.mapError .lack)

/-- Puts a value into a report. -/
def put (r : LooseReport) (name : String) (v : Value) : Except Fault LooseReport :=
  match name with
  | "success" => .ok { r with success := v }
  | "source" => .ok { r with source := v }
  | "total_entities" => .ok { r with entities := v }
  | "total_fields" => .ok { r with fields := v }
  | "total_relationships" => .ok { r with relationships := v }
  | "total_elapsed_seconds" => .ok { r with elapsed := v }
  | "step_metrics" => .ok r
  | "lint_errors" => .ok { r with lintErrors := v }
  | "lint_warnings" => .ok { r with lintWarnings := v }
  | "failures" => .ok { r with failures := v }
  | name => .error (.noField name)

/-- The report with the values of named fields; its steps are put together first. -/
def ofFields (fields : Entries String Value) : Except Fault LooseReport := do
  let steps ← match fields.lookup "step_metrics" with
    | some v => stepsOf v
    | none => pure []
  fields.foldlM (fun r f => r.put f.1 f.2) ({ steps } : LooseReport)

/-! ## 2. For a reader -/

/-- A step on one line. -/
def Step.line (s : Step) : Except Value.Lack String := do
  let name ← s.name.padded 0
  return Report.stepLine s.success.isTruthy name (← s.elapsed.fixed 3) s.detail.display

/-- The texts of a list; a value that counts as not given has none. -/
def lines (v : Value) : Except Value.Lack (List String) := do
  if v.isTruthy then
    let _ ← v.count
    return (← v.parts).map Value.display
  else return []

/-- The texts of a map; a value that counts as not given has none. -/
def entryLines (v : Value) : Except Value.Lack (List (String × String)) := do
  if v.isTruthy then
    let _ ← v.count
    match v with
    | .map entries => return entries.map fun (k, v) => (k.display, v.display)
    | v => throw (.member v.kind "items")
  else return []

/-- The texts of a report. -/
def sheet (r : LooseReport) : Except Value.Lack Report.Sheet := do
  let seconds ← r.elapsed.fixed 3
  let steps ← r.steps.mapM Step.line
  let lintErrors ← lines r.lintErrors
  let lintWarnings ← lines r.lintWarnings
  let failures ← entryLines r.failures
  return {
    success := r.success.isTruthy
    source := if r.source.isTruthy then r.source.display else ""
    entities := r.entities.display
    fields := r.fields.display
    relationships := r.relationships.display
    seconds, steps, lintErrors, lintWarnings, failures }

/-- The report for a reader. -/
def summary (r : LooseReport) : Except Value.Lack String := do
  return "\n".intercalate (← r.sheet).lines

/-! ## 3. For a program -/

/-- A number rounded to six places. -/
def rounded : Value → Value
  | .bool b => .int (if b then 1 else 0)
  | .float x => (Number.float x).roundedToMicros.toValue
  | v => v

/-- A step as a value. -/
def Step.toValue (s : Step) : Value :=
  .obj [("name", s.name), ("success", s.success), ("elapsedSeconds", rounded s.elapsed),
    ("detail", s.detail)]

/-- The entries of a map, or of a list without any. -/
def entries (v : Value) : Except Value.Lack (List (Scalar × Value)) :=
  match v with
  | .map entries => .ok entries
  | v => do
    let _ ← v.parts
    return []

/-- The report for a program, if there is one for a reader. -/
def toValue (r : LooseReport) : Except Value.Lack Value := do
  return .obj [("success", r.success), ("source", r.source), ("totalEntities", r.entities),
    ("totalFields", r.fields), ("totalRelationships", r.relationships),
    ("totalElapsedSeconds", rounded r.elapsed), ("steps", .list (r.steps.map Step.toValue)),
    ("lintErrors", .list (← r.lintErrors.parts)), ("lintWarnings", .list (← r.lintWarnings.parts)),
    ("failures", .map (← entries r.failures))]

end LooseReport

end Schemata
