import Schemata.Lint.Finding
import Schemata.Value.Operation
/-!
# Remarks of any values

A `Remark` is a finding that was put together from any values.  A list of remarks is shown like one
of findings, as far as their values have the operations for that.
-/

namespace Schemata

/-- A finding that was put together from any values. -/
structure Remark where
  severity : Severity
  code : Value
  message : Value
  context : Value
  deriving Repr

namespace Remark

/-- A remark; a context that counts as not given is empty. -/
def of (severity : Severity) (code message context : Value) : Remark :=
  ⟨severity, code, message, if context.isTruthy then context else .map []⟩

/-- The finding that a remark is but for its context. -/
def bare (r : Remark) : Finding := ⟨r.severity, r.code.display, r.message.display, []⟩

/-- The remark as a value. -/
def toValue (r : Remark) : Value :=
  .obj [("level", .str r.severity.name), ("code", r.code), ("message", r.message),
    ("context", r.context)]

/-- The lines of a remark in a report. -/
def reportLines (r : Remark) : Except Value.Lack (List String) :=
  match r.context with
  | .map entries =>
    .ok (Finding.reportLines { r.bare with
      context := entries.map fun (k, v) => (k.display, v) })
  | v => .error (.member v.kind "items")

/-- A report on remarks of several lines; those that merely inform are left out unless they are
asked for. -/
def report (withInfo : Bool) (rs : List Remark) : Except Value.Lack String := do
  let shown := rs.filter fun r => withInfo || r.severity ≠ .info
  let lines ← shown.mapM reportLines
  return "\n".intercalate (Findings.summary (rs.map bare) :: "" :: lines.flatten)

end Remark

end Schemata
