import Schemata.Text.Casing
import Schemata.Value.Display
/-!
# Findings

A `Finding` is one remark about a model or its settings.  Findings are kept in the order in which
they were made; a list of them is valid when none is an error.
-/

namespace Schemata

/-! ## 1. Single findings -/

/-- How serious a finding is. -/
inductive Severity
  | error | warning | info
  deriving DecidableEq, Repr

namespace Severity

/-- The name of a severity. -/
def name : Severity → String
  | error => "error"
  | warning => "warning"
  | info => "info"

/-- The sign in front of a finding in a report. -/
def sign : Severity → String
  | error => "❌"
  | warning => "⚠️"
  | info => "ℹ️"

end Severity

/-- One remark, with the data it is about. -/
structure Finding where
  severity : Severity
  code : String
  message : String
  context : Entries String Value := []
  deriving Repr

namespace Finding

/-- The finding on one line. -/
def inspect (f : Finding) : String :=
  "[" ++ Text.upper f.severity.name ++ "] " ++ f.code ++ ": " ++ f.message

/-- The finding as a value. -/
def toValue (f : Finding) : Value :=
  .obj [("level", .str f.severity.name), ("code", .str f.code), ("message", .str f.message),
    ("context", .obj f.context)]

/-- The lines of a finding in a report: the finding, then its data. -/
def reportLines (f : Finding) : List String :=
  ("  " ++ f.severity.sign ++ " [" ++ f.code ++ "] " ++ f.message) ::
    f.context.map fun (k, v) => "       " ++ k ++ ": " ++ v.display

end Finding

/-! ## 2. Lists of findings -/

/-- Findings in order. -/
abbrev Findings := List Finding

namespace Findings

/-- The findings of a severity. -/
def ofSeverity (s : Severity) (fs : Findings) : Findings := fs.filter fun f => f.severity = s

/-- The errors. -/
def errors (fs : Findings) : Findings := ofSeverity .error fs

/-- The warnings. -/
def warnings (fs : Findings) : Findings := ofSeverity .warning fs

/-- Whether there is no error. -/
def isValid (fs : Findings) : Bool := (errors fs).isEmpty

/-- The codes in order. -/
def codes (fs : Findings) : List String := fs.map Finding.code

/-- The findings, each on one line. -/
def lines (fs : Findings) : List String := fs.map Finding.inspect

/-- The numbers of errors, warnings and findings in one sentence. -/
def summary (fs : Findings) : String :=
  "Validation: " ++ toString (errors fs).length ++ " error(s), " ++
    toString (warnings fs).length ++ " warning(s), " ++ toString fs.length ++ " total item(s)."

/-- The findings as a value. -/
def toValue (fs : Findings) : Value :=
  .obj [("valid", .bool (isValid fs)), ("errorCount", .nat (errors fs).length),
    ("warningCount", .nat (warnings fs).length), ("items", .list (fs.map Finding.toValue))]

/-- A report of several lines; findings that merely inform are left out unless they are asked
for. -/
def report (withInfo : Bool) (fs : Findings) : String :=
  let shown := fs.filter fun f => withInfo || f.severity ≠ .info
  "\n".intercalate (summary fs :: "" :: shown.flatMap Finding.reportLines)

end Findings

end Schemata
