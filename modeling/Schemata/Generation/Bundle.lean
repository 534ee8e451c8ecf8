import Schemata.Diagram.Document
import Schemata.Generation.Report
import Schemata.JsonSchema
import Schemata.Lint.Rules
import Schemata.Model.Normal
import Schemata.OpenApi.Document
import Schemata.OpenApi.Sharing
/-!
# The documents of a model

A `Bundle` holds the three documents that are made of a model, and the report on their making.

* `Artifact.make` makes one of them.  One that fails leaves the others alone.
* The three tasks may end in any order; `Bundle.ofTasks` collects their outcomes by artifact, so
  that the bundle does not depend on it.
* Findings of the lint never stop generation; a pattern too large to be looked at does, and so does
  a message that would hold too large an integer.
-/

namespace Schemata

/-! ## 1. Artifacts -/

/-- A document that is made of a model. -/
inductive Artifact
  | schema | api | diagrams
  deriving DecidableEq, Repr

namespace Artifact

/-- All artifacts, in the order in which they are reported. -/
def all : List Artifact := [schema, api, diagrams]

/-- The key of an artifact in a bundle. -/
def key : Artifact → String
  | schema => "jsonSchema"
  | api => "api"
  | diagrams => "diagrams"

/-- The title of an artifact in a report. -/
def title : Artifact → String
  | schema => "JSON Schema"
  | api => "OpenAPI"
  | diagrams => "Diagrams"

/-- The stage at which an artifact can fail. -/
def stage : Artifact → Stage
  | schema => .schema
  | api => .api
  | diagrams => .diagram

/-- Makes an artifact. -/
def make (config : Config) (clock : Clock) (m : Model) : Artifact → Except Failure Value
  | schema => JsonSchema.document config clock m
  | api => OpenApi.generate config clock m
  | diagrams => Diagram.generate config clock m

end Artifact

/-- An artifact with what came of making it. -/
abbrev Task := Artifact × Except Failure Value

namespace Task

/-- Makes artifacts, in an order. -/
def run (config : Config) (clock : Clock) (m : Model) (order : List Artifact) : List Task :=
  order.map fun a => (a, a.make config clock m)

/-- The outcomes of tasks, in the order of reports. -/
def reported (tasks : List Task) : List Task :=
  Artifact.all.filterMap fun a => (tasks.lookup a).map fun outcome => (a, outcome)

/-- What a step detail says of an outcome. -/
def detail : Task → String
  | (_, .ok _) => "ok"
  | (_, .error f) => f.message

/-- The step of a task. -/
def step (t : Task) : Report.Step where
  name := "Generate " ++ t.1.title
  success := t.2.toBool
  detail := t.detail

/-- The failure of a task, under the name of its stage. -/
def failure? : Task → Option (String × String)
  | (_, .ok _) => none
  | (_, .error f) => some (f.stage.name, f.message)

end Task

/-! ## 2. Bundles -/

/-- The documents of a model, and the report on their making. -/
structure Bundle where
  report : Report
  schema : Option Value := none
  api : Option Value := none
  diagrams : Option Value := none
  /-- The normal form of the model; none where there is no such form. -/
  model : Option Model := none
  /-- The objects of the input, and the part of it that the model is, where the input tells which of
  its places hold one object. -/
  input : Yaml.Objects × Yaml.Part := (#[], .atom .null)

namespace Bundle

/-- Which places of the description hold one object. -/
@[inline]
def apiIdentity (b : Bundle) : Yaml.Identity OpenApi.Origin :=
  match b.model with
  | some m => OpenApi.Sharing.identity ⟨b.input.1, b.input.2, m⟩
  | none => fun _ => none

/-- An artifact of a bundle. -/
def artifact? (b : Bundle) : Artifact → Option Value
  | .schema => b.schema
  | .api => b.api
  | .diagrams => b.diagrams

/-- The document that a task made. -/
def outcome? (tasks : List Task) (a : Artifact) : Option Value :=
  (tasks.lookup a).bind Except.toOption

/-- A bundle as a value; an artifact that is missing is null. -/
def toValue (b : Bundle) : Value :=
  .obj ((Artifact.all.map fun a => (a.key, (b.artifact? a).getD .null)) ++
    [("report", b.report.toValue)])

/-- The step of normalizing. -/
def normalStep : Except Failure Model → Report.Step
  | .ok m =>
    { name := "Normalize Model", detail := toString m.entities.length ++ " entities" }
  | .error f => { name := "Normalize Model", success := false, detail := f.message }

/-- What the lint step says of its findings. -/
def lintDetail (fs : Findings) : String :=
  if !fs.errors.isEmpty then toString fs.errors.length ++ " error(s)"
  else if !fs.warnings.isEmpty then toString fs.warnings.length ++ " warning(s)"
  else "all checks passed"

/-- The step of the lint. -/
def lintStep (fs : Findings) : Report.Step :=
  { name := "Lint Model", success := fs.isValid, detail := lintDetail fs }

/-- The bundle of a model that has no normal form. -/
def ofFailure (source : String) (f : Failure) : Bundle where
  report :=
    { source := source, steps := [normalStep (.error f)], failures := [(f.stage.name, f.message)] }

/-- The bundle of a model and the tasks done for it; `findings` are there if there was a lint. -/
def ofTasks (source : String) (m : Model) (findings : Option Findings) (tasks : List Task) :
    Bundle :=
  let reported := Task.reported tasks
  let failures := Entries.ofList (reported.filterMap Task.failure?)
  { report :=
      { success := failures.isEmpty
        source := source
        entities := m.entities.length
        fields := m.totalFields
        relationships := m.relationships.length
        steps := normalStep (.ok m) :: findings.toList.map lintStep ++ reported.map Task.step
        lintErrors := (findings.getD []).errors.lines
        lintWarnings := (findings.getD []).warnings.lines
        failures := failures }
    schema := outcome? tasks .schema
    api := outcome? tasks .api
    diagrams := outcome? tasks .diagrams
    model := some m }

/-- Makes the documents of a model, the tasks ending in an order. -/
def generateIn (order : List Artifact) (config : Config) (clock : Clock) (lint : Bool)
    (source : String) (raw : Value) : Except Pattern.Limit Bundle :=
  match Model.normalize raw with
  | .error fault =>
    if fault.isFailure then .ok (ofFailure source fault.toFailure) else .error .written
  | .ok m => do
    let findings ←
      if lint then (Lint.everything m config).map fun issues => some (Lint.findings issues)
      else pure none
    return ofTasks source m findings (Task.run config clock m order)

/-- Makes the documents of a model, one after the other. -/
def generate : Config → Clock → Bool → String → Value → Except Pattern.Limit Bundle :=
  generateIn Artifact.all

end Bundle

end Schemata
