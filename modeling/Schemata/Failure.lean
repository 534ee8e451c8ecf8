import Schemata.Value
/-!
# Failures of the generators

A `Failure` says at which stage the making of an artifact failed, and why.
-/

namespace Schemata

/-- A stage at which an artifact can fail. -/
inductive Stage
  | schema | api | diagram | conversion | normalization
  deriving DecidableEq, Repr

namespace Stage

/-- All stages. -/
def all : List Stage := [schema, api, diagram, conversion, normalization]

/-- The name of a stage. -/
def name : Stage → String
  | schema => "schema"
  | api => "api"
  | diagram => "diagram"
  | conversion => "conversion"
  | normalization => "normalization"

/-- The stage of a name. -/
def parse? (s : String) : Option Stage := all.find? fun k => k.name = s

end Stage

/-- A failure at a stage. -/
structure Failure where
  stage : Stage
  message : String
  deriving DecidableEq, Repr

namespace Failure

/-- The failure in one sentence. -/
def sentence (f : Failure) : String := f.stage.name ++ " generation failed: " ++ f.message

/-- A short name of the failure for messages. -/
def inspect (f : Failure) : String :=
  "<GenerationFailure " ++ f.stage.name ++ ": " ++ f.message ++ ">"

/-- The failure as a value. -/
def toValue (f : Failure) : Value :=
  .obj [("kind", .str f.stage.name), ("message", .str f.message)]

end Failure

end Schemata
