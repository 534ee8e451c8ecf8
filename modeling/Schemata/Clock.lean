import Schemata.Calendar
import Schemata.Failure
/-!
# Clocks

A clock tells the moment at which documents are made, or fails.

A clock may fail the way the making of a document does, with a `Failure` of its own.  Such a failure
says at which stage it is, and is not laid to the document for which the clock was asked.
-/

namespace Schemata

/-- A clock that shows one moment, is broken, or refuses to be asked at a stage that it names. -/
inductive Clock
  | at (moment : Moment)
  | broken (message : String)
  | refusing (f : Failure)
  deriving Repr

namespace Clock

/-- The clock of a run that was given none. -/
def standard : Clock := .at ⟨⟨2024, 1, 15⟩, 10, 30, 0, 123456, some .utc⟩

/-- Why a clock gives no timestamp. -/
inductive Fault
  /-- The clock failed; a clock that refuses has named the stage. -/
  | broken {named : Option Stage} (message : String)
  | outOfRange
  deriving DecidableEq, Repr

/-- The text of a fault. -/
def Fault.message : Fault → String
  | @broken none message => message
  | @broken (some stage) message => (Failure.mk stage message).sentence
  | outOfRange => "date value out of range"

/-- The failure of a document that needs a timestamp.  It is at the stage of the document, unless
the clock has named one. -/
def Fault.failure (stage : Stage) : Fault → Failure
  | @broken (some named) message => ⟨named, message⟩
  | f => ⟨stage, f.message⟩

/-- The timestamp of the moment that the clock shows. -/
def stamp : Clock → Except Fault String
  | .at t =>
    match t.stamp? with
    | some s => .ok s
    | none => .error .outOfRange
  | .broken message => .error (@Fault.broken none message)
  | .refusing f => .error (@Fault.broken (some f.stage) f.message)

end Clock

end Schemata
