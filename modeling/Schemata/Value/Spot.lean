import Schemata.Value
/-!
# Places in values

A `Spot` leads from a value to one of the values inside it, step by step.
-/

namespace Schemata

/-- A step from a collection to one of its parts.  The parts of a pair are counted as those of a
list. -/
inductive Step
  | key (k : Scalar)
  | index (n : Nat)
  deriving DecidableEq, Repr

/-- A place in a value: the steps that lead there. -/
abbrev Spot := List Step

/-- A step to a text key. -/
def Step.name (s : String) : Step := .key (.str s)

end Schemata
