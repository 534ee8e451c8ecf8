/-!
# Runs of names

Consecutive characters whose names share their first words.
-/

namespace Schemata.Text

/-- Names of consecutive characters, from a first one on: a stem that they share, and lines of what
follows it, with semicolons between the characters.  A character without a name has nothing
there. -/
structure NameRun where
  first : Nat
  stem : String
  endings : List String
  deriving Repr

namespace NameRun

/-- The character of the run with a name. -/
def find? (run : NameRun) (name : List Char) : Option Nat :=
  let ending := name.drop run.stem.length
  if run.stem.toList.isPrefixOf name && !ending.isEmpty then
    ((run.endings.flatMap fun line => line.splitOn ";").idxOf? (String.ofList ending)).map
      (run.first + ·)
  else none

end NameRun

end Schemata.Text
