import Schemata.Value
/-!
# Values and what they stand in

A `Placed` value comes with the collections around it.  With them a list or map that stands inside
itself can be gone into as deep as one likes, without ever being written out.
-/

namespace Schemata

/-- A value with the collections that it stands in, nearest first. -/
structure Placed where
  value : Value
  around : List Value
  deriving Repr, Inhabited

namespace Placed

/-- A value that stands in nothing. -/
def whole (v : Value) : Placed := ⟨v, []⟩

/-- A part of the nearest of some collections.  A part that means a collection further out is that
collection. -/
def part (around : List Value) (v : Value) : Placed :=
  match v with
  | .outer levels _ =>
    match around.drop levels with
    | w :: further => ⟨w, further⟩
    | [] => ⟨v, around⟩
  | v => ⟨v, around⟩

end Placed

end Schemata
