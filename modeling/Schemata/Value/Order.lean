import Schemata.Value
/-!
# Order of loosely typed values

`Value.before?` orders numbers, texts, bytes, dates, moments, sets (by inclusion) and, item by item,
lists and pairs; other values have no order.  `Value.sorted?` sorts by it, and keeps the places of
values of which neither comes before the other.
-/

namespace Schemata

/-! ## 1. Scalars -/

namespace Scalar

/-- The integer that a boolean or an integer is. -/
def integer? : Scalar → Option Int
  | bool b => some (if b then 1 else 0)
  | int n => some n
  | _ => none

/-- Whether a scalar comes before another; none where they have no order. -/
def before? (a b : Scalar) : Option Bool :=
  match a, b with
  | float x, float y => some (x.compare? y == some .lt)
  | float x, b => b.integer?.map fun n => x.compareInt? n == some .lt
  | a, float y => a.integer?.map fun n => y.compareInt? n == some .gt
  | str s, str t => some (decide (s < t))
  | bytes xs, bytes ys => some (decide (xs.map UInt8.toNat < ys.map UInt8.toNat))
  | date d, date e => some (decide (d.dayNumber < e.dayNumber))
  | moment t, moment u =>
    if t.offset.isSome = u.offset.isSome then some (decide (t.instant < u.instant)) else none
  | a, b =>
    match a.integer?, b.integer? with
    | some m, some n => some (decide (m < n))
    | _, _ => none

end Scalar

/-! ## 2. Values -/

namespace Value

mutual

/-- Whether two values are equal, where a boolean counts as a number. -/
def same : Value → Value → Bool
  | .atom a, .atom b => a.sameKey b
  | .list xs, .list ys => sameItems xs ys
  | .map xs, .map ys => xs.length == ys.length && sameEntries xs ys
  | .set xs, .set ys => xs.length == ys.length && xs.all fun x => ys.any x.sameKey
  | .pair a b, .pair c d => same a c && same b d
  | _, _ => false

def sameItems : List Value → List Value → Bool
  | [], [] => true
  | x :: xs, y :: ys => same x y && sameItems xs ys
  | _, _ => false

def sameEntries : List (Scalar × Value) → List (Scalar × Value) → Bool
  | [], _ => true
  | (k, x) :: xs, ys =>
    (match ys.find? fun e => e.1.sameKey k with
      | some (_, y) => same x y
      | none => false) && sameEntries xs ys

end

mutual

/-- Whether a value comes before another; none where they have no order. -/
def before? : Value → Value → Option Bool
  | .atom a, .atom b => a.before? b
  | .list xs, .list ys => itemsBefore? xs ys
  | .set xs, .set ys => some (xs.length < ys.length && xs.all fun x => ys.any x.sameKey)
  | .pair a b, .pair c d => if same a c then
      (if same b d then some false else before? b d) else before? a c
  | _, _ => none

/-- Whether a list of items comes before another: by the first items that differ, or else by
length. -/
def itemsBefore? : List Value → List Value → Option Bool
  | [], ys => some !ys.isEmpty
  | _ :: _, [] => some false
  | x :: xs, y :: ys => if same x y then itemsBefore? xs ys else before? x y

end

/-! ## 3. Sorting -/

/-- The items at the front of `items` that go on in the direction of the one before them, and the
others. -/
def run? (falling : Bool) (last : Value) : List Value → Option (List Value × List Value)
  | [] => some ([], [])
  | x :: rest => do
    if (← x.before? last) = falling then
      let (more, others) ← run? falling x rest
      return (x :: more, others)
    else return ([], x :: rest)

/-- The place of an item among sorted ones from `low` up to `high`, behind those it does not come
before, found by halving; `fuel` is at least the count of places between them. -/
def place? (item : Value) (sorted : Array Value) (low high : Nat) : Nat → Option Nat
  | 0 => some low
  | fuel + 1 => do
    if low < high then
      let middle := low + (high - low) / 2
      if ← item.before? (sorted.getD middle .null) then place? item sorted low middle fuel
      else place? item sorted (middle + 1) high fuel
    else return low

/-- Puts items into sorted ones. -/
def insertAll? (sorted : Array Value) (items : List Value) : Option (Array Value) :=
  items.foldlM (fun sorted item => do
    let n ← place? item sorted 0 sorted.size (sorted.size + 1)
    return sorted.insertIdxIfInBounds n item) sorted

/-- The items in order; none where two that are compared have no order.  The run at the front is
taken as it stands, turned around if it is falling. -/
def sorted? : List Value → Option (List Value)
  | x :: y :: rest => do
    let falling ← y.before? x
    let (more, others) ← run? falling y rest
    let run := x :: y :: more
    let sorted ← insertAll? (if falling then run.reverse else run).toArray others
    return sorted.toList
  | items => some items

end Value

end Schemata
