import Schemata.Value.Spot
/-!
# Values with anchors

A list or map that stands at several places of a document is written once: at its first place under
an anchor, at the others as an alias.  A `Tree` is a value with these marks.

* `Tree.ofValue` sets the marks for an `Identity`, which says which places hold one object.
* Anchors are counted in the order in which objects are met again.
* Only values that JSON knows have a tree; a pair counts as a list.
-/

namespace Schemata.Yaml

/-- Which places hold one object: those with the same name.  The object of a place without a name
stands there alone. -/
abbrev Identity (κ : Type) := Spot → Option κ

/-- A value with anchors and aliases. -/
inductive Tree
  | scalar (s : Scalar)
  | list (anchor : Option Nat) (items : List Tree)
  | map (anchor : Option Nat) (entries : List (Scalar × Tree))
  | reference (n : Nat)
  deriving Repr, Inhabited

/-- Whether JSON knows a scalar. -/
def isPortable : Scalar → Bool
  | .null | .bool _ | .int _ | .float _ | .str _ => true
  | _ => false

namespace Tree

/-! ## 1. Objects that are met again -/

variable {κ : Type} [BEq κ]

/-- The objects met so far with their first places, and those among them that were met again, in
that order. -/
structure Survey (κ : Type) where
  met : List (κ × Spot)
  repeated : List (κ × Spot)

namespace Survey

/-- Notes the object of a place.  What is in it counts if it was not met before. -/
def enter (identity : Identity κ) (s : Survey κ) (here : Spot) : Survey κ × Bool :=
  match identity here with
  | none => (s, true)
  | some k =>
    match s.met.lookup k with
    | none => ({ s with met := (k, here) :: s.met }, true)
    | some first =>
      if (s.repeated.lookup k).isSome then (s, false)
      else ({ s with repeated := s.repeated ++ [(k, first)] }, false)

mutual

/-- Notes the objects of a value at a place. -/
def place (identity : Identity κ) (s : Survey κ) (here : Spot) : Value → Survey κ
  | .list items =>
    match s.enter identity here with
    | (s, true) => s.items identity here 0 items
    | (s, false) => s
  | .map entries =>
    match s.enter identity here with
    | (s, true) => s.entries identity here entries
    | (s, false) => s
  | .pair first second =>
    match s.enter identity here with
    | (s, true) =>
      (s.place identity (here ++ [.index 0]) first).place identity (here ++ [.index 1]) second
    | (s, false) => s
  | _ => s

def items (identity : Identity κ) (s : Survey κ) (here : Spot) (n : Nat) :
    List Value → Survey κ
  | [] => s
  | v :: rest =>
    (s.place identity (here ++ [.index n]) v).items identity here (n + 1) rest

def entries (identity : Identity κ) (s : Survey κ) (here : Spot) :
    List (Scalar × Value) → Survey κ
  | [] => s
  | (k, v) :: rest => (s.place identity (here ++ [.key k]) v).entries identity here rest

end

end Survey

/-- The objects that a value holds more than once, with their first places. -/
def repeats (identity : Identity κ) (v : Value) : List (κ × Spot) :=
  (Survey.place identity ⟨[], []⟩ [] v).repeated

/-! ## 2. Trees -/

/-- An anchor at the first place of an object, or an alias at another. -/
inductive Mark
  | anchor (n : Nat)
  | reference (n : Nat)
  deriving DecidableEq, Repr

/-- The mark of a place; anchors count from one. -/
def markAt (identity : Identity κ) (repeats : List (κ × Spot)) (here : Spot) : Option Mark := do
  let k ← identity here
  let n ← repeats.findIdx? fun r => r.1 == k
  let (_, first) ← repeats[n]?
  return if first = here then .anchor (n + 1) else .reference (n + 1)

/-- The anchor in a mark. -/
def Mark.anchor? : Mark → Option Nat
  | anchor n => some n
  | reference _ => none

mutual

/-- The tree of the value at a place; a value that JSON does not know is refused with its kind. -/
def ofPlace (mark : Spot → Option Mark) (here : Spot) : Value → Except Value.Kind Tree
  | .atom s => if isPortable s then .ok (.scalar s) else .error s.kind
  | .list items =>
    match mark here with
    | some (.reference n) => .ok (.reference n)
    | m => do return .list (m.bind Mark.anchor?) (← ofItems mark here 0 items)
  | .map entries =>
    match mark here with
    | some (.reference n) => .ok (.reference n)
    | m => do return .map (m.bind Mark.anchor?) (← ofEntries mark here entries)
  | .pair first second =>
    match mark here with
    | some (.reference n) => .ok (.reference n)
    | m => do
      let first ← ofPlace mark (here ++ [.index 0]) first
      let second ← ofPlace mark (here ++ [.index 1]) second
      return .list (m.bind Mark.anchor?) [first, second]
  | v => .error v.kind

def ofItems (mark : Spot → Option Mark) (here : Spot) (n : Nat) :
    List Value → Except Value.Kind (List Tree)
  | [] => .ok []
  | v :: rest => do
    let first ← ofPlace mark (here ++ [.index n]) v
    return first :: (← ofItems mark here (n + 1) rest)

def ofEntries (mark : Spot → Option Mark) (here : Spot) :
    List (Scalar × Value) → Except Value.Kind (List (Scalar × Tree))
  | [] => .ok []
  | (k, v) :: rest =>
    if isPortable k then do
      let first ← ofPlace mark (here ++ [.key k]) v
      return (k, first) :: (← ofEntries mark here rest)
    else .error k.kind

end

/-- The tree of a value in which some places hold one object. -/
def ofValue (identity : Identity κ) (v : Value) : Except Value.Kind Tree :=
  ofPlace (markAt identity (repeats identity v)) [] v

end Tree

end Schemata.Yaml
