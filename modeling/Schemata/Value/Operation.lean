import Schemata.Value.Display
/-!
# Operations on values of any kind

A value of the wrong kind lacks an operation that is asked of it; a `Lack` says which.

* `Value.parts` are what a value is gone through by, `Value.count` is their number.
* `Value.fixed` and `Value.padded` format a number and a text.
-/

namespace Schemata.Value

/-- The operation that a kind of values lacks. -/
inductive Lack
  | member (kind : Kind) (name : String)
  | parts (kind : Kind)
  | length (kind : Kind)
  | mapping (kind : Kind)
  /-- Formatting of any sort. -/
  | format (kind : Kind)
  /-- A sort of formatting. -/
  | formatCode (code : String) (kind : Kind)
  /-- A floating-point form, which an integer out of range lacks. -/
  | range
  deriving DecidableEq, Repr

/-- The text of a lack. -/
def Lack.message : Lack → String
  | member kind name => "'" ++ kind.name ++ "' object has no attribute '" ++ name ++ "'"
  | parts kind => "'" ++ kind.name ++ "' object is not iterable"
  | length kind => "object of type '" ++ kind.name ++ "' has no len()"
  | mapping kind => "'" ++ kind.name ++ "' object is not a mapping"
  | format kind => "unsupported format string passed to " ++ kind.name ++ ".__format__"
  | formatCode code kind =>
    "Unknown format code '" ++ code ++ "' for object of type '" ++ kind.name ++ "'"
  | range => "int too large to convert to float"

/-- The items of a list, the keys of a map, the characters of a text and the like. -/
def parts? : Value → Option (List Value)
  | list items => some items
  | map entries => some (entries.map fun e => atom e.1)
  | set members => some (members.map atom)
  | pair first second => some [first, second]
  | str s => some (s.toList.map fun c => str (String.singleton c))
  | atom (.bytes bs) => some (bs.map fun b => int b.toNat)
  | _ => none

/-- What a value is gone through by. -/
def parts (v : Value) : Except Lack (List Value) :=
  match v.parts? with
  | some vs => .ok vs
  | none => .error (.parts v.kind)

/-- The number of parts. -/
def count (v : Value) : Except Lack Nat :=
  match v.parts? with
  | some vs => .ok vs.length
  | none => .error (.length v.kind)

/-- The entries of a map; a value of another kind that counts as not given has none. -/
def mappingOrNone (v : Value) : Except Lack (List (Scalar × Value)) :=
  match v with
  | map entries => .ok entries
  | v => if v.isTruthy then .error (.mapping v.kind) else .ok []

/-- An integer as a floating-point number. -/
def finiteOf (n : Int) : Except Lack Binary64 :=
  match Binary64.ofInt n with
  | .infinite _ => .error .range
  | x => .ok x

/-- A number with a count of places; a boolean counts as a number. -/
def fixed (places : Nat) : Value → Except Lack String
  | bool b => .ok (Decimal.fixed places (Binary64.ofInt (if b then 1 else 0)))
  | int n => (finiteOf n).map (Decimal.fixed places)
  | float x => .ok (Decimal.fixed places x)
  | str _ => .error (.formatCode "f" .str)
  | v => .error (.format v.kind)

/-- A text with spaces on the right, up to a width. -/
def padded (width : Nat) : Value → Except Lack String
  | str s => .ok (s ++ String.ofList (List.replicate (width - s.length) ' '))
  | v =>
    match v.kind with
    | .bool | .int | .float => .error (.formatCode "s" v.kind)
    | kind => .error (.format kind)

end Schemata.Value
