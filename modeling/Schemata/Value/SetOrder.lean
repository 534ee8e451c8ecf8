import Schemata.Value
/-!
# The order of a set

A set of numbers lists them by their places in a table.  `Value.setOrder` gives the order; members
of a set that holds anything else stay in the order in which they were put there.

* The place of a number comes from its residue: for a whole number the remainder by a prime, for a
  fraction the quotient of residues.  Numbers that are equal have one residue.
* A number whose place is taken goes to the next free one of its sequence of places.
-/

namespace Schemata

/-! ## 1. Residues -/

namespace SetTable

/-- The binary digits of the prime. -/
def primeDigits : Nat := 61

/-- The prime that residues are taken by. -/
def prime : Nat := Nat.pow 2 primeDigits - 1

/-- The residue of a ratio whose denominator is a power of two: two times its own residue to the
power `primeDigits - 1` is one. -/
def ratioResidue (n : Int) (d : Nat) : Int :=
  let k := d.log2 % primeDigits
  let r : Int := (n.natAbs * Nat.pow 2 (primeDigits - k) % prime : Nat)
  let signed := if n < 0 then -r else r
  if signed = -1 then -2 else signed

/-- The residue of an infinite number. -/
def infiniteResidue : Int := 314159

/-- The residue of a number; there is none for anything else. -/
def residue? : Scalar → Option Int
  | .float (.infinite negative) => some (if negative then -infiniteResidue else infiniteResidue)
  | s => s.ratio?.map fun (n, d) => ratioResidue n d

/-! ## 2. Places -/

/-- The size of the table for a count of members. -/
def size (count : Nat) : Nat := if count < 5 then 8 else Nat.pow 2 ((2 * count).log2 + 1)

/-- How many places after the first are tried next to it. -/
def neighbours : Nat := 9

/-- The places around one that are tried with it. -/
def around (size i : Nat) : List Nat :=
  if i + neighbours < size then (List.range (neighbours + 1)).map (i + ·) else [i]

/-- The first free place in a number's sequence of places, from one on. -/
def freePlace (isFree : Nat → Bool) (size : Nat) : Nat → Nat → Nat → Nat
  | 0, i, _ => i
  | fuel + 1, i, rest =>
    match (around size i).find? isFree with
    | some j => j
    | none => freePlace isFree size fuel ((i * 5 + 1 + rest / 32) % size) (rest / 32)

/-- A table with a further number. -/
def insert (size : Nat) (table : List (Nat × Scalar)) (m : Scalar × Int) :
    List (Nat × Scalar) :=
  let whole := (m.2 % (Nat.pow 2 64 : Nat)).toNat
  let isFree (i : Nat) : Bool := !table.any fun e => e.1 == i
  (freePlace isFree size (size + 16) (whole % size) whole, m.1) :: table

/-- Numbers by their places. -/
def listing (members : List (Scalar × Int)) : List Scalar :=
  let table := members.foldl (insert (size members.length)) []
  (table.mergeSort fun a b => a.1 ≤ b.1).map Prod.snd

end SetTable

/-- The members of a set in the order in which it lists them. -/
def Value.setOrder (members : List Scalar) : List Scalar :=
  match members.mapM fun m => (SetTable.residue? m).map (m, ·) with
  | some numbers => SetTable.listing numbers
  | none => members

end Schemata
