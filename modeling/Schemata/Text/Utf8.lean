import Schemata.Text.Quoted
/-!
# Bytes of a text

A text is kept in a file as bytes, one to four for a character.  The first byte of a character says
how many follow it and from which ranges they are.

`Utf8.decode` reads bytes as a text.  Where they are none, its fault says what is wrong, and gives
the bytes of the character that was being read.
-/

namespace Schemata.Text.Utf8

/-! ## 1. Faults -/

/-- What is wrong with bytes that are no text. -/
inductive Defect
  | badStart | badContinuation | incomplete
  deriving DecidableEq, Repr

/-- The text of a defect. -/
def Defect.message : Defect → String
  | badStart => "invalid start byte"
  | badContinuation => "invalid continuation byte"
  | incomplete => "unexpected end of data"

/-- Why bytes are no text: the character that cannot be read, by its place and the bytes of it that
are there. -/
structure Fault where
  defect : Defect
  place : Nat
  bytes : List UInt8
  deriving DecidableEq, Repr

/-- The text of a fault. -/
def Fault.message (f : Fault) : String :=
  let bytes := match f.bytes with
    | [b] =>
      "byte 0x" ++ String.ofList (Quoted.hex 2 b.toNat) ++ " in position " ++ toString f.place
    | bs => "bytes in position " ++ toString f.place ++ "-" ++ toString (f.place + bs.length - 1)
  "'utf-8' codec can't decode " ++ bytes ++ ": " ++ f.defect.message

/-! ## 2. Decoding -/

/-- The ranges of the bytes that follow a first byte, and its share in the number of the character;
none if no character starts so.  The second byte is held to a shorter range where a character would
have a shorter form, would be half of one, or would be beyond the last. -/
def start? (b : Nat) : Option (Nat × List (Nat × Nat)) :=
  let any := (0x80, 0xBF)
  if b < 0x80 then some (b, [])
  else if b < 0xC2 then none
  else if b < 0xE0 then some (b - 0xC0, [any])
  else if b = 0xE0 then some (0, [(0xA0, 0xBF), any])
  else if b = 0xED then some (0xD, [(0x80, 0x9F), any])
  else if b < 0xF0 then some (b - 0xE0, [any, any])
  else if b = 0xF0 then some (0, [(0x90, 0xBF), any, any])
  else if b < 0xF4 then some (b - 0xF0, [any, any, any])
  else if b = 0xF4 then some (4, [(0x80, 0x8F), any, any])
  else none

/-- A character that is being read: its place, its bytes so far and their number, and the ranges of
the bytes to come. -/
structure Reading where
  place : Nat
  bytes : List UInt8 := []
  number : Nat := 0
  ranges : List (Nat × Nat) := []

/-- The character that was read, if there is one. -/
def Reading.chars (r : Reading) : List Char :=
  if r.bytes.isEmpty then [] else [Char.ofNat r.number]

/-- Reads bytes from within a character on. -/
def decodeFrom (r : Reading) : List UInt8 → Except Fault (List Char)
  | [] => if r.ranges.isEmpty then .ok r.chars else .error ⟨.incomplete, r.place, r.bytes⟩
  | b :: rest =>
    match r.ranges with
    | [] =>
      let place := r.place + r.bytes.length
      match start? b.toNat with
      | none => .error ⟨.badStart, place, [b]⟩
      | some (n, ranges) => (decodeFrom ⟨place, [b], n, ranges⟩ rest).map (r.chars ++ ·)
    | (low, high) :: ranges =>
      if low ≤ b.toNat ∧ b.toNat ≤ high then
        decodeFrom ⟨r.place, r.bytes ++ [b], 64 * r.number + (b.toNat - 0x80), ranges⟩ rest
      else .error ⟨.badContinuation, r.place, r.bytes⟩

/-- Reads bytes as a text. -/
def decode (bytes : List UInt8) : Except Fault String :=
  (decodeFrom { place := 0 } bytes).map String.ofList

end Schemata.Text.Utf8
