import Schemata.Proofs.Outcome
import Schemata.Source
/-!
# Texts and their bytes

Every text is kept as bytes from which it can be read again.

* `start?_two`, `start?_three`, `start?_four`: the first byte of a character announces the others.
* `decodeFrom_char`: the bytes of one character are read as it.
* `decode_encode`: the bytes of a text are read as that text.
* `openDocument_encode`: a file of the bytes of a text is opened as a file of that text.
-/

namespace Schemata.Text.Utf8

/-- The bytes of a text. -/
def encode (s : String) : List UInt8 := s.toList.flatMap String.utf8EncodeChar

/-! ## 1. The bytes of a character -/

/-- A byte of a character after its first one. -/
def tail (n : Nat) : UInt8 := UInt8.ofNat (n % 64 + 0x80)

theorem toNat_tail (n : Nat) : (tail n).toNat = n % 64 + 0x80 := by
  rw [tail, UInt8.toNat_ofNat']
  omega

theorem decodeFrom_start {r : Reading} (hr : r.ranges = []) {b : UInt8} {n : Nat}
    {ranges : List (Nat × Nat)} (hb : start? b.toNat = some (n, ranges)) (rest : List UInt8) :
    decodeFrom r (b :: rest)
      = (decodeFrom ⟨r.place + r.bytes.length, [b], n, ranges⟩ rest).map (r.chars ++ ·) := by
  simp only [decodeFrom, hr, hb]

theorem decodeFrom_tail {place n m low high : Nat} {bytes : List UInt8} {ranges : List (Nat × Nat)}
    (hlow : low ≤ m % 64 + 0x80) (hhigh : m % 64 + 0x80 ≤ high) (rest : List UInt8) :
    decodeFrom ⟨place, bytes, n, (low, high) :: ranges⟩ (tail m :: rest)
      = decodeFrom ⟨place, bytes ++ [tail m], 64 * n + m % 64, ranges⟩ rest := by
  have hrange : low ≤ (tail m).toNat ∧ (tail m).toNat ≤ high := by
    rw [toNat_tail]
    exact ⟨hlow, hhigh⟩
  have hshare : (tail m).toNat - 0x80 = m % 64 := by
    rw [toNat_tail]
    omega
  simp only [decodeFrom, hrange, and_self, ↓reduceIte, hshare]

/-- The first of two bytes. -/
theorem start?_two {v : Nat} (hlow : 0x7F < v) (hhigh : v ≤ 0x7FF) :
    start? (v / 64 % 32 + 0xC0) = some (v / 64, [(0x80, 0xBF)]) := by
  have hlead : v / 64 % 32 = v / 64 := by omega
  rw [hlead, start?, if_neg (by omega), if_neg (by omega), if_pos (by omega), Nat.add_sub_cancel]

/-- The first of three bytes, and the range of the second; halves of characters are left out. -/
theorem start?_three {v : Nat} (hlow : 0x7FF < v) (hhigh : v ≤ 0xFFFF)
    (hwhole : v < 0xD800 ∨ 0xDFFF < v) :
    ∃ low high, start? (v / 4096 % 16 + 0xE0) = some (v / 4096, [(low, high), (0x80, 0xBF)]) ∧
      low ≤ v / 64 % 64 + 0x80 ∧ v / 64 % 64 + 0x80 ≤ high := by
  have hlead : v / 4096 % 16 = v / 4096 := by omega
  rw [hlead, start?, if_neg (by omega), if_neg (by omega), if_neg (by omega)]
  by_cases hfirst : v / 4096 = 0
  · rw [hfirst, if_pos rfl]
    exact ⟨_, _, rfl, by omega, by omega⟩
  · rw [if_neg (by omega)]
    by_cases hhalves : v / 4096 = 0xD
    · rw [hhalves, if_pos rfl]
      exact ⟨_, _, rfl, by omega, by omega⟩
    · rw [if_neg (by omega), if_pos (by omega), Nat.add_sub_cancel]
      exact ⟨_, _, rfl, by omega, by omega⟩

/-- The first of four bytes, and the range of the second. -/
theorem start?_four {v : Nat} (hlow : 0xFFFF < v) (hhigh : v < 0x110000) :
    ∃ low high, start? (v / 262144 % 8 + 0xF0)
        = some (v / 262144, [(low, high), (0x80, 0xBF), (0x80, 0xBF)]) ∧
      low ≤ v / 4096 % 64 + 0x80 ∧ v / 4096 % 64 + 0x80 ≤ high := by
  have hlead : v / 262144 % 8 = v / 262144 := by omega
  rw [hlead, start?, if_neg (by omega), if_neg (by omega), if_neg (by omega), if_neg (by omega),
    if_neg (by omega), if_neg (by omega)]
  by_cases hfirst : v / 262144 = 0
  · rw [hfirst, if_pos rfl]
    exact ⟨_, _, rfl, by omega, by omega⟩
  · rw [if_neg (by omega)]
    by_cases hlast : v / 262144 = 4
    · rw [hlast, if_neg (by omega), if_pos rfl]
      exact ⟨_, _, rfl, by omega, by omega⟩
    · rw [if_pos (by omega), Nat.add_sub_cancel]
      exact ⟨_, _, rfl, by omega, by omega⟩

/-! ## 2. Reading them -/

/-- Between two characters, the bytes of one are read as it. -/
theorem decodeFrom_char {r : Reading} (hr : r.ranges = []) (c : Char) (rest : List UInt8) :
    decodeFrom r (String.utf8EncodeChar c ++ rest)
      = (decodeFrom ⟨r.place + r.bytes.length, String.utf8EncodeChar c, c.toNat, []⟩ rest).map
          (r.chars ++ ·) := by
  have hbyte : ∀ n < 256, (UInt8.ofNat n).toNat = n := fun n hn => by
    rw [UInt8.toNat_ofNat', Nat.mod_eq_of_lt hn]
  obtain ⟨v, hv⟩ : ∃ v, c.toNat = v := ⟨_, rfl⟩
  have hval : c.val.toNat = v := hv
  have hvalid : v < 0xD800 ∨ 0xDFFF < v ∧ v < 0x110000 := hv ▸ c.valid
  rw [String.utf8EncodeChar, hval, hv]
  split
  · have hstart : start? (UInt8.ofNat v).toNat = some (v, []) := by
      rw [hbyte v (by omega), start?, if_pos (by omega)]
    exact decodeFrom_start hr hstart rest
  split
  · have hstart := start?_two (v := v) (by omega) (by omega)
    rw [← hbyte (v / 64 % 32 + 0xC0) (by omega)] at hstart
    have hnumber : 64 * (v / 64) + v % 64 = v := by omega
    rw [List.cons_append, decodeFrom_start hr hstart, List.cons_append, ← tail,
      decodeFrom_tail (by omega) (by omega), hnumber]
    rfl
  split
  · obtain ⟨low, high, hstart, hlow, hhigh⟩ :=
      start?_three (v := v) (by omega) (by omega) (by omega)
    rw [← hbyte (v / 4096 % 16 + 0xE0) (by omega)] at hstart
    have hnumber : 64 * (64 * (v / 4096) + v / 64 % 64) + v % 64 = v := by omega
    rw [List.cons_append, decodeFrom_start hr hstart, List.cons_append, List.cons_append, ← tail,
      ← tail, decodeFrom_tail hlow hhigh, decodeFrom_tail (by omega) (by omega), hnumber]
    rfl
  · obtain ⟨low, high, hstart, hlow, hhigh⟩ := start?_four (v := v) (by omega) (by omega)
    rw [← hbyte (v / 262144 % 8 + 0xF0) (by omega)] at hstart
    have hnumber :
        64 * (64 * (64 * (v / 262144) + v / 4096 % 64) + v / 64 % 64) + v % 64 = v := by omega
    rw [List.cons_append, decodeFrom_start hr hstart, List.cons_append, List.cons_append,
      List.cons_append, ← tail, ← tail, ← tail, decodeFrom_tail hlow hhigh,
      decodeFrom_tail (by omega) (by omega), decodeFrom_tail (by omega) (by omega), hnumber]
    rfl

theorem decodeFrom_encode : ∀ (cs : List Char) {r : Reading}, r.ranges = [] →
    decodeFrom r (cs.flatMap String.utf8EncodeChar) = .ok (r.chars ++ cs)
  | [], r, hr => by
    rw [List.flatMap_nil, decodeFrom, hr, List.append_nil]
    rfl
  | c :: rest, r, hr => by
    have hchars (place : Nat) :
        Reading.chars ⟨place, String.utf8EncodeChar c, c.toNat, []⟩ = [c] := by
      have hbytes : (String.utf8EncodeChar c).isEmpty = false :=
        List.isEmpty_eq_false_iff.mpr String.utf8EncodeChar_ne_nil
      rw [Reading.chars, hbytes, if_neg Bool.false_ne_true, Char.ofNat_toNat]
    rw [List.flatMap_cons, decodeFrom_char hr, decodeFrom_encode rest rfl, hchars]
    rfl

/-- **The bytes of a text are read as that text.** -/
theorem decode_encode (s : String) : decode (encode s) = .ok s := by
  have hchars : Reading.chars { place := 0 } = [] := rfl
  rw [decode, encode, decodeFrom_encode s.toList rfl, hchars, List.nil_append, Except.map,
    String.ofList_toList]

/-- The end of a text may cut a character short, and half of a character is none. -/
example : fault? (decode [0x61, 0xC3]) = some ⟨.incomplete, 1, [0xC3]⟩ ∧
    fault? (decode [0x61, 0xE2, 0x82, 0x28]) = some ⟨.badContinuation, 1, [0xE2, 0x82]⟩ ∧
    fault? (decode [0xED, 0xA0, 0x80]) = some ⟨.badContinuation, 0, [0xED]⟩ := by
  decide

end Schemata.Text.Utf8

namespace Schemata.Source

/-- **A file of the bytes of a text is opened as a file of that text.** -/
theorem openDocument_encode {t : FileTree} {home place : Place} {p : Path} {text : String}
    (hopen : t.refuses home p = false) (hplace : t.locate home p = some place)
    (hbytes : t.node? place = some (.binary (Text.Utf8.encode text))) :
    openDocument t home p = read p.suffix p.text (Text.unifiedBreaks text) := by
  simp only [openDocument, hopen, Bool.false_eq_true, ↓reduceIte, hplace, Option.bind_some, hbytes,
    Text.Utf8.decode_encode]
  rfl

end Schemata.Source
