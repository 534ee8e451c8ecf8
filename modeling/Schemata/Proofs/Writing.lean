import Mathlib.Algebra.Group.Nat.Defs
import Mathlib.Data.List.TakeWhile
import Schemata.Json.Writer
import Schemata.Model.Constraints
import Schemata.Proofs.Provenance
/-!
# Which values have a text

Only an integer with too many digits keeps a value of JSON from being written.  An integer that was
read from a text, or from a floating-point number, never has too many.

* `Lenient.isWritable_of_integer`, `Coercion.isWritable_of_integer`: an integer that was read has a
  text, unless it was given as an integer that has none.
* `Constraints.isWritable_ofEntries`: constraints have texts if the map has that gave them.
* `Json.fault?_writeAt`: writing a value of JSON fails exactly if the value has no text.
-/

namespace Schemata

/-! ## 1. Digits -/

theorem Numeral.digit_le {c : Char} (h : c.isDigit = true) : c.toNat - '0'.toNat ≤ 9 := by
  simp only [Char.isDigit, Bool.and_eq_true, decide_eq_true_eq, UInt32.le_iff_toNat_le] at h
  have h9 : c.toNat ≤ 57 := h.2
  have h0 : '0'.toNat = 48 := rfl
  omega

/-- Digits after others write a number below the next one of the others, moved by as many places. -/
theorem Numeral.foldl_value_lt : ∀ {cs : List Char} (n : Nat), cs.all Char.isDigit = true →
    cs.foldl (fun n c => 10 * n + (c.toNat - '0'.toNat)) n < (n + 1) * 10 ^ cs.length
  | [], n, _ => by simp
  | c :: cs, n, h => by
    rw [List.all_cons, Bool.and_eq_true] at h
    have hrest := foldl_value_lt (10 * n + (c.toNat - '0'.toNat)) h.2
    have hdigit := digit_le h.1
    have hle : (10 * n + (c.toNat - '0'.toNat) + 1) * 10 ^ cs.length
        ≤ (10 * (n + 1)) * 10 ^ cs.length := Nat.mul_le_mul_right _ (by omega)
    rw [List.foldl_cons, List.length_cons, Nat.pow_succ', ← Nat.mul_assoc, Nat.mul_comm (n + 1)]
    exact Nat.lt_of_lt_of_le hrest hle

theorem Numeral.natural?_lt {cs : List Char} {n : Nat} (h : natural? cs = some n) :
    cs.all Char.isDigit = true ∧ n < 10 ^ cs.length := by
  unfold natural? at h
  split at h
  · rename_i hdigits
    cases h
    rw [Bool.and_eq_true] at hdigits
    have hlt := foldl_value_lt 0 hdigits.2
    rw [Nat.zero_add, Nat.one_mul] at hlt
    exact ⟨hdigits.2, hlt⟩
  · cases h

theorem Written.isWritable_of_lt {n : Int} {k : Nat} (hk : k ≤ digitLimit)
    (h : n.natAbs < 10 ^ k) : isWritable n = true := by
  -- The power is kept out of sight: it is too large to be computed.
  have hpow : ∀ limit, k ≤ limit → n.natAbs < Nat.pow 10 limit := fun limit hlimit =>
    Nat.lt_of_lt_of_le h (Nat.pow_le_pow_right (by decide) hlimit)
  unfold isWritable
  rw [Bool.or_eq_true]
  exact Or.inr (decide_eq_true (hpow digitLimit hk))

namespace Lenient

/-- Whether digits behind a number of signs start as a plain integer with too many characters. -/
def startsTooLong (signs : Nat) (digits : List Char) : Bool :=
  (digits.head?.map fun c => c.isDigit && c ≠ '0').getD false &&
    Written.digitLimit < signs + (digits.takeWhile Char.isDigit).length

/-- Whether digits have a zero in front of others. -/
def startsWithZero (digits : List Char) : Bool := digits.head? = some '0' && digits.length ≠ 1

/-- A plain integer is read from its digits, the minus being cut off. -/
theorem plain?_cut (cs : List Char) : ∃ (negative : Bool) (digits : List Char) (signs : Nat),
    isTooLong cs = startsTooLong signs digits ∧
      plain? cs = (if isTooLong cs || startsWithZero digits then none
        else (Numeral.natural? digits).map fun n => if negative then -(n : Int) else n) := by
  by_cases hminus : ∃ rest, cs = '-' :: rest
  · obtain ⟨rest, rfl⟩ := hminus
    exact ⟨true, rest, 1, rfl, rfl⟩
  · refine ⟨false, cs, 0, ?_, ?_⟩
    · unfold isTooLong
      split
      rename_i hcut
      split at hcut
      · exact absurd ⟨_, rfl⟩ hminus
      · cases hcut
        rfl
    · unfold plain?
      split
      rename_i hcut
      split at hcut
      · exact absurd ⟨_, rfl⟩ hminus
      · cases hcut
        rfl

/-- Digits that are read are not too many: a zero in front stands alone, and otherwise all of them
are counted. -/
theorem length_le_of_read {digits : List Char} {signs : Nat}
    (hdigits : digits.all Char.isDigit = true) (hlong : startsTooLong signs digits = false)
    (hzero : startsWithZero digits = false) : digits.length ≤ Written.digitLimit := by
  have hone : 1 ≤ Written.digitLimit := by decide
  cases digits with
  | nil => exact Nat.zero_le _
  | cons c rest =>
    by_cases hc : c = '0'
    · simp [startsWithZero, hc] at hzero
      simp [hzero, hone]
    · have hall : (c :: rest).takeWhile Char.isDigit = c :: rest :=
        List.takeWhile_eq_self_iff.mpr (List.all_eq_true.mp hdigits)
      have hhead : c.isDigit = true := List.all_eq_true.mp hdigits c List.mem_cons_self
      simp only [startsTooLong, hall, List.head?_cons, Option.map_some, Option.getD_some, hhead, hc,
        ne_eq, not_false_eq_true, decide_true, Bool.and_self, Bool.true_and,
        decide_eq_false_iff_not] at hlong
      omega

/-- **A plain integer that is read has few enough digits.** -/
theorem isWritable_of_plain? {cs : List Char} {n : Int} (h : plain? cs = some n) :
    Written.isWritable n = true := by
  obtain ⟨negative, digits, signs, hlong, hplain⟩ := plain?_cut cs
  rw [hplain] at h
  split at h
  · cases h
  · rename_i hguard
    rw [Bool.not_eq_true, Bool.or_eq_false_iff, hlong] at hguard
    obtain ⟨value, hvalue, rfl⟩ := Option.map_eq_some_iff.mp h
    obtain ⟨value, hnatural, hcast⟩ := Option.bind_eq_some_iff.mp hvalue
    cases hcast
    obtain ⟨hdigits, hlt⟩ := Numeral.natural?_lt hnatural
    refine Written.isWritable_of_lt (length_le_of_read hdigits hguard.1 hguard.2) ?_
    cases negative
    · simpa using hlt
    · simpa using hlt

theorem isWritable_of_integer {cs : List Char} {n : Int} (h : integer cs = .ok n) :
    Written.isWritable n = true := by
  unfold integer at h
  split at h
  · cases h
  · split at h
    · rename_i k hread
      cases h
      rcases Option.or_eq_some_iff.mp hread with hplain | ⟨-, hcleaned⟩
      · exact isWritable_of_plain? hplain
      · obtain ⟨cleaned, -, hplain⟩ := Option.bind_eq_some_iff.mp hcleaned
        exact isWritable_of_plain? hplain
    · cases h

end Lenient

/-! ## 2. What is read has a text -/

namespace Value

theorem areWritable_iff : ∀ {items : List Value},
    areWritable items = true ↔ ∀ v ∈ items, v.isWritable = true
  | [] => by simp [areWritable]
  | v :: rest => by
    rw [areWritable, Bool.and_eq_true, areWritable_iff, List.forall_mem_cons]

theorem membersAreWritable_iff : ∀ {entries : List (Scalar × Value)},
    membersAreWritable entries = true ↔
      ∀ p ∈ entries, p.1.isWritable = true ∧ p.2.isWritable = true
  | [] => by simp [membersAreWritable]
  | p :: rest => by
    rw [membersAreWritable, Bool.and_eq_true, Bool.and_eq_true, membersAreWritable_iff,
      List.forall_mem_cons]

theorem isWritable_obj {es : Entries String Value} :
    (obj es).isWritable = true ↔ ∀ p ∈ es, p.2.isWritable = true := by
  rw [obj, isWritable, membersAreWritable_iff, List.forall_mem_map]
  exact forall₂_congr fun p _ => and_iff_right rfl

/-- The parts of a value with a text have texts. -/
theorem hereditary_isWritable : Hereditary fun v => v.isWritable = true where
  nothing := rfl
  item h hv := by
    rw [isWritable] at h
    exact areWritable_iff.mp h _ hv
  entry h hp := by
    rw [isWritable] at h
    exact (membersAreWritable_iff.mp h _ hp).2

end Value

namespace Coercion

theorem isWritable_of_integerOfFloat {x : Binary64} {n : Int} (h : integerOfFloat x = .ok n) :
    Written.isWritable n = true := by
  unfold integerOfFloat at h
  split at h
  · split at h
    · rename_i hreach
      cases h
      refine Written.isWritable_of_lt (k := 19) (by decide) (Nat.lt_of_lt_of_le hreach ?_)
      decide
    · cases h
  · cases h
  · cases h

theorem isWritable_of_integerOfText {s : String} {n : Int} (h : integerOfText s = .ok n) :
    Written.isWritable n = true := by
  unfold integerOfText at h
  split at h
  · rename_i k hread
    cases h
    exact Lenient.isWritable_of_integer hread
  · cases h
  · cases h

theorem isWritable_ofBool (b : Bool) : Written.isWritable (if b then 1 else 0) = true := by
  cases b
  · exact Written.isWritable_of_lt (k := 1) (by decide) (by decide)
  · exact Written.isWritable_of_lt (k := 1) (by decide) (by decide)

/-- **An integer that is read has a text**, unless it was given as one that has none. -/
theorem isWritable_of_integer {v : Value} {n : Int} (hv : v.isWritable = true)
    (h : integer v = .ok n) : Written.isWritable n = true := by
  unfold integer at h
  split at h
  · cases h
    exact hv
  · cases h
    exact isWritable_ofBool _
  · exact isWritable_of_integerOfFloat h
  · exact isWritable_of_integerOfText h
  · split at h
    · exact isWritable_of_integerOfText h
    · cases h
  · cases h

theorem isWritable_of_number {v : Value} {x : Number} (hv : v.isWritable = true)
    (h : number v = .ok x) : x.toValue.isWritable = true := by
  unfold number at h
  split at h
  · cases h
    exact hv
  · cases h
    rfl
  · cases h
    exact isWritable_ofBool _
  · split at h
    · split at h
      · rename_i k hread
        cases h
        exact Lenient.isWritable_of_integer hread
      · cases h
        rfl
      · cases h
    · cases h
    · cases h
  · cases h

theorem areWritable_of_list {v : Value} {items : List Value} (hv : v.isWritable = true)
    (h : Coercion.list v = .ok items) : Value.areWritable items = true := by
  unfold Coercion.list at h
  split at h
  · cases h
    exact hv
  · cases h
    rw [Value.isWritable, List.all_eq_true] at hv
    rw [Value.areWritable_iff, List.forall_mem_map]
    exact hv
  · cases h
    rw [Value.isWritable, Bool.and_eq_true] at hv
    simp [Value.areWritable, hv.1, hv.2]
  · cases h

end Coercion

namespace Constraints

open Coercion

/-- What is read of a known key has a text if the map has. -/
theorem all_view? {α : Type} {given : List (Scalar × Value)} {k : ConstraintKey}
    {read : Value → Checked α} {p : α → Bool} (hgiven : (Value.map given).isWritable = true)
    (h : ∀ {v a}, v.isWritable = true → read v = .ok a → p a = true) :
    (view? given k read).all p = true := by
  rw [Option.all_eq_true]
  intro a ha
  obtain ⟨v, hv, -, hread⟩ := view?_eq_some.mp ha
  exact h (Value.hereditary_isWritable.field hgiven hv) hread

/-- **Constraints have texts** if the map that gave them has. -/
theorem isWritable_ofEntries {given : List (Scalar × Value)}
    (h : (Value.map given).isWritable = true) : (ofEntries given).isWritable = true := by
  have hdefault : (supplied? given .default).all Value.isWritable = true := by
    rw [Option.all_eq_true]
    exact fun v hv => Value.hereditary_isWritable.field h hv
  simp only [isWritable, ofEntries, Bool.and_eq_true]
  exact ⟨⟨⟨⟨⟨all_view? h isWritable_of_integer, all_view? h isWritable_of_integer⟩,
    all_view? h isWritable_of_number⟩, all_view? h isWritable_of_number⟩, hdefault⟩,
    all_view? h areWritable_of_list⟩

end Constraints

/-! ## 3. Values of JSON -/

/-- A scalar that JSON has. -/
def Scalar.isJson : Scalar → Bool
  | .null | .bool _ | .int _ | .float _ | .str _ => true
  | _ => false

namespace Value

mutual

/-- Whether a value is one of JSON: null, a boolean, a number, a text, a list, or a map with text
keys, through and through. -/
def isJson : Value → Bool
  | atom s => s.isJson
  | list items => areJson items
  | map entries => membersAreJson entries
  | set _ | pair .. | outer .. => false

def areJson : List Value → Bool
  | [] => true
  | v :: rest => v.isJson && areJson rest

def membersAreJson : List (Scalar × Value) → Bool
  | [] => true
  | (k, v) :: rest => k.kind = .str && v.isJson && membersAreJson rest

end

theorem areJson_iff : ∀ {items : List Value},
    areJson items = true ↔ ∀ v ∈ items, v.isJson = true
  | [] => by simp [areJson]
  | v :: rest => by
    rw [areJson, Bool.and_eq_true, areJson_iff, List.forall_mem_cons]

theorem membersAreJson_iff : ∀ {entries : List (Scalar × Value)},
    membersAreJson entries = true ↔ ∀ p ∈ entries, p.1.kind = .str ∧ p.2.isJson = true
  | [] => by simp [membersAreJson]
  | p :: rest => by
    rw [membersAreJson, Bool.and_eq_true, Bool.and_eq_true, membersAreJson_iff,
      List.forall_mem_cons, decide_eq_true_eq]

theorem isJson_obj {es : Entries String Value} :
    (obj es).isJson = true ↔ ∀ p ∈ es, p.2.isJson = true := by
  rw [obj, isJson, membersAreJson_iff, List.forall_mem_map]
  exact forall₂_congr fun p _ => and_iff_right rfl

theorem isJson_texts (names : List String) : (texts names).isJson = true := by
  rw [texts, isJson, areJson_iff, List.forall_mem_map]
  exact fun _ _ => rfl

/-- The parts of a value of JSON are values of JSON. -/
theorem hereditary_isJson : Hereditary fun v => v.isJson = true where
  nothing := rfl
  item h hv := by
    rw [isJson] at h
    exact areJson_iff.mp h _ hv
  entry h hp := by
    rw [isJson] at h
    exact (membersAreJson_iff.mp h _ hp).2

end Value

/-- A value of JSON is read as a list only if it is one. -/
theorem Coercion.eq_list_of_isJson {v : Value} {items : List Value} (hjson : v.isJson = true)
    (h : list v = .ok items) : v = .list items := by
  cases v with
  | list items' =>
    cases h
    rfl
  | atom | map | outer => cases h
  | set | pair => cases hjson

theorem Coercion.isJson_of_list {v : Value} {items : List Value} (hjson : v.isJson = true)
    (h : list v = .ok items) : (Value.list items).isJson = true :=
  eq_list_of_isJson hjson h ▸ hjson

/-! ## 4. Writing JSON -/

namespace Json

/-- The fault of something that may be too long. -/
def tooLong? (isWritable : Bool) : Option WriteFault := if isWritable then none else some .tooLong

theorem tooLong?_and (a b : Bool) : tooLong? (a && b) = (tooLong? a).or (tooLong? b) := by
  cases a <;> cases b <;> rfl

theorem fault?_writeScalar {s : Scalar} (h : s.isJson = true) :
    fault? (writeScalar s) = tooLong? s.isWritable := by
  cases s with
  | int n =>
    rw [writeScalar, integerText, Scalar.isWritable]
    cases Written.isWritable n <;> rfl
  | null | bool | float | str => rfl
  | date | moment | bytes => cases h

mutual

/-- **Writing a value of JSON fails exactly if it has no text.** -/
theorem fault?_writeAt (layout : Layout) (level : Nat) : ∀ {v : Value}, v.isJson = true →
    fault? (writeAt layout level v) = tooLong? v.isWritable
  | .atom s, h => by
    rw [writeAt, Value.isWritable]
    exact fault?_writeScalar h
  | .list items, h => by
    rw [writeAt, fault?_bind_pure, Value.isWritable]
    exact fault?_writeItems layout (level + 1) h
  | .map entries, h => by
    rw [writeAt, fault?_bind_pure, Value.isWritable]
    exact fault?_writeMembers layout (level + 1) h

theorem fault?_writeItems (layout : Layout) (level : Nat) : ∀ {items : List Value},
    Value.areJson items = true →
    fault? (writeItems layout level items) = tooLong? (Value.areWritable items)
  | [], _ => by
    rw [writeItems, Value.areWritable]
    rfl
  | v :: rest, h => by
    rw [Value.areJson, Bool.and_eq_true] at h
    rw [writeItems, Value.areWritable, tooLong?_and, ← fault?_writeAt layout level h.1,
      ← fault?_writeItems layout level h.2]
    exact fault?_bind fun _ _ => fault?_bind_pure _ _

theorem fault?_writeMembers (layout : Layout) (level : Nat) :
    ∀ {entries : List (Scalar × Value)}, Value.membersAreJson entries = true →
    fault? (writeMembers layout level entries) = tooLong? (Value.membersAreWritable entries)
  | [], _ => by
    rw [writeMembers, Value.membersAreWritable]
    rfl
  | (.str s, v) :: rest, h => by
    rw [Value.membersAreJson, Bool.and_eq_true, Bool.and_eq_true] at h
    have hkey : (Scalar.str s).isWritable = true := rfl
    rw [writeMembers, Value.membersAreWritable, hkey, Bool.true_and, tooLong?_and,
      ← fault?_writeAt layout level h.1.2, ← fault?_writeMembers layout level h.2]
    exact fault?_bind (x := writeAt layout level v) fun _ _ => fault?_bind_pure _ _

end

theorem fault?_write (layout : Layout) {v : Value} (h : v.isJson = true) :
    fault? (write layout v) = tooLong? v.isWritable :=
  fault?_writeAt layout 0 h

end Json

end Schemata
