import Schemata.Diagram.Marks
import Schemata.Proofs.Wire
/-!
# The flags of a key

A field may be the primary key of its entity, and may count itself up.  The diagrams read either
flag from the typed view of the constraints; what goes on the wire keeps it as it was supplied, and
there it counts as given whenever its value is truthy.

* `KeyFlag.tag_mem`, `KeyFlag.remark_mem`: the diagrams and the report agree on both flags.
* `KeyFlag.isSet_iff`: a flag is set if its value reads as true.
* `KeyFlag.onWire_iff`: it goes on the wire if the last value given for it is truthy.
* `Coercion.isTruthy_of_boolean`: what reads as true is truthy.
* `KeyFlag.settled`: the two agree, for a flag that was not given twice, unless a value is truthy
  that does not read as true.
-/

namespace Schemata

open Coercion

/-! ## 1. What the diagrams show -/

/-- A flag of a key. -/
inductive KeyFlag
  | primary | autoIncrement
  deriving DecidableEq, Repr

namespace KeyFlag

/-- The constraint that gives the flag. -/
def key : KeyFlag → ConstraintKey
  | primary => .primary
  | autoIncrement => .autoIncrement

/-- The flag in the tags of a field. -/
def tag : KeyFlag → String
  | primary => "PK"
  | autoIncrement => "AUTO_INCREMENT"

/-- The flag in the constraints for a reader. -/
def remark : KeyFlag → String
  | primary => "Primary Key"
  | autoIncrement => "Auto Increment"

/-- The flag at the end of a column. -/
def suffix : KeyFlag → String
  | primary => " PRIMARY KEY"
  | autoIncrement => " AUTO_INCREMENT"

/-- Whether a field has the flag. -/
def isSet : KeyFlag → Field → Bool
  | primary, f => f.isPrimary
  | autoIncrement, f => f.isAutoIncrement

theorem tag_mem {k : KeyFlag} {f : Field} : k.tag ∈ Diagram.tags f ↔ k.isSet f = true := by
  cases k <;> simp [Diagram.tags, tag, isSet]

/-- A labelled part of the constraints is told from a text by its first character. -/
theorem not_mem_part {s label : String} (h : s.toList.head? ≠ label.toList.head?)
    (hlabel : label.toList ≠ []) (part : Option String) : s ∉ (part.map (label ++ ·)).toList := by
  intro hmem
  obtain ⟨text, -, rfl⟩ := Option.map_eq_some_iff.mp (Option.mem_toList.mp hmem)
  rw [String.toList_append, List.head?_append_of_ne_nil _ hlabel] at h
  exact h rfl

theorem remark_mem {k : KeyFlag} {f : Field} :
    k.remark ∈ f.rules.annotationsOf ↔ k.isSet f = true := by
  have hparts : ∀ label ∈ ["Max Length: ", "Min Length: ", "Min Value: ", "Max Value: ",
      "Default: ", "Options: "], ∀ part : Option String,
      k.remark ∉ (part.map (label ++ ·)).toList := by
    intro label hlabel part
    refine not_mem_part ?_ ?_ part
    · revert label
      cases k <;> decide
    · revert label
      decide
  simp only [List.forall_mem_cons] at hparts
  obtain ⟨hmax, hmin, hlow, hhigh, hdefault, hchoices, -⟩ := hparts
  unfold Constraints.annotationsOf Constraints.annotations
  simp only [List.mem_append, hmax, hmin, hlow, hhigh, hdefault, hchoices, or_false]
  cases k <;> simp [remark, isSet, Field.isPrimary, Field.isAutoIncrement]

theorem keyMark_eq {f : Field} : Diagram.keyMark f = "* " ↔ primary.isSet f = true := by
  change _ ↔ f.isPrimary = true
  unfold Diagram.keyMark
  cases f.isPrimary <;> cases f.isUnique <;> cases f.required <;> decide

end KeyFlag

/-! ## 2. What reads as true -/

namespace Coercion

theorem isTruthy_of_boolOfInt {n : Int} (h : boolOfInt n = .ok true) : n = 1 := by
  unfold boolOfInt at h
  split at h
  · cases h
  · split at h
    · assumption
    · split at h <;> cases h

theorem isZero_of_toInt? {x : Binary64} {n : Int} (h : x.toInt? = some n) (hn : n ≠ 0) :
    x.isZero = false := by
  cases x with
  | nan | infinite => rfl
  | finite negative mantissa exponent =>
    have hmantissa : mantissa ≠ 0 := by
      rintro rfl
      have hnum : (Binary64.magnitude 0 exponent).1 = 0 := by
        unfold Binary64.magnitude
        split
        · exact Nat.zero_mul _
        · rfl
      simp [Binary64.toInt?, Binary64.toRatio?, hnum] at h
      exact hn h.symm
    simpa [Binary64.isZero] using hmantissa

/-- A word for a boolean is not empty. -/
theorem ne_empty_of_boolWords {s : String} {b : Bool}
    (h : boolWords.lookup (Text.lowerAscii s) = some b) : s ≠ "" := by
  rintro rfl
  exact absurd h (by decide +revert)

/-- A scalar that spells a text other than the empty one is truthy. -/
theorem isTruthy_of_spelled? {s : Scalar} {t : String} (h : spelled? s = some t) (ht : t ≠ "") :
    (Value.atom s).isTruthy = true := by
  unfold spelled? at h
  split at h
  · cases h
    simpa [Value.isTruthy] using ht
  · rename_i bs
    cases bs with
    | nil =>
      exact absurd (Option.some.inj h).symm ht
    | cons b rest => rfl
  · cases h

/-- **What reads as true is truthy.** -/
theorem isTruthy_of_boolean {v : Value} (h : boolean v = .ok true) : v.isTruthy = true := by
  unfold boolean at h
  split at h
  · cases h
    rfl
  · rw [Value.isTruthy, isTruthy_of_boolOfInt h]
    rfl
  · split at h
    · rename_i x n hn
      unfold integerOfFloat at hn
      split at hn
      · rename_i k hk
        split at hn
        · cases hn
          rw [isTruthy_of_boolOfInt h] at hk
          rw [Value.isTruthy, isZero_of_toInt? hk (by decide)]
          rfl
        · cases hn
      · cases hn
      · cases hn
    · cases h
  · split at h
    · cases h
    · cases h
    · rename_i b hb
      obtain ⟨t, ht, hword⟩ := Option.bind_eq_some_iff.mp hb
      exact isTruthy_of_spelled? ht (ne_empty_of_boolWords hword)
    · cases h
  · cases h

end Coercion

/-! ## 3. What is supplied and what goes on the wire -/

namespace Value

mutual

/-- Whether no map in a value has a key twice. -/
def hasDistinctKeys : Value → Bool
  | list items => haveDistinctKeys items
  | map entries => decide (Entries.keys entries).Nodup && membersHaveDistinctKeys entries
  | pair first second => first.hasDistinctKeys && second.hasDistinctKeys
  | atom _ | set _ | outer .. => true

def haveDistinctKeys : List Value → Bool
  | [] => true
  | v :: rest => v.hasDistinctKeys && haveDistinctKeys rest

def membersHaveDistinctKeys : List (Scalar × Value) → Bool
  | [] => true
  | (_, v) :: rest => v.hasDistinctKeys && membersHaveDistinctKeys rest

end

theorem haveDistinctKeys_iff : ∀ {items : List Value},
    haveDistinctKeys items = true ↔ ∀ v ∈ items, v.hasDistinctKeys = true
  | [] => by simp [haveDistinctKeys]
  | v :: rest => by
    rw [haveDistinctKeys, Bool.and_eq_true, haveDistinctKeys_iff, List.forall_mem_cons]

theorem membersHaveDistinctKeys_iff : ∀ {entries : List (Scalar × Value)},
    membersHaveDistinctKeys entries = true ↔ ∀ p ∈ entries, p.2.hasDistinctKeys = true
  | [] => by simp [membersHaveDistinctKeys]
  | p :: rest => by
    rw [membersHaveDistinctKeys, Bool.and_eq_true, membersHaveDistinctKeys_iff,
      List.forall_mem_cons]

theorem hasDistinctKeys_map {entries : List (Scalar × Value)} :
    (map entries).hasDistinctKeys = true ↔
      (Entries.keys entries).Nodup ∧ ∀ p ∈ entries, p.2.hasDistinctKeys = true := by
  rw [hasDistinctKeys, Bool.and_eq_true, decide_eq_true_eq, membersHaveDistinctKeys_iff]

/-- The parts of a value without repeated keys have none. -/
theorem hereditary_hasDistinctKeys : Hereditary fun v => v.hasDistinctKeys = true where
  nothing := rfl
  item h hv := by
    rw [hasDistinctKeys] at h
    exact haveDistinctKeys_iff.mp h _ hv
  entry h hp := (hasDistinctKeys_map.mp h).2 _ hp

end Value

namespace ConstraintKey

theorem mem_all (k : ConstraintKey) : k ∈ all := by
  cases k <;> decide

/-- Different keys have different names. -/
theorem eq_of_mem_names {n : String} {k k' : ConstraintKey} (h : n ∈ k.names) (h' : n ∈ k'.names) :
    k = k' := by
  have hall : ∀ k ∈ all, ∀ k' ∈ all, ∀ n ∈ k.names, n ∈ k'.names → k = k' := by decide +kernel
  exact hall k k.mem_all k' k'.mem_all n h h'

theorem wireName_mem_names (k : ConstraintKey) : k.wireName ∈ k.names := by
  cases k <;> decide

theorem fieldName_mem_names (k : ConstraintKey) : k.fieldName ∈ k.names := by
  cases k <;> decide

theorem mem_names {n : String} {k : ConstraintKey} (h : n ∈ k.names) :
    n = k.wireName ∨ n = k.fieldName := by
  unfold names at h
  split at h
  · exact Or.inl (List.mem_singleton.mp h)
  · simpa using h

/-- A supplied key has the wire name of the known key whose name it is. -/
theorem wireNameOf_eq {key : String} {k : ConstraintKey} :
    wireNameOf key = k.wireName ↔ key ∈ k.names := by
  unfold wireNameOf
  cases hfind : all.find? fun k => k.fieldName = key with
  | none =>
    have hnone : ∀ k : ConstraintKey, k.fieldName ≠ key := fun k => by
      simpa using List.find?_eq_none.mp hfind k k.mem_all
    constructor
    · rintro rfl
      exact k.wireName_mem_names
    · intro h
      exact (mem_names h).resolve_right fun e => hnone k e.symm
  | some k' =>
    have hname : k'.fieldName = key := by simpa using List.find?_some hfind
    subst hname
    constructor
    · intro h
      have hk : k' = k := eq_of_mem_names k'.wireName_mem_names
        ((show k'.wireName = k.wireName from h) ▸ k.wireName_mem_names)
      exact hk ▸ k'.fieldName_mem_names
    · intro h
      rw [eq_of_mem_names k'.fieldName_mem_names h]
      rfl

end ConstraintKey

namespace Constraints

variable {given : List (Scalar × Value)} {k : ConstraintKey}

theorem wireOf_eq (entries : Entries String Value) :
    wireOf entries = Entries.rename ConstraintKey.wireNameOf entries := rfl

/-- A known key that is given under one name at most. -/
def GivenOnce (given : List (Scalar × Value)) (k : ConstraintKey) : Prop :=
  ∀ n ∈ k.names, ∀ n' ∈ k.names, Scalar.str n ∈ Entries.keys given →
    Scalar.str n' ∈ Entries.keys given → n = n'

/-- The value of the last entry under one of the names of a known key. -/
def lastGiven? (given : List (Scalar × Value)) (k : ConstraintKey) : Option Value :=
  ((textEntries given).reverse.find? fun p => k.names.contains p.1).map Prod.snd

/-- **On the wire** a known key has the value of the last entry under one of its names. -/
theorem lookup_wireOf (given : List (Scalar × Value)) (k : ConstraintKey) :
    (wireOf (textEntries given)).lookup k.wireName = lastGiven? given k := by
  have hname : ∀ p : String × Value,
      (k.wireName == ConstraintKey.wireNameOf p.1) = k.names.contains p.1 := fun p => by
    rw [Bool.eq_iff_iff, beq_iff_eq, List.contains_iff_mem, eq_comm, ConstraintKey.wireNameOf_eq]
  rw [wireOf_eq, Entries.lookup_rename, lastGiven?]
  simp only [hname]

/-- What is read of a known key is its last value, if it was not given twice. -/
theorem lastGiven?_eq_supplied? (hkeys : (Entries.keys given).Nodup) (honce : GivenOnce given k) :
    lastGiven? given k = supplied? given k := by
  rw [← lookup_wireOf, wireOf_eq]
  exact lookup_rename_eq_field? hkeys (fun _ => ConstraintKey.wireNameOf_eq) honce

end Constraints

/-! ## 4. Flags on the wire -/

namespace KeyFlag

open Constraints (GivenOnce lastGiven? ofEntries supplied?)

/-- Whether a flag of a field counts as given on the wire. -/
def onWire (k : KeyFlag) (f : Field) : Bool :=
  (f.rules.wire.lookup k.key.wireName).any Value.isTruthy

variable {k : KeyFlag} {f : Field} {given : List (Scalar × Value)}

/-- A flag is set if its value reads as true. -/
theorem isSet_iff (h : f.rules = ofEntries given) :
    k.isSet f = true ↔ ∃ v, supplied? given k.key = some v ∧ boolean v = .ok true := by
  have hview : ∀ key, (Constraints.view? given key boolean).getD false = true ↔
      ∃ v, supplied? given key = some v ∧ boolean v = .ok true := fun key => by
    have hnull : boolean .null ≠ .ok true := by simp [boolean, Scalar.kind, spelled?, Checked.fail]
    rw [Option.getD_eq_iff, Constraints.view?_eq_some]
    constructor
    · rintro (⟨v, hv, -, htrue⟩ | ⟨-, hfalse⟩)
      · exact ⟨v, hv, htrue⟩
      · cases hfalse
    · rintro ⟨v, hv, htrue⟩
      exact Or.inl ⟨v, hv, fun e => hnull (e ▸ htrue), htrue⟩
  cases k with
  | primary =>
    rw [isSet, Field.isPrimary, h]
    exact hview .primary
  | autoIncrement =>
    rw [isSet, Field.isAutoIncrement, h]
    exact hview .autoIncrement

theorem givenOnce_primary (given : List (Scalar × Value)) : GivenOnce given .primary := by
  intro n hn n' hn' _ _
  simp only [ConstraintKey.names, ConstraintKey.fieldName, if_true, List.mem_singleton] at hn hn'
  rw [hn, hn']

/-- A flag goes on the wire if the last value given for it is truthy. -/
theorem onWire_iff (h : f.rules = ofEntries given) :
    k.onWire f = true ↔ ∃ v, lastGiven? given k.key = some v ∧ v.isTruthy = true := by
  have hwire : f.rules.wire = Constraints.wireOf (textEntries given) := by
    rw [h]
    rfl
  rw [onWire, hwire, Constraints.lookup_wireOf, Option.any_eq_true]

/-- What the diagrams show of a flag, what goes on the wire, and when they agree. -/
structure Settled (k : KeyFlag) (f : Field) (given : List (Scalar × Value)) : Prop where
  tag : k.tag ∈ Diagram.tags f ↔ k.isSet f = true
  remark : k.remark ∈ f.rules.annotationsOf ↔ k.isSet f = true
  reads : k.isSet f = true ↔ ∃ v, supplied? given k.key = some v ∧ boolean v = .ok true
  wire : k.onWire f = true ↔ ∃ v, lastGiven? given k.key = some v ∧ v.isTruthy = true
  /-- The value that goes on the wire is the one that is read, if there is only one. -/
  once : GivenOnce given k.key → lastGiven? given k.key = supplied? given k.key
  /-- What the diagrams show goes on the wire. -/
  shown : GivenOnce given k.key → k.isSet f = true → k.onWire f = true
  /-- The two agree exactly if no value is truthy that does not read as true. -/
  agree : GivenOnce given k.key → ((k.onWire f = true ↔ k.isSet f = true) ↔
    ∀ v, supplied? given k.key = some v → v.isTruthy = true → boolean v = .ok true)

/-- **Both flags are settled** by the map that gave the constraints. -/
theorem settled (k : KeyFlag) (h : f.rules = ofEntries given)
    (hkeys : (Entries.keys given).Nodup) : k.Settled f given := by
  have hreads : k.isSet f = true ↔ _ := isSet_iff h
  have hwire : k.onWire f = true ↔ _ := onWire_iff h
  have honce : GivenOnce given k.key → lastGiven? given k.key = supplied? given k.key :=
    Constraints.lastGiven?_eq_supplied? hkeys
  have hshown : GivenOnce given k.key → k.isSet f = true → k.onWire f = true := fun hone hset => by
    obtain ⟨v, hv, htrue⟩ := hreads.mp hset
    exact hwire.mpr ⟨v, (honce hone).trans hv, isTruthy_of_boolean htrue⟩
  refine ⟨tag_mem, remark_mem, hreads, hwire, honce, hshown, fun hone => ⟨?_, ?_⟩⟩
  · intro hagree v hv htruthy
    obtain ⟨v', hv', htrue⟩ := hreads.mp
      (hagree.mp (hwire.mpr ⟨v, (honce hone).trans hv, htruthy⟩))
    rw [hv] at hv'
    exact Option.some.inj hv' ▸ htrue
  · intro hall
    refine ⟨fun hset => ?_, hshown hone⟩
    obtain ⟨v, hv, htruthy⟩ := hwire.mp hset
    rw [honce hone] at hv
    exact hreads.mpr ⟨v, hv, hall v hv htruthy⟩

end KeyFlag

end Schemata
