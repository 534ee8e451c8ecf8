import Schemata.Proofs.Document
import Schemata.Proofs.Provenance
/-!
# Maps under their wire names

Constraints and relationships keep the map that they were read from, with every key under its wire
name.  A key may be given under another name as well, and what is read counts the wire name first,
while what is kept counts the last entry.

* `Entries.rename`: the map that is kept.  `Entries.rename_rename`: keeping it again changes
  nothing.
* `Entries.rename_eq_self_iff`: it is the given map exactly if that has wire names alone.
* `Coercion.lookup_rename_eq_field?`: where a field is given under one name at most, what is kept
  under its wire name is what is read.
* `Coercion.field?_rename`: so the same is read from what is kept.
-/

namespace Schemata

/-! ## 1. Other names for keys -/

namespace Entries

variable {κ ν : Type} [BEq κ] {name : κ → κ}

/-- A map with its keys under other names; of two keys with one name the later value counts. -/
def rename (name : κ → κ) (es : Entries κ ν) : Entries κ ν :=
  ofList (es.map fun (k, v) => (name k, v))

variable [LawfulBEq κ]

theorem keys_rename (name : κ → κ) (es : Entries κ ν) :
    keys (rename name es) = ((keys es).map name).eraseDups := by
  rw [rename, keys_ofList, keys, List.map_map, List.map_map]
  rfl

/-- Under a name stands the value of the last entry that has it. -/
theorem lookup_rename (name : κ → κ) (k : κ) (es : Entries κ ν) :
    (rename name es).lookup k = (es.reverse.find? fun p => k == name p.1).map Prod.snd := by
  rw [rename, lookup_ofList_map]

theorem mem_of_lookup_rename {k : κ} {v : ν} {es : Entries κ ν}
    (h : (rename name es).lookup k = some v) : ∃ k', name k' = k ∧ (k', v) ∈ es := by
  rw [lookup_rename] at h
  obtain ⟨p, hfind, rfl⟩ := Option.map_eq_some_iff.mp h
  have hname : (k == name p.1) = true := by simpa using List.find?_some hfind
  exact ⟨p.1, (eq_of_beq hname).symm, List.mem_reverse.mp (List.mem_of_find?_eq_some hfind)⟩

theorem isSome_lookup_rename (name : κ → κ) {k : κ} {v : ν} {es : Entries κ ν} (h : (k, v) ∈ es) :
    ((rename name es).lookup (name k)).isSome = true := by
  rw [lookup_isSome_iff, keys_rename, List.mem_eraseDups]
  exact List.mem_map_of_mem (List.mem_map_of_mem h)

/-- Keys that have their names already keep the map as it is. -/
theorem rename_eq_self {es : Entries κ ν} (hkeys : (keys es).Nodup)
    (h : ∀ k ∈ keys es, name k = k) : rename name es = es := by
  have hmap : es.map (fun (k, v) => (name k, v)) = es := by
    conv_rhs => rw [← List.map_id es]
    refine List.map_congr_left fun p hp => ?_
    exact Prod.ext (h p.1 (List.mem_map_of_mem hp)) rfl
  rw [rename, hmap, ofList_of_nodup hkeys]

/-- A key of a renamed map is a name. -/
theorem name_of_mem_keys_rename (hname : ∀ k, name (name k) = name k) {es : Entries κ ν} {k : κ}
    (h : k ∈ keys (rename name es)) : name k = k := by
  rw [keys_rename, List.mem_eraseDups] at h
  obtain ⟨k', -, rfl⟩ := List.mem_map.mp h
  exact hname k'

/-- **Renaming again changes nothing.** -/
theorem rename_rename (hname : ∀ k, name (name k) = name k) (es : Entries κ ν) :
    rename name (rename name es) = rename name es := by
  refine rename_eq_self ?_ fun k hk => name_of_mem_keys_rename hname hk
  rw [keys_rename]
  exact eraseDups_nodup _

/-- **Renaming keeps a map** exactly if every key has its name already. -/
theorem rename_eq_self_iff (hname : ∀ k, name (name k) = name k) {es : Entries κ ν}
    (hkeys : (keys es).Nodup) : rename name es = es ↔ ∀ k ∈ keys es, name k = k := by
  constructor
  · intro h k hk
    rw [← h] at hk
    exact name_of_mem_keys_rename hname hk
  · exact rename_eq_self hkeys

end Entries

/-! ## 2. Maps with text keys -/

/-- The entries of a map with text keys. -/
def Value.textMembers (es : Entries String Value) : List (Scalar × Value) :=
  es.map fun (k, v) => (.str k, v)

namespace Value

theorem obj_eq (es : Entries String Value) : obj es = map (textMembers es) := rfl

theorem member?_textMembers (key : String) (es : Entries String Value) :
    member? key (textMembers es) = es.lookup key :=
  member?_obj key es

theorem keys_textMembers (es : Entries String Value) :
    Entries.keys (textMembers es) = (Entries.keys es).map Scalar.str := by
  rw [Entries.keys, Entries.keys, textMembers, List.map_map, List.map_map]
  rfl

end Value

namespace Coercion

variable {given : List (Scalar × Value)} {v : Value}

theorem textEntries_textMembers : ∀ es : Entries String Value,
    textEntries (Value.textMembers es) = es
  | [] => rfl
  | p :: rest => congrArg (p :: ·) (textEntries_textMembers rest)

end Coercion

/-- A map with text keys tells its entries. -/
theorem Value.obj_inj {es es' : Entries String Value} : obj es = obj es' ↔ es = es' := by
  constructor
  · intro h
    have hentries := congrArg Coercion.textEntries (Value.map.inj h)
    rwa [← textMembers, ← textMembers, Coercion.textEntries_textMembers,
      Coercion.textEntries_textMembers] at hentries
  · rintro rfl
    rfl

namespace Coercion

variable {given : List (Scalar × Value)} {v : Value}

theorem keyComplaints_textMembers : ∀ es : Entries String Value,
    keyComplaints (Value.textMembers es) = []
  | [] => rfl
  | _ :: rest => keyComplaints_textMembers rest

/-- A map without complaints about its keys has text keys alone. -/
theorem textMembers_textEntries : ∀ {given : List (Scalar × Value)}, keyComplaints given = [] →
    Value.textMembers (textEntries given) = given
  | [], _ => rfl
  | (.str s, v) :: _, h =>
    congrArg (fun es => (Scalar.str s, v) :: es) (textMembers_textEntries h)
  | (.null, _) :: _, h | (.bool _, _) :: _, h | (.int _, _) :: _, h | (.float _, _) :: _, h
  | (.date _, _) :: _, h | (.moment _, _) :: _, h | (.bytes _, _) :: _, h => by cases h

theorem mem_textEntries {key : String} :
    (key, v) ∈ textEntries given ↔ (Scalar.str key, v) ∈ given := by
  unfold textEntries
  rw [List.mem_filterMap]
  constructor
  · rintro ⟨⟨s, w⟩, hmem, h⟩
    cases s with
    | str s =>
      cases h
      exact hmem
    | null | bool | int | float | date | moment | bytes => cases h
  · exact fun hmem => ⟨_, hmem, rfl⟩

/-- The keys of the text entries are the text keys. -/
theorem mem_keys_textEntries {key : String} :
    key ∈ Entries.keys (textEntries given) ↔ Scalar.str key ∈ Entries.keys given := by
  simp only [Entries.keys, List.mem_map, Prod.exists, exists_and_right, exists_eq_right,
    mem_textEntries]

theorem keys_textEntries_nodup (hkeys : (Entries.keys given).Nodup)
    (htexts : keyComplaints given = []) : (Entries.keys (textEntries given)).Nodup := by
  rw [← textMembers_textEntries htexts, Value.keys_textMembers] at hkeys
  exact hkeys.of_map _

/-! ## 3. Fields under one of their names -/

/-- A field under one of its names. -/
def Given (given : List (Scalar × Value)) (names : List String) (v : Value) : Prop :=
  ∃ n ∈ names, (Scalar.str n, v) ∈ given

/-- A field that is given under one of its names at most. -/
def NamedOnce (given : List (Scalar × Value)) (names : List String) : Prop :=
  ∀ n ∈ names, ∀ n' ∈ names, Scalar.str n ∈ Entries.keys given →
    Scalar.str n' ∈ Entries.keys given → n = n'

variable {names : List String}

theorem field?_single (name : String) (given : List (Scalar × Value)) :
    field? given [name] = Value.member? name given := by
  rw [field?, List.findSome?_cons]
  cases Value.member? name given <;> rfl

/-- The first name counts. -/
theorem field?_of_member? {name : String} (h : Value.member? name given = some v) :
    field? given (name :: names) = some v := by
  rw [field?, List.findSome?_cons, h]

theorem given_of_field? (h : field? given names = some v) : Given given names v := by
  obtain ⟨n, hn, hmember⟩ := List.exists_of_findSome?_eq_some h
  exact ⟨n, hn, Entries.mem_of_lookup hmember⟩

theorem field?_isSome (h : Given given names v) : (field? given names).isSome = true := by
  obtain ⟨n, hn, hmem⟩ := h
  rw [field?, List.findSome?_isSome_iff]
  exact ⟨n, hn, Entries.lookup_isSome_iff.mpr (List.mem_map_of_mem hmem)⟩

/-- A field that is given once has one value. -/
theorem Given.eq_of_once {v' : Value} (hkeys : (Entries.keys given).Nodup)
    (honce : NamedOnce given names) (h : Given given names v) (h' : Given given names v') :
    v = v' := by
  obtain ⟨n, hn, hmem⟩ := h
  obtain ⟨n', hn', hmem'⟩ := h'
  obtain rfl := honce n hn n' hn' (List.mem_map_of_mem hmem) (List.mem_map_of_mem hmem')
  have hlookup := Entries.lookup_of_mem hkeys hmem
  rw [Entries.lookup_of_mem hkeys hmem'] at hlookup
  exact (Option.some.inj hlookup).symm

section Renamed

variable {name : String → String} {wireName : String}

/-- **What is kept is what is read**, if a field was not given twice. -/
theorem lookup_rename_eq_field? (hkeys : (Entries.keys given).Nodup)
    (hnames : ∀ n, name n = wireName ↔ n ∈ names) (honce : NamedOnce given names) :
    (Entries.rename name (textEntries given)).lookup wireName = field? given names := by
  have hgiven : ∀ {v}, (Entries.rename name (textEntries given)).lookup wireName = some v →
      Given given names v := fun h => by
    obtain ⟨n, hn, hmem⟩ := Entries.mem_of_lookup_rename h
    exact ⟨n, (hnames n).mp hn, mem_textEntries.mp hmem⟩
  -- Where one of the two finds a value the other finds one, and no two were given.
  cases hkept : (Entries.rename name (textEntries given)).lookup wireName with
  | none =>
    cases hread : field? given names with
    | none => rfl
    | some v =>
      obtain ⟨n, hn, hmem⟩ := given_of_field? hread
      have hsome := Entries.isSome_lookup_rename name (mem_textEntries.mpr hmem)
      rw [(hnames n).mpr hn, hkept] at hsome
      cases hsome
  | some v =>
    obtain ⟨v', hv'⟩ := Option.isSome_iff_exists.mp (field?_isSome (hgiven hkept))
    rw [hv', (hgiven hkept).eq_of_once hkeys honce (given_of_field? hv')]

/-- What is kept has no name of a field but the wire name. -/
theorem lookup_rename_of_ne (hname : ∀ n, name (name n) = name n)
    (hnames : ∀ n, name n = wireName ↔ n ∈ names) {n : String} (hn : n ∈ names)
    (hne : n ≠ wireName) (es : Entries String Value) :
    (Entries.rename name es).lookup n = none := by
  refine Entries.lookup_of_not_mem fun hmem => hne ?_
  rw [← Entries.name_of_mem_keys_rename hname hmem]
  exact (hnames n).mpr hn

/-- **What is read from what is kept** stands there under the wire name. -/
theorem field?_textMembers_rename (hname : ∀ n, name (name n) = name n)
    (hnames : ∀ n, name n = wireName ↔ n ∈ names) (hwire : wireName ∈ names)
    (es : Entries String Value) :
    field? (Value.textMembers (Entries.rename name es)) names
      = (Entries.rename name es).lookup wireName := by
  have hother : ∀ n ∈ names, n ≠ wireName →
      Value.member? n (Value.textMembers (Entries.rename name es)) = none := fun n hn hne => by
    rw [Value.member?_textMembers, lookup_rename_of_ne hname hnames hn hne]
  rw [← Value.member?_textMembers]
  cases hlookup : Value.member? wireName (Value.textMembers (Entries.rename name es)) with
  | none =>
    rw [field?, List.findSome?_eq_none_iff]
    intro n hn
    by_cases hne : n = wireName
    · rw [hne, hlookup]
    · exact hother n hn hne
  | some v =>
    obtain ⟨w, hw⟩ := Option.isSome_iff_exists.mp (field?_isSome
      ⟨wireName, hwire, Entries.mem_of_lookup hlookup⟩)
    obtain ⟨n, hn, hmember⟩ := List.exists_of_findSome?_eq_some hw
    by_cases hne : n = wireName
    · rw [hw, ← hmember, hne, hlookup]
    · rw [hother n hn hne] at hmember
      cases hmember

/-- **The same is read again** from what is kept, if a field was not given twice. -/
theorem field?_rename (hname : ∀ n, name (name n) = name n)
    (hnames : ∀ n, name n = wireName ↔ n ∈ names) (hwire : wireName ∈ names)
    (hkeys : (Entries.keys given).Nodup) (honce : NamedOnce given names) :
    field? (Value.textMembers (Entries.rename name (textEntries given))) names
      = field? given names := by
  rw [field?_textMembers_rename hname hnames hwire, lookup_rename_eq_field? hkeys hnames honce]

end Renamed

end Coercion

end Schemata
