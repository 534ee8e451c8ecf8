import Schemata.JsonSchema
import Schemata.Proofs.KeyFlags
/-!
# Relationships in the schema document

The schema document has the relationships of a model as they were given, with every key under its
wire name.  The ends of a relationship are read apart from that, the wire name counting before the
other one.  The two part where an end is given under both of its names.

* `Relationship.read_eq_ok`: what a value must have been to be read as a relationship.
* `Relationship.Echo`: what becomes of a relationship in the document.
* `relationships_echoed`: the document has a relationship just as it was given, with the names that
  its ends are resolved by, exactly if no key of it is one of the other names.
-/

namespace Schemata

open Coercion

/-! ## 1. One relationship -/

namespace Relationship

theorem read_eq_ok {v : Value} {r : Relationship} :
    Relationship.read v = .ok r ↔ ∃ es, v = .map es ∧
      Coercion.required es ["from", "source"] text = .ok r.source ∧
      Coercion.required es ["to", "target"] text = .ok r.target ∧
      optionalField es ["type"] none (optional text) = .ok r.type ∧
      optionalField es ["description"] none (optional text) = .ok r.description ∧
      r.wire = wireOf es ∧ keyComplaints es = [] := by
  unfold Relationship.read
  simp only [record_eq_ok, Checked.withMore_eq_ok, Checked.and_eq_ok]
  constructor
  · rintro ⟨es, rfl, ⟨_, _, ⟨_, _, ⟨_, _, ⟨_, _, ⟨_, _, ⟨⟩, hsource, rfl⟩, htarget, rfl⟩, htype,
      rfl⟩, hdescription, rfl⟩, ⟨⟩, rfl⟩, hkeys⟩
    exact ⟨es, rfl, hsource, htarget, htype, hdescription, rfl, hkeys⟩
  · rintro ⟨es, rfl, hsource, htarget, htype, hdescription, hwire, hkeys⟩
    obtain ⟨source, target, type, description, wire⟩ := r
    obtain rfl : wire = wireOf es := hwire
    exact ⟨es, rfl, ⟨_, _, ⟨_, _, ⟨_, _, ⟨_, _, ⟨_, _, rfl, hsource, rfl⟩, htarget, rfl⟩, htype,
      rfl⟩, hdescription, rfl⟩, rfl, rfl⟩, hkeys⟩

theorem wireOf_eq (given : List (Scalar × Value)) :
    wireOf given = Entries.rename wireNameOf (textEntries given) := rfl

theorem wireNameOf_wireNameOf (key : String) : wireNameOf (wireNameOf key) = wireNameOf key := by
  unfold wireNameOf
  split
  · rfl
  · split <;> rfl

/-- A key is under its wire name unless it is one of the other names. -/
theorem wireNameOf_eq_self {key : String} :
    wireNameOf key = key ↔ key ≠ "source" ∧ key ≠ "target" := by
  unfold wireNameOf
  constructor
  · intro h
    constructor <;> rintro rfl <;> exact absurd h (by decide)
  · rintro ⟨hsource, htarget⟩
    rw [if_neg hsource, if_neg htarget]

/-- A relationship that is kept just as it was given, with the names of its ends under the wire
names. -/
structure Verbatim (given : List (Scalar × Value)) (r : Relationship) (echo : Value) : Prop where
  same : echo = .map given
  source : ∃ v, echo.get? "from" = some v ∧ text v = .ok r.source
  target : ∃ v, echo.get? "to" = some v ∧ text v = .ok r.target

/-- What becomes of a relationship: the map that is kept, and the names at its ends. -/
structure Echo (given : List (Scalar × Value)) (r : Relationship) (echo : Value) : Prop where
  kept : echo = .obj (Entries.rename wireNameOf (textEntries given))
  source : ∃ v, field? given ["from", "source"] = some v ∧ text v = .ok r.source
  target : ∃ v, field? given ["to", "target"] = some v ∧ text v = .ok r.target
  verbatim : Verbatim given r echo ↔
    Scalar.str "source" ∉ Entries.keys given ∧ Scalar.str "target" ∉ Entries.keys given

/-- A name that is not given is passed over. -/
theorem field?_of_not_mem {given : List (Scalar × Value)} {wireName other : String}
    (h : Scalar.str other ∉ Entries.keys given) :
    field? given [wireName, other] = Value.member? wireName given := by
  have hother : Value.member? other given = none := Entries.lookup_of_not_mem h
  rw [field?, List.findSome?_cons, List.findSome?_cons, hother]
  cases Value.member? wireName given <;> rfl

/-- The map that is kept is the given one exactly if it has none of the other names. -/
theorem kept_eq_iff {given : List (Scalar × Value)} (hkeys : (Entries.keys given).Nodup)
    (htexts : keyComplaints given = []) :
    Value.obj (Entries.rename wireNameOf (textEntries given)) = .map given ↔
      Scalar.str "source" ∉ Entries.keys given ∧ Scalar.str "target" ∉ Entries.keys given := by
  have hgiven : Value.map given = .obj (textEntries given) := by
    rw [Value.obj_eq, textMembers_textEntries htexts]
  rw [hgiven, Value.obj_inj, Entries.rename_eq_self_iff wireNameOf_wireNameOf
    (keys_textEntries_nodup hkeys htexts), ← mem_keys_textEntries, ← mem_keys_textEntries]
  constructor
  · intro h
    constructor <;> intro hin
    · exact (wireNameOf_eq_self.mp (h _ hin)).1 rfl
    · exact (wireNameOf_eq_self.mp (h _ hin)).2 rfl
  · rintro ⟨hsource, htarget⟩ key hkey
    exact wireNameOf_eq_self.mpr ⟨fun e => hsource (e ▸ hkey), fun e => htarget (e ▸ hkey)⟩

/-- **What becomes of one relationship.** -/
theorem echo_of_read {given : List (Scalar × Value)} {r : Relationship}
    (hkeys : (Entries.keys given).Nodup) (hr : Relationship.read (.map given) = .ok r) :
    Echo given r r.toWire := by
  obtain ⟨es, hes, hsource, htarget, -, -, hwire, htexts⟩ := read_eq_ok.mp hr
  cases hes
  have hkept : r.toWire = .obj (Entries.rename wireNameOf (textEntries given)) := by
    rw [toWire, hwire, wireOf_eq]
  have hfrom := required_eq_ok.mp hsource
  have hto := required_eq_ok.mp htarget
  refine ⟨hkept, hfrom, hto, ?_⟩
  rw [← kept_eq_iff hkeys htexts, ← hkept]
  refine ⟨Verbatim.same, fun hsame => ?_⟩
  -- A map that is kept as it is has none of the other names, so the ends were read under the wire
  -- names.
  obtain ⟨hnoSource, hnoTarget⟩ := (kept_eq_iff hkeys htexts).mp (hkept ▸ hsame)
  rw [field?_of_not_mem hnoSource] at hfrom
  rw [field?_of_not_mem hnoTarget] at hto
  rw [hsame]
  exact ⟨rfl, hfrom, hto⟩

end Relationship

/-! ## 2. All relationships of a model -/

/-- The relationships that the value of a model gives. -/
def Model.givenRelationships (raw : Value) : List Value := raw.itemsUnder "relationships"

/-- The items of a list that was read, each in its place. -/
theorem getElem?_of_map_eq_ok {α : Type} {read : Value → Checked α} {items : List Value}
    {as : List α} (h : items.map read = as.map Checked.ok) {i : Nat} {v : Value}
    (hv : items[i]? = some v) : ∃ a, as[i]? = some a ∧ read v = .ok a := by
  have hi := congrArg (·[i]?) h
  simp only [List.getElem?_map, hv, Option.map_some] at hi
  obtain ⟨a, ha, hread⟩ := Option.map_eq_some_iff.mp hi.symm
  exact ⟨a, ha, hread.symm⟩

/-- The relationships of a normalized model are read from those that were given, in order. -/
theorem Model.map_read_givenRelationships {raw : Value} {m : Model}
    (hm : Model.normalize raw = .ok m) :
    (givenRelationships raw).map Relationship.read = m.relationships.map Checked.ok := by
  obtain ⟨v, hprepare, hread⟩ := Model.normalize_eq_ok.mp hm
  obtain ⟨entries, entities, prepared, relationships, rfl, -, -, rfl, hgiven⟩ :=
    Model.prepare_eq_ok hprepare
  obtain ⟨es, hes, -, -, hrelationships⟩ := Model.read_eq_ok.mp hread
  cases hes
  rcases optionalField_eq_ok.mp hrelationships with ⟨hnone, -⟩ | ⟨u, hu, hlist⟩
  · cases hnone
  · obtain rfl : relationships = u := Option.some.inj hu
    rcases hgiven with ⟨hmember, hne⟩ | ⟨hnull, rfl⟩
    · have hlistOf : listOf Relationship.read relationships = .ok m.relationships := by
        unfold Model.readRelationships at hlist
        split at hlist
        · exact absurd rfl hne
        · exact hlist
      obtain ⟨items, hitems, heach⟩ := Checked.bind_eq_ok.mp hlistOf
      rw [givenRelationships, Value.itemsUnder_map hmember hitems]
      exact Checked.each_eq_ok.mp heach
    · have hempty : m.relationships = [] := (Checked.ok.inj hlist).symm
      rw [hempty, givenRelationships, Value.itemsUnder, Value.get?]
      cases hmember : Value.member? "relationships" entries with
      | none => rfl
      | some w =>
        rw [hnull w hmember]
        rfl

/-- The items of a value without repeated keys have none. -/
theorem Value.hasDistinctKeys_of_mem {v w : Value} {items : List Value}
    (h : v.hasDistinctKeys = true) (hv : Coercion.list v = .ok items) (hmem : w ∈ items) :
    w.hasDistinctKeys = true := by
  cases v with
  | list _ =>
    cases hv
    exact hereditary_hasDistinctKeys.item h hmem
  | set members =>
    cases hv
    obtain ⟨s, -, rfl⟩ := List.mem_map.mp hmem
    rfl
  | pair first second =>
    cases hv
    rw [hasDistinctKeys, Bool.and_eq_true] at h
    rcases List.mem_pair.mp hmem with rfl | rfl
    · exact h.1
    · exact h.2
  | atom _ | map _ | outer _ _ => cases hv

theorem Value.hasDistinctKeys_of_mem_itemsUnder {key : String} {v w : Value}
    (h : v.hasDistinctKeys = true) (hmem : w ∈ v.itemsUnder key) : w.hasDistinctKeys = true := by
  obtain ⟨entries, u, items, rfl, hu, hitems, hw⟩ := Value.mem_itemsUnder hmem
  exact Value.hasDistinctKeys_of_mem (hereditary_hasDistinctKeys.member h hu) hitems hw

/-- A relationship that was given has no key twice. -/
theorem Model.nodup_of_mem_givenRelationships {raw : Value} (hraw : raw.hasDistinctKeys = true)
    {given : List (Scalar × Value)} (h : .map given ∈ givenRelationships raw) :
    (Entries.keys given).Nodup :=
  (Value.hasDistinctKeys_map.mp (Value.hasDistinctKeys_of_mem_itemsUnder hraw h)).1

/-- **The relationships of the document.**  For an input that has no key twice in a map, the
document has what becomes of every relationship, in the order in which they were given.  It has a
relationship just as it was given, with the names of its ends under the wire names, exactly if that
gives no end under its other name. -/
theorem relationships_echoed {raw : Value} {m : Model} (hraw : raw.hasDistinctKeys = true)
    (hm : Model.normalize raw = .ok m) {config : Config} {clock : Clock} {schema : Value}
    (hs : JsonSchema.document config clock m = .ok schema) :
    ∃ echoed, schema.at? ["relationships"] = some (.list echoed) ∧
      echoed.length = (Model.givenRelationships raw).length ∧
      ∀ (i : Nat) (v : Value), (Model.givenRelationships raw)[i]? = some v →
        ∃ given r echo, v = .map given ∧ m.relationships[i]? = some r ∧ echoed[i]? = some echo ∧
          Relationship.Echo given r echo := by
  obtain ⟨stamp, -, rfl⟩ := JsonSchema.document_eq_ok hs
  have hread := Model.map_read_givenRelationships hm
  refine ⟨m.relationships.map Relationship.toWire, rfl, ?_, fun i v hv => ?_⟩
  · simpa using (congrArg List.length hread).symm
  · obtain ⟨r, hr, hvr⟩ := getElem?_of_map_eq_ok hread hv
    obtain ⟨given, rfl, -⟩ := Relationship.read_eq_ok.mp hvr
    have hkeys := Model.nodup_of_mem_givenRelationships hraw (List.mem_of_getElem? hv)
    exact ⟨given, r, r.toWire, rfl, hr, by rw [List.getElem?_map, hr]; rfl,
      Relationship.echo_of_read hkeys hvr⟩

/-- A user that is related to itself, with further keys. -/
def relatedUser (more : Entries String Value) : Value :=
  .obj [("entities", .list [.obj [("name", .str "user"), ("fields", .list [])]]),
    ("relationships", .list [.obj ([("from", .str "user"), ("to", .str "user")] ++ more)])]

/-- Further keys, a null and a list among them, are kept as they are. -/
theorem relationships_echoed_open :
    ∃ m schema r echoed,
      Model.normalize (relatedUser [("type", .null), ("tags", .list [.int 1])]) = .ok m ∧
      JsonSchema.document {} .standard m = .ok schema ∧ m.relationships[0]? = some r ∧
      r.source = "user" ∧ r.target = "user" ∧
      schema.at? ["relationships"] = some (.list echoed) ∧ echoed.length = 1 ∧
      echoed[0]? = some (.obj [("from", .str "user"), ("to", .str "user"), ("type", .null),
        ("tags", .list [.int 1])]) := by
  obtain ⟨m, hm⟩ : ∃ m, Model.normalize
    (relatedUser [("type", .null), ("tags", .list [.int 1])]) = .ok m := ⟨_, rfl⟩
  obtain ⟨schema, hs⟩ : ∃ schema, JsonSchema.document {} .standard m = .ok schema := ⟨_, rfl⟩
  obtain ⟨echoed, hat, hlength, hall⟩ := relationships_echoed (by decide) hm hs
  obtain ⟨given, r, echo, hgiven, hr, hecho, hend⟩ := hall 0 _ rfl
  cases hgiven
  obtain ⟨rfl, hsource, htarget⟩ := hend.verbatim.mpr (by decide)
  obtain ⟨v, hv, hreads⟩ := hsource
  obtain ⟨w, hw, hends⟩ := htarget
  cases hv
  cases hw
  exact ⟨m, schema, r, echoed, hm, hs, hr, (Checked.ok.inj hreads).symm,
    (Checked.ok.inj hends).symm,
    hat, hlength, hecho⟩

/-- An end that is given under both of its names is resolved by the one, and the document has the
other. -/
theorem relationships_echoed_renamed :
    ∃ m schema r link, Model.normalize (relatedUser [("source", .str "ghost")]) = .ok m ∧
      JsonSchema.document {} .standard m = .ok schema ∧ m.relationships = [r] ∧
      r.source = "user" ∧ m.resolve r = some link ∧
      schema.at? ["relationships"]
        = some (.list [.obj [("from", .str "ghost"), ("to", .str "user")]]) :=
  ⟨_, _, _, _, rfl, rfl, rfl, rfl, rfl, rfl⟩

end Schemata
