import Schemata.Generation.Bundle
import Schemata.Proofs.Normalizing
/-!
# The normal form is one

A model can be written back and read again.  Whatever normalizing makes up is there the second time,
and every map that was kept is read as the given one was, unless it gave a field under both of its
names: then the second reading sees the value that was kept.

* `Constraints.ofEntries_wire`, `Relationship.read_toWire`: the maps that are kept are read as the
  given ones.
* `Entity.IsNormal`: an entity that has all that normalizing makes up.
  `Entity.prepare_toWire`: nothing more is made up for it.
* `normalize_toWire`: a normalized model is its own normal form.
-/

namespace Schemata

open Coercion

/-! ## 1. Constraints -/

theorem ConstraintKey.wireNameOf_wireNameOf (key : String) :
    wireNameOf (wireNameOf key) = wireNameOf key := by
  cases hfind : all.find? fun k => k.fieldName = key with
  | none =>
    have hself : wireNameOf key = key := by
      unfold wireNameOf
      rw [hfind]
      rfl
    rw [hself, hself]
  | some k =>
    have hname : wireNameOf key = k.wireName := by
      unfold wireNameOf
      rw [hfind]
      rfl
    rw [hname]
    exact wireNameOf_eq.mpr k.wireName_mem_names

namespace Constraints

variable {given : List (Scalar × Value)}

/-- What is kept gives every known key once. -/
theorem givenOnce_wireOf (es : Entries String Value) (k : ConstraintKey) :
    GivenOnce (Value.textMembers (wireOf es)) k := by
  have hwire : ∀ n ∈ k.names, Scalar.str n ∈ Entries.keys (Value.textMembers (wireOf es)) →
      n = k.wireName := fun n hn hmem => by
    rw [Value.keys_textMembers, List.mem_map_of_injective fun _ _ => Scalar.str.inj] at hmem
    rw [← ConstraintKey.wireNameOf_eq.mpr hn]
    exact (Entries.name_of_mem_keys_rename ConstraintKey.wireNameOf_wireNameOf hmem).symm
  intro n hn n' hn' hmem hmem'
  rw [hwire n hn hmem, hwire n' hn' hmem']

/-- The known keys are read from what is kept as from what was given. -/
theorem supplied?_wireOf (hkeys : (Entries.keys given).Nodup) {k : ConstraintKey}
    (honce : GivenOnce given k) :
    supplied? (Value.textMembers (wireOf (textEntries given))) k = supplied? given k :=
  field?_rename ConstraintKey.wireNameOf_wireNameOf (fun _ => ConstraintKey.wireNameOf_eq)
    k.wireName_mem_names hkeys honce

/-- A known key that is given once is rejected once, if it is. -/
theorem rejected_of_once {k : ConstraintKey} {v : Value} (honce : GivenOnce given k)
    (hv : supplied? given k = some v) :
    (k.names.filter fun n => (Value.member? n given).isSome).map (fun _ => k.wireName)
      = [k.wireName] := by
  have hmem : ∀ {n}, (Value.member? n given).isSome = true → Scalar.str n ∈ Entries.keys given :=
    Entries.lookup_isSome_iff.mp
  have hsome : (k.names.any fun n => (Value.member? n given).isSome) = true := by
    obtain ⟨n, hn, hmember⟩ := List.exists_of_findSome?_eq_some hv
    exact List.any_eq_true.mpr ⟨n, hn, by rw [hmember]; rfl⟩
  unfold GivenOnce at honce
  unfold ConstraintKey.names at honce hsome ⊢
  by_cases hname : k.fieldName = k.wireName
  · rw [if_pos hname] at hsome ⊢
    have hwire : (Value.member? k.wireName given).isSome = true := by simpa using hsome
    simp [hwire]
  · rw [if_neg hname] at hsome honce ⊢
    cases hwire : (Value.member? k.wireName given).isSome <;>
      cases hfield : (Value.member? k.fieldName given).isSome
    -- The two names of a key are not both there, and not both missing.
    case true.true =>
      exact absurd (honce _ (by simp) _ (by simp) (hmem hfield) (hmem hwire)) hname
    case false.false =>
      simp [hwire, hfield] at hsome
    all_goals simp [hwire, hfield]

/-- Two maps give the same constraints if they give every known key once, with the same value, and
are kept as one map. -/
theorem ofEntries_congr {given' : List (Scalar × Value)} (honce : ∀ k, GivenOnce given k)
    (honce' : ∀ k, GivenOnce given' k) (hsupplied : ∀ k, supplied? given' k = supplied? given k)
    (hwire : wireOf (textEntries given') = wireOf (textEntries given)) :
    ofEntries given' = ofEntries given := by
  have hview : ∀ {α : Type} (k : ConstraintKey) (read : Value → Checked α),
      view? given' k read = view? given k read := fun k read => by
    unfold view?
    rw [hsupplied]
  have hrejected : rejectedNames given' = rejectedNames given := by
    unfold rejectedNames
    congr 1
    funext k
    rw [hsupplied]
    cases hv : supplied? given k with
    | none => rfl
    | some v =>
      dsimp only
      rw [rejected_of_once (honce k) hv, rejected_of_once (honce' k) ((hsupplied k).trans hv)]
  unfold ofEntries
  simp only [hview, hsupplied, hwire, hrejected]

/-- **Constraints are read again** from the map that is kept. -/
theorem ofEntries_wire (hkeys : (Entries.keys given).Nodup) (honce : ∀ k, GivenOnce given k) :
    ofEntries (Value.textMembers (ofEntries given).wire) = ofEntries given := by
  refine ofEntries_congr honce (givenOnce_wireOf _) (fun k => supplied?_wireOf hkeys (honce k)) ?_
  rw [textEntries_textMembers]
  exact Entries.rename_rename ConstraintKey.wireNameOf_wireNameOf _

theorem read_wire {v : Value} {c : Constraints} (hkeys : v.hasDistinctKeys = true)
    (honce : ∀ given, v = .map given → ∀ k, GivenOnce given k) (hc : Constraints.read v = .ok c) :
    Constraints.read (.obj c.wire) = .ok c := by
  obtain ⟨given, rfl, -, rfl⟩ := read_eq_ok.mp hc
  exact read_eq_ok.mpr ⟨_, Value.obj_eq _, keyComplaints_textMembers _,
    (ofEntries_wire (Value.hasDistinctKeys_map.mp hkeys).1 (honce given rfl)).symm⟩

end Constraints

/-! ## 2. Fields and entities -/

/-- **A field is read again** from what is written of it. -/
theorem Field.read_toWire {v : Value} {f : Field} (hkeys : v.hasDistinctKeys = true)
    (honce : ∀ given, v.get? "constraints" = some (.map given) →
      ∀ k, Constraints.GivenOnce given k)
    (hf : Field.read v = .ok f) : Field.read f.toWire = .ok f := by
  obtain ⟨es, rfl, hname, -, -, -, hconstraints⟩ := read_eq_ok.mp hf
  obtain ⟨_, -, hname⟩ := required_eq_ok.mp hname
  have hne := (nonEmptyText_eq_ok.mp hname).2
  have hwire : ∀ c, f.constraints = some c → Constraints.read (.obj c.wire) = .ok c := by
    intro c hc
    rcases optionalField_eq_ok.mp hconstraints with ⟨-, hnone⟩ | ⟨u, hu, hread⟩
    · rw [hnone] at hc
      cases hc
    · rw [hc] at hread
      refine Constraints.read_wire (Value.hereditary_hasDistinctKeys.field hkeys hu)
        (fun given hgiven => honce given ?_) (optional_eq_some.mp hread).2
      rw [← hgiven, ← hu, Value.get?, field?_single]
  obtain ⟨name, type, required, description, constraints⟩ := f
  refine read_eq_ok.mpr ⟨_, Value.obj_eq _, required_eq_ok.mpr ⟨.str name, rfl, ?_⟩,
    required_eq_ok.mpr ⟨.str type, rfl, rfl⟩,
    optionalField_eq_ok.mpr (.inr ⟨.bool required, rfl, rfl⟩),
    ?_, ?_⟩
  · exact nonEmptyText_eq_ok.mpr ⟨rfl, hne⟩
  · cases description with
    | none => cases constraints <;> exact optionalField_eq_ok.mpr (.inl ⟨rfl, rfl⟩)
    | some d => exact optionalField_eq_ok.mpr (.inr ⟨.str d, rfl, rfl⟩)
  · cases constraints with
    | none => cases description <;> exact optionalField_eq_ok.mpr (.inl ⟨rfl, rfl⟩)
    | some c =>
      refine optionalField_eq_ok.mpr
        (.inr ⟨.obj c.wire, ?_, optional_eq_some.mpr ⟨?_, hwire c rfl⟩⟩)
      · cases description <;> rfl
      · exact fun h => by cases h

namespace Entity

/-- An entity that has all that normalizing makes up. -/
structure IsNormal (e : Entity) : Prop where
  name : e.name ≠ ""
  tableName : e.tableName ≠ ""
  description : e.description.isSome = true
  key : ∃ f ∈ e.fields, f.name = keyName

theorem withTableName_of_given {es : List (Scalar × Value)}
    (h : isGiven (Value.member? "tableName" es) = true) : withTableName es = es :=
  if_pos h

theorem withDescription_of_given {es : List (Scalar × Value)} {s : String}
    (h : Value.member? "description" es = some (.str s)) : withDescription es = es := by
  rw [withDescription, h]

/-- **Nothing more is made up** for an entity that has all of it. -/
theorem prepare_toWire {e : Entity} (h : e.IsNormal) (index : Nat) :
    prepare index e.toWire = .ok e.toWire := by
  obtain ⟨-, htable, hdescription, hkey⟩ := h
  obtain ⟨d, hd⟩ := Option.isSome_iff_exists.mp hdescription
  have hany : (e.fields.map Field.toWire).any isKey = true := by
    obtain ⟨f, hf, hname⟩ := hkey
    have hisKey : isKey f.toWire = decide (f.name = keyName) := rfl
    exact List.any_eq_true.mpr ⟨_, List.mem_map_of_mem hf, by rw [hisKey, hname]; rfl⟩
  have htable : isGiven (some (.str e.tableName)) = true := by
    simpa [isGiven, Value.isTruthy] using htable
  refine prepare_eq_ok.mpr ⟨_, _, Value.obj_eq _, rfl, ?_⟩
  rw [keyedFields, if_pos hany, Entries.put_of_lookup rfl, withTableName_of_given,
    withDescription_of_given (s := d)]
  · rfl
  · rw [hd]
    rfl
  · exact htable

theorem prepareAll_toWire : ∀ {es : List Entity}, (∀ e ∈ es, e.IsNormal) → ∀ index : Nat,
    prepareAll index (es.map toWire) = .ok (es.map toWire)
  | [], _, _ => rfl
  | e :: rest, h, index => by
    obtain ⟨he, hrest⟩ := List.forall_mem_cons.mp h
    rw [List.map_cons, prepareAll, prepare_toWire he, prepareAll_toWire hrest]
    rfl

/-- **An entity is read again** from what is written of it. -/
theorem read_toWire {e : Entity} (hname : e.name ≠ "")
    (hfields : ∀ f ∈ e.fields, Field.read f.toWire = .ok f) : Entity.read e.toWire = .ok e := by
  refine read_eq_ok.mpr ⟨_, Value.obj_eq _, required_eq_ok.mpr ⟨.str e.name, rfl, ?_⟩,
    optionalField_eq_ok.mpr (.inr ⟨.str e.tableName, rfl, rfl⟩),
    optionalField_eq_ok.mpr (.inr ⟨.ofOption e.description, rfl, ?_⟩),
    required_eq_ok.mpr ⟨.list (e.fields.map Field.toWire), rfl, ?_⟩⟩
  · exact nonEmptyText_eq_ok.mpr ⟨rfl, hname⟩
  · cases e.description <;> rfl
  · refine Checked.bind_eq_ok.mpr ⟨_, rfl, Checked.each_eq_ok.mpr ?_⟩
    rw [List.map_map]
    exact List.map_congr_left hfields

/-- An entity that was made ready has a field named like the key. -/
theorem exists_key_of_prepare {index : Nat} {v w : Value} {e : Entity}
    (hprepare : prepare index v = .ok w) (hread : Entity.read w = .ok e) :
    ∃ f ∈ e.fields, f.name = keyName := by
  obtain ⟨entries, fields, -, -, rfl⟩ := prepare_eq_ok.mp hprepare
  exact exists_key_of_read (map_read_keyedFields hread)

/-- **What is made of a value is normal**: it has all that is made up. -/
theorem MadeOf.isNormal {v : Value} {e : Entity} (h : MadeOf v e) : e.IsNormal where
  name := h.named
  tableName := h.tableName_ne
  description := by
    obtain ⟨d, -, hd⟩ := h.description
    exact hd ▸ rfl
  key := by
    obtain ⟨fields, -, hread⟩ := h.fields
    exact exists_key_of_read hread

end Entity

/-! ## 3. Relationships -/

namespace Relationship

theorem wireNameOf_eq_from {n : String} : wireNameOf n = "from" ↔ n ∈ ["from", "source"] := by
  unfold wireNameOf
  grind

theorem wireNameOf_eq_to {n : String} : wireNameOf n = "to" ↔ n ∈ ["to", "target"] := by
  unfold wireNameOf
  grind

theorem wireNameOf_eq_other {n key : String} (h : key ∉ ["from", "source", "to", "target"]) :
    wireNameOf n = key ↔ n ∈ [key] := by
  unfold wireNameOf
  grind

/-- The parts of a relationship, each under the names that it may be given under. -/
def parts : List (String × List String) :=
  [("from", ["from", "source"]), ("to", ["to", "target"]), ("type", ["type"]),
    ("description", ["description"])]

/-- The names of a part are those with its wire name. -/
theorem wireNameOf_eq {p : String × List String} (hp : p ∈ parts) (n : String) :
    wireNameOf n = p.1 ↔ n ∈ p.2 := by
  simp only [parts, List.mem_cons, List.not_mem_nil, or_false] at hp
  rcases hp with rfl | rfl | rfl | rfl
  · exact wireNameOf_eq_from
  · exact wireNameOf_eq_to
  · exact wireNameOf_eq_other (by decide)
  · exact wireNameOf_eq_other (by decide)

theorem wireName_mem {p : String × List String} (hp : p ∈ parts) : p.1 ∈ p.2 :=
  (wireNameOf_eq hp p.1).mp (by revert p; decide)

/-- A relationship gives its parts once if it gives its ends once. -/
theorem namedOnce_parts {given : List (Scalar × Value)}
    (hsource : NamedOnce given ["from", "source"])
    (htarget : NamedOnce given ["to", "target"]) : ∀ p ∈ parts, NamedOnce given p.2 := by
  have hsingle : ∀ n, NamedOnce given [n] := fun n a ha b hb _ _ => by
    rw [List.mem_singleton.mp ha, List.mem_singleton.mp hb]
  simp only [parts, List.forall_mem_cons]
  exact ⟨hsource, htarget, hsingle _, hsingle _, List.forall_mem_nil _⟩

/-- Two maps are read as one relationship if they give the same parts and are kept as one map. -/
theorem read_congr {given given' : List (Scalar × Value)} {r : Relationship}
    (hparts : ∀ p ∈ parts, field? given' p.2 = field? given p.2)
    (hwire : wireOf given' = wireOf given) (htexts : keyComplaints given' = [])
    (hr : Relationship.read (.map given) = .ok r) : Relationship.read (.map given') = .ok r := by
  obtain ⟨es, hes, hfrom, hto, htype, hdescription, hkept, -⟩ := read_eq_ok.mp hr
  cases hes
  simp only [parts, List.forall_mem_cons] at hparts
  obtain ⟨hsource, htarget, htypes, hdescriptions, -⟩ := hparts
  refine read_eq_ok.mpr ⟨given', rfl, ?_, ?_, ?_, ?_, hkept.trans hwire.symm, htexts⟩
  · rwa [Coercion.required, hsource]
  · rwa [Coercion.required, htarget]
  · rwa [optionalField, htypes]
  · rwa [optionalField, hdescriptions]

/-- **A relationship is read again** from the map that is kept. -/
theorem read_toWire {given : List (Scalar × Value)} {r : Relationship}
    (hkeys : (Entries.keys given).Nodup) (hsource : NamedOnce given ["from", "source"])
    (htarget : NamedOnce given ["to", "target"]) (hr : Relationship.read (.map given) = .ok r) :
    Relationship.read r.toWire = .ok r := by
  obtain ⟨es, hes, -, -, -, -, hwire, -⟩ := read_eq_ok.mp hr
  cases hes
  rw [toWire, hwire, wireOf_eq, Value.obj_eq]
  refine read_congr (fun p hp => ?_) ?_ (keyComplaints_textMembers _) hr
  · exact field?_rename wireNameOf_wireNameOf (wireNameOf_eq hp) (wireName_mem hp) hkeys
      (namedOnce_parts hsource htarget p hp)
  · rw [wireOf_eq, textEntries_textMembers, wireOf_eq, Entries.rename_rename wireNameOf_wireNameOf]

end Relationship

/-! ## 4. Models -/

namespace Model

/-- The constraint maps that the value of a model gives. -/
def givenConstraints (raw : Value) : List Value :=
  ((raw.itemsUnder "entities").flatMap (Value.itemsUnder "fields")).filterMap
    (Value.get? "constraints")

/-- A value that gives nothing in a constraint map or a relationship under two names. -/
structure NamesOnce (raw : Value) : Prop where
  constraints : ∀ given, .map given ∈ givenConstraints raw → ∀ k, Constraints.GivenOnce given k
  source : ∀ given, .map given ∈ givenRelationships raw → NamedOnce given ["from", "source"]
  target : ∀ given, .map given ∈ givenRelationships raw → NamedOnce given ["to", "target"]

variable {raw : Value} {m : Model}

theorem isNormal_of_normalize (hjson : raw.isJson = true) (hm : normalize raw = .ok m) {e : Entity}
    (he : e ∈ m.entities) : e.IsNormal := by
  obtain ⟨given, -, hentities⟩ := ((normalize_iff_madeOf hjson).mp hm).entities
  obtain ⟨v, -, hv⟩ := exists_beside hentities he
  exact hv.isNormal

theorem read_field_toWire (hkeys : raw.hasDistinctKeys = true) (honce : NamesOnce raw)
    (hm : normalize raw = .ok m) {e : Entity} (he : e ∈ m.entities) {f : Field}
    (hf : f ∈ e.fields) : Field.read f.toWire = .ok f := by
  obtain ⟨entries, entities, fieldEntries, fields, rfl, hentities, hmem, hfields, x, hx, hxf⟩ :=
    exists_field hm he hf
  have hP := Value.hereditary_hasDistinctKeys
  rcases hx with rfl | hx
  · refine Field.read_toWire (by decide) (fun given hgiven k => ?_) hxf
    cases hgiven
    cases k <;> unfold Constraints.GivenOnce <;> decide
  · refine Field.read_toWire
      (hP.item (hP.member (hP.item (hP.member hkeys hentities) hmem) hfields) hx)
      (fun given hgiven => honce.constraints given ?_) hxf
    have hentity : .map fieldEntries ∈ (Value.map entries).itemsUnder "entities" := by
      rw [Value.itemsUnder_map hentities rfl]
      exact hmem
    have hfield : x ∈ (Value.map fieldEntries).itemsUnder "fields" := by
      rw [Value.itemsUnder_map hfields rfl]
      exact hx
    exact List.mem_filterMap.mpr ⟨x, List.mem_flatMap.mpr ⟨_, hentity, hfield⟩, hgiven⟩

theorem read_relationship_toWire (hkeys : raw.hasDistinctKeys = true) (honce : NamesOnce raw)
    (hm : normalize raw = .ok m) {r : Relationship} (hr : r ∈ m.relationships) :
    Relationship.read r.toWire = .ok r := by
  have hok : Checked.ok r ∈ (givenRelationships raw).map Relationship.read := by
    rw [map_read_givenRelationships hm]
    exact List.mem_map_of_mem hr
  obtain ⟨v, hv, hread⟩ := List.mem_map.mp hok
  obtain ⟨given, rfl, -⟩ := Relationship.read_eq_ok.mp hread
  exact Relationship.read_toWire (nodup_of_mem_givenRelationships hkeys hv)
    (honce.source given hv) (honce.target given hv) hread

/-- Nothing more is made up for a model of normal entities. -/
theorem prepare_toWire (h : ∀ e ∈ m.entities, e.IsNormal) : prepare m.toWire = .ok m.toWire := by
  have hentities := Entity.prepareAll_toWire h 0
  show (do
    let prepared ← Entity.prepareAll 0 (m.entities.map Entity.toWire)
    return Value.obj [("entities", .list prepared),
      ("relationships", .list (m.relationships.map Relationship.toWire))]) = _
  rw [hentities]
  rfl

/-- A model is read again if its parts are. -/
theorem read_toWire (hindexed : m.IsIndexed)
    (hentities : ∀ e ∈ m.entities, Entity.read e.toWire = .ok e)
    (hrelationships : ∀ r ∈ m.relationships, Relationship.read r.toWire = .ok r) :
    Model.read m.toWire = .ok m := by
  refine read_eq_ok.mpr ⟨_, Value.obj_eq _, hindexed,
    optionalField_eq_ok.mpr (.inr ⟨.list (m.entities.map Entity.toWire), rfl, ?_⟩),
    optionalField_eq_ok.mpr (.inr ⟨.list (m.relationships.map Relationship.toWire), rfl, ?_⟩)⟩
  · refine Checked.bind_eq_ok.mpr ⟨_, rfl, Checked.each_eq_ok.mpr ?_⟩
    rw [List.map_map]
    exact List.map_congr_left hentities
  · refine Checked.bind_eq_ok.mpr ⟨_, rfl, Checked.each_eq_ok.mpr ?_⟩
    rw [List.map_map]
    exact List.map_congr_left hrelationships

end Model

/-- **A normalized model is its own normal form.**  Of an input of JSON that gives nothing in a
constraint map or a relationship under two names, the normal form can be written back, and
normalizing that gives the very same model.  So whatever is made of the one is made of the other:
the documents, their failures and the findings of the lint. -/
theorem normalize_toWire {raw : Value} {m : Model} (hjson : raw.isJson = true)
    (hkeys : raw.hasDistinctKeys = true) (honce : Model.NamesOnce raw)
    (hm : Model.normalize raw = .ok m) :
    Model.normalize m.toWire = .ok m ∧
    ∀ (order : List Artifact) (config : Config) (clock : Clock) (lint : Bool) (source : String),
      Bundle.generateIn order config clock lint source m.toWire
        = Bundle.generateIn order config clock lint source raw := by
  have hnormal : ∀ e ∈ m.entities, e.IsNormal := fun e he =>
    Model.isNormal_of_normalize hjson hm he
  have hread : Model.read m.toWire = .ok m :=
    Model.read_toWire (Model.isIndexed_of_normalize hm)
      (fun e he => Entity.read_toWire (hnormal e he).name fun f hf =>
        Model.read_field_toWire hkeys honce hm he hf)
      (fun r hr => Model.read_relationship_toWire hkeys honce hm hr)
  have hagain : Model.normalize m.toWire = .ok m :=
    Model.normalize_eq_ok.mpr ⟨_, Model.prepare_toWire hnormal, hread⟩
  refine ⟨hagain, fun order config clock lint source => ?_⟩
  rw [Bundle.generateIn, Bundle.generateIn, hagain, hm]

/-- A box with a code of some length and a box in it, under the names that do not count first. -/
def looseBox : Value :=
  .obj [("entities", .list [.obj [("name", .str "box"), ("fields", .list [
      .obj [("name", .str "code"), ("type", .str "string"), ("constraints", .obj
        [("max_length", .str "5"), ("unique", .str "maybe"), ("default", .null)])]])]]),
    ("relationships", .list [.obj [("source", .str "box"), ("target", .str "box"),
      ("note", .null)]])]

/-- What is written of its normal form. -/
def normalBox : Value :=
  .obj [("entities", .list [.obj [("name", .str "box"), ("tableName", .str "boxes"),
      ("description", .str ""), ("fields", .list [
        .obj [("name", .str "id"), ("type", .str "number"), ("required", .bool true),
          ("description", .str "Unique identifier"),
          ("constraints", .obj [("primary", .bool true), ("autoIncrement", .bool true)])],
        .obj [("name", .str "code"), ("type", .str "string"), ("required", .bool false),
          ("constraints", .obj [("maxLength", .str "5"), ("unique", .str "maybe"),
            ("default", .null)])]])]]),
    ("relationships", .list [.obj [("from", .str "box"), ("to", .str "box"), ("note", .null)]])]

/-- The names of the box count first after it was normalized. -/
theorem normalize_toWire_box :
    ∃ m, Model.normalize looseBox = .ok m ∧ m.toWire = normalBox ∧
      Model.normalize normalBox = .ok m ∧
      Bundle.generate {} .standard true "box" normalBox
        = Bundle.generate {} .standard true "box" looseBox := by
  obtain ⟨m, hm⟩ : ∃ m, Model.normalize looseBox = .ok m := ⟨_, rfl⟩
  have hwire : m.toWire = normalBox := by
    cases hm
    rfl
  have honce : Model.NamesOnce looseBox := by
    refine ⟨fun given hgiven k => ?_, fun given hgiven => ?_, fun given hgiven => ?_⟩ <;>
      cases List.mem_singleton.mp hgiven
    · cases k <;> unfold Constraints.GivenOnce <;> decide
    · unfold NamedOnce
      decide
    · unfold NamedOnce
      decide
  obtain ⟨hagain, hgenerate⟩ := normalize_toWire (by decide) (by decide) honce hm
  rw [hwire] at hagain hgenerate
  exact ⟨m, hm, hwire, hagain, hgenerate _ _ _ _ _⟩

end Schemata
