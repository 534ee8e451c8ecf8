import Schemata.Proofs.Entries
import Schemata.Proofs.Resolution
/-!
# Where the constraints of a model come from

Normalizing reads entities, fields and constraint maps out of a loosely typed value and makes up
what is missing.  The one constraint map that is made up is that of the primary key; every other one
was part of the input, so that what is said of all parts of the input is said of it.

* `Model.read_eq_ok`, `Entity.read_eq_ok`, `Field.read_eq_ok`, `Constraints.read_eq_ok`: what a
  value must have been to be read.
* `Model.prepare_eq_ok`, `Entity.prepare_eq_ok`: what is made of it before.
* `Hereditary`: a property that the parts of a value inherit.
* `Model.exists_given`: the constraints of a field are the typed view of a map with every such
  property of the input.
-/

namespace Schemata

open Coercion

/-! ## 1. Readers -/

theorem Checked.each_eq_ok {α : Type} {read : Value → Checked α} : ∀ {items : List Value}
    {start : Nat} {as : List α}, Checked.each read start items = .ok as ↔
      items.map read = as.map Checked.ok
  | [], start, as => by
    rw [Checked.each, List.map_nil, eq_comm, List.nil_eq, List.map_eq_nil_iff]
    exact ⟨fun h => by cases h; rfl, fun h => by rw [h]⟩
  | v :: rest, start, as => by
    rw [Checked.each, Checked.and_eq_ok]
    constructor
    · rintro ⟨g, as', hg, has', rfl⟩
      cases hv : read v with
      | bad complaints =>
        rw [hv] at hg
        cases hg
      | ok a =>
        rw [hv] at hg
        cases hg
        rw [List.map_cons, List.map_cons, hv, each_eq_ok.mp has']
    · intro h
      cases as with
      | nil => cases h
      | cons a as =>
        obtain ⟨hv, hrest⟩ := List.cons.inj h
        exact ⟨List.cons a, as, by rw [hv]; rfl, each_eq_ok.mpr hrest, rfl⟩

/-- What stands in a list that was read was read from an item. -/
theorem mem_of_listOf {α : Type} {read : Value → Checked α} {v : Value} {as : List α} {a : α}
    (h : listOf read v = .ok as) (ha : a ∈ as) :
    ∃ items, Coercion.list v = .ok items ∧ ∃ w ∈ items, read w = .ok a := by
  obtain ⟨items, hitems, heach⟩ := Checked.bind_eq_ok.mp h
  have hok : Checked.ok a ∈ items.map read := by
    rw [Checked.each_eq_ok.mp heach]
    exact List.mem_map_of_mem ha
  obtain ⟨w, hw, hread⟩ := List.mem_map.mp hok
  exact ⟨items, hitems, w, hw, hread⟩

/-- A value that may be null is read unless it is. -/
theorem optional_eq_some {α : Type} {read : Value → Checked α} {v : Value} {a : α} :
    Coercion.optional read v = .ok (some a) ↔ v ≠ .null ∧ read v = .ok a := by
  unfold Coercion.optional
  split
  · simp
  · rename_i hnull
    cases hread : read v with
    | bad complaints => simp [Checked.map]
    | ok b =>
      rw [Checked.map, Checked.ok.injEq, Checked.ok.injEq, Option.some.injEq]
      exact (and_iff_right hnull).symm

theorem Constraints.read_eq_ok {v : Value} {c : Constraints} :
    Constraints.read v = .ok c ↔
      ∃ given, v = .map given ∧ keyComplaints given = [] ∧ c = ofEntries given := by
  unfold Constraints.read
  simp only [record_eq_ok, Checked.withMore_eq_ok, Checked.ok.injEq]
  exact ⟨fun ⟨given, hv, hc, hkeys⟩ => ⟨given, hv, hkeys, hc.symm⟩,
    fun ⟨given, hv, hkeys, hc⟩ => ⟨given, hv, hc.symm, hkeys⟩⟩

theorem Field.read_eq_ok {v : Value} {f : Field} :
    Field.read v = .ok f ↔ ∃ es, v = .map es ∧
      Coercion.required es ["name"] nonEmptyText = .ok f.name ∧
      Coercion.required es ["type"] text = .ok f.type ∧
      optionalField es ["required"] false readRequired = .ok f.required ∧
      optionalField es ["description"] none (optional text) = .ok f.description ∧
      optionalField es ["constraints"] none (optional Constraints.read) = .ok f.constraints := by
  unfold Field.read
  simp only [record_eq_ok, Checked.and_eq_ok]
  constructor
  · rintro ⟨es, rfl, _, _, ⟨_, _, ⟨_, _, ⟨_, _, ⟨_, _, ⟨⟩, hname, rfl⟩, htype, rfl⟩, hrequired,
      rfl⟩, hdescription, rfl⟩, hconstraints, rfl⟩
    exact ⟨es, rfl, hname, htype, hrequired, hdescription, hconstraints⟩
  · rintro ⟨es, rfl, hname, htype, hrequired, hdescription, hconstraints⟩
    exact ⟨es, rfl, _, _, ⟨_, _, ⟨_, _, ⟨_, _, ⟨_, _, rfl, hname, rfl⟩, htype, rfl⟩, hrequired,
      rfl⟩, hdescription, rfl⟩, hconstraints, rfl⟩

theorem Entity.read_eq_ok {v : Value} {e : Entity} :
    Entity.read v = .ok e ↔ ∃ es, v = .map es ∧
      required es ["name"] nonEmptyText = .ok e.name ∧
      optionalField es ["tableName", "table_name"] "" text = .ok e.tableName ∧
      optionalField es ["description"] none (optional text) = .ok e.description ∧
      required es ["fields"] (listOf Field.read) = .ok e.fields := by
  unfold Entity.read
  simp only [record_eq_ok, Checked.and_eq_ok]
  constructor
  · rintro ⟨es, rfl, _, _, ⟨_, _, ⟨_, _, ⟨_, _, ⟨⟩, hname, rfl⟩, htable, rfl⟩, hdescription, rfl⟩,
      hfields, rfl⟩
    exact ⟨es, rfl, hname, htable, hdescription, hfields⟩
  · rintro ⟨es, rfl, hname, htable, hdescription, hfields⟩
    exact ⟨es, rfl, _, _, ⟨_, _, ⟨_, _, ⟨_, _, rfl, hname, rfl⟩, htable, rfl⟩, hdescription, rfl⟩,
      hfields, rfl⟩

theorem Model.read_eq_ok {v : Value} {m : Model} :
    Model.read v = .ok m ↔ ∃ es, v = .map es ∧ m.IsIndexed ∧
      optionalField es ["entities"] [] (listOf Entity.read) = .ok m.entities ∧
      optionalField es ["relationships"] [] readRelationships = .ok m.relationships := by
  unfold Model.read
  simp only [record_eq_ok, Checked.and_eq_ok]
  constructor
  · rintro ⟨es, rfl, _, _, ⟨_, _, ⟨⟩, hentities, rfl⟩, hrelationships, rfl⟩
    exact ⟨es, rfl, rfl, hentities, hrelationships⟩
  · rintro ⟨es, rfl, hindexed, hentities, hrelationships⟩
    obtain ⟨entities, relationships, index⟩ := m
    obtain rfl : index = indexOf entities := hindexed
    exact ⟨es, rfl, _, _, ⟨_, _, rfl, hentities, rfl⟩, hrelationships, rfl⟩

/-- A known key has a part in the typed view if its value is there, is not null and can be read. -/
theorem Constraints.view?_eq_some {α : Type} {given : List (Scalar × Value)} {k : ConstraintKey}
    {read : Value → Checked α} {a : α} :
    view? given k read = some a ↔
      ∃ v, supplied? given k = some v ∧ v ≠ .null ∧ read v = .ok a := by
  unfold view?
  rw [Option.bind_eq_some_iff]
  refine exists_congr fun v => and_congr_right fun _ => ?_
  rw [← optional_eq_some]
  cases Coercion.optional read v <;> simp [Checked.toOption]

/-! ## 2. What is made of the input before it is read -/

namespace Entity

theorem prepare_eq_ok {index : Nat} {v w : Value} :
    prepare index v = .ok w ↔ ∃ entries fields, v = .map entries ∧
      Value.member? "fields" entries = some (.list fields) ∧
      w = .map (withDescription (withTableName
        (Entries.put (.str "fields") (.list (keyedFields fields)) entries))) := by
  constructor
  · intro h
    unfold prepare at h
    split at h
    · rename_i entries
      split at h
      · rename_i fields hfields
        cases h
        exact ⟨entries, fields, rfl, hfields, rfl⟩
      · cases h
    · cases h
  · rintro ⟨entries, fields, rfl, hfields, rfl⟩
    rw [prepare, hfields]

/-- What is made of entities is made of each alone. -/
theorem mem_prepareAll {w : Value} : ∀ {vs ws : List Value} {index : Nat},
    prepareAll index vs = .ok ws → w ∈ ws → ∃ v ∈ vs, ∃ i, prepare i v = .ok w
  | [], ws, index, h, hw => by
    cases h
    exact absurd hw List.not_mem_nil
  | v :: rest, ws, index, h, hw => by
    obtain ⟨first, hfirst, hrest⟩ := bind_eq_ok.mp h
    obtain ⟨others, hothers, hpure⟩ := bind_eq_ok.mp hrest
    cases hpure
    rcases List.mem_cons.mp hw with rfl | hmem
    · exact ⟨v, List.mem_cons_self, index, hfirst⟩
    · obtain ⟨v', hv', hprepared⟩ := mem_prepareAll hothers hmem
      exact ⟨v', List.mem_cons_of_mem _ hv', hprepared⟩

theorem member?_put_of_ne {key other : String} (h : key ≠ other) (v : Value)
    (es : List (Scalar × Value)) :
    Value.member? key (Entries.put (.str other) v es) = Value.member? key es := by
  have hbeq : (Scalar.str key == Scalar.str other) = false := by simpa using h
  rw [Value.member?, Entries.lookup_put, hbeq]
  rfl

theorem member?_put_self (key : String) (v : Value) (es : List (Scalar × Value)) :
    Value.member? key (Entries.put (.str key) v es) = some v := by
  rw [Value.member?, Entries.lookup_put, BEq.rfl]
  rfl

theorem member?_withTableName {key : String} (h : key ≠ "tableName")
    (es : List (Scalar × Value)) :
    Value.member? key (withTableName es) = Value.member? key es := by
  unfold withTableName
  split
  · rfl
  · split
    · split
      · rfl
      · exact member?_put_of_ne h _ _
    · rfl

theorem member?_withDescription {key : String} (h : key ≠ "description")
    (es : List (Scalar × Value)) :
    Value.member? key (withDescription es) = Value.member? key es := by
  unfold withDescription
  split
  · exact member?_put_of_ne h _ _
  · exact member?_put_of_ne h _ _
  · rfl

/-- The fields of an entity are read from the given ones with the primary key among them. -/
theorem map_read_keyedFields {entries : List (Scalar × Value)} {fields : List Value} {e : Entity}
    (hread : Entity.read (.map (withDescription (withTableName
      (Entries.put (.str "fields") (.list (keyedFields fields)) entries)))) = .ok e) :
    (keyedFields fields).map Field.read = e.fields.map Checked.ok := by
  obtain ⟨es, hes, -, -, -, hrequired⟩ := Entity.read_eq_ok.mp hread
  cases hes
  obtain ⟨u, hu, hlist⟩ := required_eq_ok.mp hrequired
  have hmember : Coercion.field? (withDescription (withTableName
      (Entries.put (.str "fields") (.list (keyedFields fields)) entries))) ["fields"]
        = some (.list (keyedFields fields)) := by
    rw [Coercion.field?, List.findSome?_cons, member?_withDescription (by decide),
      member?_withTableName (by decide), member?_put_self]
  obtain rfl : Value.list (keyedFields fields) = u := Option.some.inj (hmember.symm.trans hu)
  obtain ⟨items, hitems, heach⟩ := Checked.bind_eq_ok.mp hlist
  cases hitems
  exact Checked.each_eq_ok.mp heach

/-- The fields of an entity that was made ready are read from the given ones and perhaps the primary
key that was made up. -/
theorem fields_of_prepare {index : Nat} {v w : Value} {e : Entity}
    (hprepare : prepare index v = .ok w) (hread : Entity.read w = .ok e) {f : Field}
    (hf : f ∈ e.fields) :
    ∃ entries fields, v = .map entries ∧ Value.member? "fields" entries = some (.list fields) ∧
      ∃ x, (x = synthesizedKey ∨ x ∈ fields) ∧ Field.read x = .ok f := by
  obtain ⟨entries, fields, rfl, hfields, rfl⟩ := prepare_eq_ok.mp hprepare
  have hok : Checked.ok f ∈ (keyedFields fields).map Field.read := by
    rw [map_read_keyedFields hread]
    exact List.mem_map_of_mem hf
  obtain ⟨x, hx, hxf⟩ := List.mem_map.mp hok
  refine ⟨entries, fields, rfl, hfields, x, ?_, hxf⟩
  unfold keyedFields at hx
  split at hx
  · exact Or.inr hx
  · exact List.mem_cons.mp hx

end Entity

theorem Model.prepare_eq_ok {raw v : Value} (h : Model.prepare raw = .ok v) :
    ∃ entries entities prepared relationships, raw = .map entries ∧
      Value.member? "entities" entries = some (.list entities) ∧
      Entity.prepareAll 0 entities = .ok prepared ∧
      v = .obj [("entities", .list prepared), ("relationships", relationships)] ∧
      (Value.member? "relationships" entries = some relationships ∧ relationships ≠ .null ∨
        (∀ w, Value.member? "relationships" entries = some w → w = .null) ∧
          relationships = .list []) := by
  unfold Model.prepare at h
  split at h
  · rename_i entries
    split at h
    · rename_i entities hentities
      obtain ⟨prepared, hprepared, hpure⟩ := bind_eq_ok.mp h
      cases hpure
      refine ⟨entries, entities, prepared, _, rfl, hentities, hprepared, rfl, ?_⟩
      split
      · rename_i hnone
        refine Or.inr ⟨fun w hw => ?_, rfl⟩
        rw [hnone] at hw
        cases hw
      · rename_i hnull
        refine Or.inr ⟨fun w hw => ?_, rfl⟩
        rw [hnull] at hw
        exact (Option.some.inj hw).symm
      · rename_i w hne hw
        exact Or.inl ⟨hw, hne⟩
    · cases h
  · cases h

/-- Every entity of a normalized model was made ready from one of a list of entities. -/
theorem Model.exists_entity {raw : Value} {m : Model} (hm : Model.normalize raw = .ok m)
    {e : Entity} (he : e ∈ m.entities) :
    ∃ entries entities x i w, raw = .map entries ∧
      Value.member? "entities" entries = some (.list entities) ∧ x ∈ entities ∧
      Entity.prepare i x = .ok w ∧ Entity.read w = .ok e := by
  obtain ⟨v, hprepare, hread⟩ := Model.normalize_eq_ok.mp hm
  obtain ⟨entries, entities, prepared, relationships, rfl, hentities, hprepared, rfl, -⟩ :=
    Model.prepare_eq_ok hprepare
  obtain ⟨es, hes, -, hoptional, -⟩ := Model.read_eq_ok.mp hread
  cases hes
  rcases optionalField_eq_ok.mp hoptional with ⟨hnone, -⟩ | ⟨u, hu, hlist⟩
  · cases hnone
  · cases hu
    obtain ⟨items, hitems, w, hw, hwe⟩ := mem_of_listOf hlist he
    cases hitems
    obtain ⟨x, hx, i, hxw⟩ := Entity.mem_prepareAll hprepared hw
    exact ⟨entries, entities, x, i, w, rfl, hentities, hx, hxw, hwe⟩

/-- Every field of a normalized model was given in a list of fields of a list of entities, or is a
primary key that was made up. -/
theorem Model.exists_field {raw : Value} {m : Model} (hm : Model.normalize raw = .ok m)
    {e : Entity} (he : e ∈ m.entities) {f : Field} (hf : f ∈ e.fields) :
    ∃ entries entities fieldEntries fields, raw = .map entries ∧
      Value.member? "entities" entries = some (.list entities) ∧
      .map fieldEntries ∈ entities ∧
      Value.member? "fields" fieldEntries = some (.list fields) ∧
      ∃ x, (x = Entity.synthesizedKey ∨ x ∈ fields) ∧ Field.read x = .ok f := by
  obtain ⟨entries, entities, x, i, w, rfl, hentities, hx, hxw, hwe⟩ := Model.exists_entity hm he
  obtain ⟨fieldEntries, fields, rfl, hfields, y, hy, hyf⟩ := Entity.fields_of_prepare hxw hwe hf
  exact ⟨entries, entities, fieldEntries, fields, rfl, hentities, hx, hfields, y, hy, hyf⟩

/-! ## 3. Properties that parts inherit -/

/-- A property of values that their parts inherit, and the empty map has. -/
structure Hereditary (P : Value → Prop) : Prop where
  nothing : P (.map [])
  item : ∀ {items : List Value} {v : Value}, P (.list items) → v ∈ items → P v
  entry : ∀ {entries : List (Scalar × Value)} {p : Scalar × Value},
    P (.map entries) → p ∈ entries → P p.2

theorem Hereditary.member {P : Value → Prop} (hP : Hereditary P)
    {entries : List (Scalar × Value)} {key : String} {v : Value} (h : P (.map entries))
    (hv : Value.member? key entries = some v) : P v :=
  hP.entry h (Entries.mem_of_lookup hv)

theorem Hereditary.field {P : Value → Prop} (hP : Hereditary P)
    {entries : List (Scalar × Value)} {names : List String} {v : Value} (h : P (.map entries))
    (hv : field? entries names = some v) : P v := by
  obtain ⟨key, -, hmember⟩ := List.exists_of_findSome?_eq_some hv
  exact hP.member h hmember

/-- The constraints of a field are the typed view of a part of it. -/
theorem Field.exists_given {P : Value → Prop} (hP : Hereditary P) {v : Value} (h : P v)
    {f : Field} (hf : Field.read v = .ok f) :
    ∃ given, f.rules = Constraints.ofEntries given ∧ P (.map given) := by
  obtain ⟨es, rfl, -, -, -, -, hconstraints⟩ := Field.read_eq_ok.mp hf
  have hnothing : f.constraints = none →
      ∃ given, f.rules = Constraints.ofEntries given ∧ P (.map given) := fun hnone => by
    refine ⟨[], ?_, hP.nothing⟩
    rw [Field.rules, hnone]
    rfl
  rcases optionalField_eq_ok.mp hconstraints with ⟨-, hnone⟩ | ⟨u, hu, hoptional⟩
  · exact hnothing hnone
  · cases hsome : f.constraints with
    | none => exact hnothing hsome
    | some c =>
      rw [hsome] at hoptional
      obtain ⟨given, rfl, -, rfl⟩ := Constraints.read_eq_ok.mp (optional_eq_some.mp hoptional).2
      refine ⟨given, ?_, hP.field h hu⟩
      rw [Field.rules, hsome]
      rfl

/-- **Constraints are given.**  The constraints of every field of a normalized model are the typed
view of a map that has whatever the input and all its parts have. -/
theorem Model.exists_given {P : Value → Prop} (hP : Hereditary P) (hkey : P Entity.synthesizedKey)
    {raw : Value} {m : Model} (hraw : P raw) (hm : Model.normalize raw = .ok m) {e : Entity}
    (he : e ∈ m.entities) {f : Field} (hf : f ∈ e.fields) :
    ∃ given, f.rules = Constraints.ofEntries given ∧ P (.map given) := by
  obtain ⟨entries, entities, fieldEntries, fields, rfl, hentities, hmem, hfields, x, hx, hxf⟩ :=
    Model.exists_field hm he hf
  refine Field.exists_given hP ?_ hxf
  rcases hx with rfl | hx
  · exact hkey
  · exact hP.item (hP.member (hP.item (hP.member hraw hentities) hmem) hfields) hx

end Schemata
