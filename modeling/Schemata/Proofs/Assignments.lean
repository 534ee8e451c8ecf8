import Schemata.Proofs.Resolution
import Schemata.Unchecked
/-!
# Looking names up in a model that is assigned to

A model makes its table of entities when it is read, and is meant to be left alone from then on.
Its attributes can be assigned all the same, and no assignment but one to the table itself changes
what is found there.

* `Model.InUse.Assigned`: what a model has become by assignments.
* `Model.InUse.assigned_after`, `Model.InUse.assigned_run`: one assignment, and several in turn.
* `Model.InUse.lookups_of_run`: names are looked up in the list of entities that was read, which is
  the current one until another list is assigned.
-/

namespace Schemata

open Coercion

/-- The first entity of a name in a list. -/
def Entity.firstNamed? (entities : List Entity) (name : String) : Option Entity :=
  entities.find? fun e => e.name = name

namespace Model.InUse

/-! ## 1. What assignments give -/

/-- The list of entities that an assignment gives, if it gives one. -/
def givenEntities? : Assignment → Option (List Entity)
  | .value attr v => if attr = "entities" then (listOf Entity.read v).toOption else none
  | .entities items => (Checked.each (Edit.Item.read Entity.read) 0 items).toOption
  | .relationships _ => none

/-- What an assignment stores in place of the table, if it does. -/
def givenTable? : Assignment → Option Value
  | .value attr v => if attr = tableName then some v else none
  | .entities _ | .relationships _ => none

/-- What the last of some assignments gives that gives anything. -/
def last? {α : Type} (given? : Assignment → Option α) (assignments : List Assignment) : Option α :=
  (assignments.filterMap given?).getLast?

theorem last?_cons {α : Type} (given? : Assignment → Option α) (a : Assignment)
    (rest : List Assignment) : last? given? (a :: rest) = (last? given? rest).or (given? a) := by
  unfold last?
  rw [List.filterMap_cons]
  cases given? a with
  | none => rw [Option.or_none]
  | some x =>
    rw [List.getLast?_cons]
    cases (rest.filterMap given?).getLast? <;> rfl

theorem last?_singleton {α : Type} (given? : Assignment → Option α) (a : Assignment) :
    last? given? [a] = given? a := by
  rw [last?_cons]
  exact Option.none_or

theorem last?_eq_none {α : Type} {given? : Assignment → Option α} {assignments : List Assignment} :
    last? given? assignments = none ↔ ∀ a ∈ assignments, given? a = none := by
  rw [last?, List.getLast?_eq_none_iff, List.filterMap_eq_nil_iff]

/-- **What a model has become by assignments**: its index is what it was before, the list of
entities is the last one that was given, and so is what is stored in place of the table. -/
structure Assigned (u : InUse) (assignments : List Assignment) (u' : InUse) : Prop where
  index : u'.model.index = u.model.index
  entities : u'.model.entities = (last? givenEntities? assignments).getD u.model.entities
  table : u'.table = (last? givenTable? assignments).or u.table

theorem Assigned.nothing (u : InUse) : Assigned u [] u := ⟨rfl, rfl, rfl⟩

theorem Assigned.cons {u u' u'' : InUse} {a : Assignment} {rest : List Assignment}
    (h : Assigned u [a] u') (h' : Assigned u' rest u'') : Assigned u (a :: rest) u'' where
  index := h'.index.trans h.index
  entities := by
    have hone := h.entities
    rw [last?_singleton] at hone
    rw [h'.entities, hone, last?_cons, Option.getD_or]
  table := by
    have hone := h.table
    rw [last?_singleton] at hone
    rw [h'.table, hone, last?_cons, Option.or_assoc]

/-! ## 2. Assignments -/

/-- A model after an assignment; one that fails changes nothing. -/
def after (u : InUse) (a : Assignment) : InUse := (u.assign a).toOption.getD u

/-- A model after assignments in turn. -/
def run (u : InUse) (assignments : List Assignment) : InUse := assignments.foldl after u

theorem toOption_assign {α ρ : Type} (attr : String) (value : Checked α) (update : α → ρ) :
    (Edit.assign attr value update).toOption = value.toOption.map update := by
  cases value <;> rfl

/-- Names that are no fields are not assigned. -/
theorem refuse_getD {ρ : Type} (record : String) (derived : List String) (attr : String) (r : ρ) :
    (Edit.refuse record derived attr r).toOption.getD r = r := by
  unfold Edit.refuse
  split
  · rfl
  · split <;> rfl

/-- What assigning a value does to a model itself. -/
theorem fields_of_set (m : Model) (attr : String) (v : Value) :
    ((m.set attr v).toOption.getD m).index = m.index ∧
      ((m.set attr v).toOption.getD m).entities
        = (givenEntities? (.value attr v)).getD m.entities := by
  unfold Model.set
  split
  · rw [toOption_assign, givenEntities?, if_pos rfl]
    cases (listOf Entity.read v).toOption <;> exact ⟨rfl, rfl⟩
  · have hother : "relationships" ≠ "entities" := by decide
    rw [toOption_assign, givenEntities?, if_neg hother]
    cases (readRelationships v).toOption <;> exact ⟨rfl, rfl⟩
  · rename_i hentities _
    rw [refuse_getD, givenEntities?, if_neg hentities]
    exact ⟨rfl, rfl⟩

/-- What an assignment does to a model itself. -/
theorem fields_of_assign (m : Model) (a : Assignment) :
    ((m.assign a).toOption.getD m).index = m.index ∧
      ((m.assign a).toOption.getD m).entities = (givenEntities? a).getD m.entities := by
  cases a with
  | value attr v => exact fields_of_set m attr v
  | entities items =>
    rw [Model.assign, toOption_assign, givenEntities?]
    cases (Checked.each (Edit.Item.read Entity.read) 0 items).toOption <;> exact ⟨rfl, rfl⟩
  | relationships items =>
    rw [Model.assign, toOption_assign, givenEntities?]
    cases (Checked.each (Edit.Item.read Relationship.read) 0 items).toOption <;> exact ⟨rfl, rfl⟩

/-- An assignment stores something in place of the table, or is one to the model itself. -/
theorem after_eq (u : InUse) (a : Assignment) :
    (∃ v, a = .value tableName v ∧ u.after a = { u with table := some v }) ∨
      givenTable? a = none ∧
        u.after a = { u with model := (u.model.assign a).toOption.getD u.model } := by
  have hmodel (x : Except Edit.Fault Model) :
      (x.map fun m => { u with model := m }).toOption.getD u
        = { u with model := x.toOption.getD u.model } := by
    cases x <;> rfl
  cases a with
  | value attr v =>
    by_cases htable : attr = tableName
    · refine .inl ⟨v, by rw [htable], ?_⟩
      rw [after, assign, set, if_pos htable]
      rfl
    · refine .inr ⟨if_neg htable, ?_⟩
      rw [after, assign, set, if_neg htable]
      exact hmodel _
  | entities items => exact .inr ⟨rfl, hmodel _⟩
  | relationships items => exact .inr ⟨rfl, hmodel _⟩

/-- **One assignment**, whether it fails or not. -/
theorem assigned_after (u : InUse) (a : Assignment) : Assigned u [a] (u.after a) := by
  rcases after_eq u a with ⟨v, rfl, hafter⟩ | ⟨htable, hafter⟩
  · have hother : tableName ≠ "entities" := by decide
    rw [hafter]
    refine ⟨rfl, ?_, ?_⟩
    · rw [last?_singleton, givenEntities?, if_neg hother]
      rfl
    · rw [last?_singleton, givenTable?, if_pos rfl]
      rfl
  · obtain ⟨hindex, hentities⟩ := fields_of_assign u.model a
    rw [hafter]
    refine ⟨hindex, ?_, ?_⟩
    · rw [last?_singleton]
      exact hentities
    · rw [last?_singleton, htable, Option.none_or]

/-- **Assignments in turn.** -/
theorem assigned_run : ∀ (assignments : List Assignment) (u : InUse),
    Assigned u assignments (u.run assignments)
  | [], u => .nothing u
  | a :: rest, u => (assigned_after u a).cons (assigned_run rest (u.after a))

/-! ## 3. Looking up -/

/-- Of a name the index has the first entity. -/
theorem entity?_of_index {m : Model} {entities : List Entity} (h : m.index = indexOf entities)
    (name : String) : m.entity? name = Entity.firstNamed? entities name := by
  rw [entity?, h, lookup_indexOf, Entity.firstNamed?]

/-- The entities at both ends of a relationship, each the first of its name in a list. -/
def ends? (entities : List Entity) (r : Relationship) : Option (Entity × Entity) :=
  match Entity.firstNamed? entities r.source, Entity.firstNamed? entities r.target with
  | some source, some target => some (source, target)
  | _, _ => none

theorem resolve_of_index {m : Model} {entities : List Entity} (h : m.index = indexOf entities)
    (r : Relationship) : m.resolve r = ends? entities r := by
  rw [Model.resolve, entity?_of_index h, entity?_of_index h]
  rfl

/-- What is found by name in a model whose table nothing was stored in place of. -/
theorem find?_of_index {u : InUse} {entities : List Entity} (h : u.table = none)
    (hindex : u.model.index = indexOf entities) (name : String) :
    u.find? name = .ok ((Entity.firstNamed? entities name).map Entity.inspect) := by
  rw [find?, h, ← entity?_of_index hindex]

theorem inUse_resolve_of_index {u : InUse} {entities : List Entity} (h : u.table = none)
    (hindex : u.model.index = indexOf entities) (r : Relationship) :
    u.resolve r = .ok ((ends? entities r).map fun p => (p.1.inspect, p.2.inspect)) := by
  simp only [resolve, find?_of_index h hindex, bind, Except.bind, ends?]
  cases Entity.firstNamed? entities r.source <;> cases Entity.firstNamed? entities r.target <;> rfl

/-- **What is found after assignments.**  Of a model that was read, and after any assignments to its
attributes but the table itself, successful or failing, of values or of records: a name is looked up
among the entities that were read, where the first counts, and a relationship has the two entities
that are found for its ends.  The list of entities is the last one that was given; as long as none
was, names are looked up in it. -/
theorem lookups_of_run {v : Value} {m : Model} (hm : Model.read v = .ok m)
    {assignments : List Assignment} (htable : ∀ a ∈ assignments, givenTable? a = none) {u : InUse}
    (hu : InUse.run { model := m } assignments = u) :
    (∀ name, u.model.entity? name = Entity.firstNamed? m.entities name ∧
      u.find? name = .ok ((Entity.firstNamed? m.entities name).map Entity.inspect)) ∧
    (∀ r, u.model.resolve r = ends? m.entities r ∧
      u.resolve r = .ok ((ends? m.entities r).map fun p => (p.1.inspect, p.2.inspect))) ∧
    u.model.entities = (last? givenEntities? assignments).getD m.entities ∧
    ((∀ a ∈ assignments, givenEntities? a = none) →
      (∀ name, u.model.entity? name = Entity.firstNamed? u.model.entities name) ∧
      ∀ r, u.model.resolve r = ends? u.model.entities r) := by
  have hassigned : Assigned { model := m } assignments u := hu ▸ assigned_run assignments _
  have hindex : u.model.index = indexOf m.entities := by
    rw [hassigned.index, Model.eq_of_read hm]
    rfl
  have hnone : u.table = none := by
    rw [hassigned.table, last?_eq_none.mpr htable]
    rfl
  have hentity := entity?_of_index hindex
  have hresolve := resolve_of_index hindex
  refine ⟨fun name => ⟨hentity name, find?_of_index hnone hindex name⟩,
    fun r => ⟨hresolve r, inUse_resolve_of_index hnone hindex r⟩, hassigned.entities,
    fun hkept => ?_⟩
  have hcurrent : u.model.entities = m.entities := by
    rw [hassigned.entities, last?_eq_none.mpr hkept]
    rfl
  rw [hcurrent]
  exact ⟨hentity, hresolve⟩

/-- Two entities of one name. -/
def namesakes : Value :=
  let entity (table : String) : Value :=
    .obj [("name", .str "dup"), ("tableName", .str table), ("fields", .list [])]
  .obj [("entities", .list [entity "first", entity "second"])]

/-- After an assignment that fails and one of relationships the first of them is found. -/
theorem lookups_of_run_namesakes :
    ∃ m u, Model.read namesakes = .ok m ∧
      InUse.run { model := m } [.value "entities" (.str "gone"), .value "relationships" .null] = u ∧
      u.find? "dup" = .ok (some "<Entity dup (first, 0 fields)>") ∧
      u.model.entity? "dup" = Entity.firstNamed? u.model.entities "dup" := by
  obtain ⟨m, hm⟩ : ∃ m, Model.read namesakes = .ok m := ⟨_, rfl⟩
  obtain ⟨u, hu⟩ : ∃ u, InUse.run { model := m }
      [.value "entities" (.str "gone"), .value "relationships" .null] = u := ⟨_, rfl⟩
  have hnoTable : ∀ a ∈ [Assignment.value "entities" (.str "gone"), .value "relationships" .null],
      givenTable? a = none :=
    List.forall_mem_cons.mpr ⟨rfl, List.forall_mem_singleton.mpr rfl⟩
  obtain ⟨hfound, -, -, hcurrent⟩ := lookups_of_run hm hnoTable hu
  refine ⟨m, u, hm, hu, (hfound "dup").2.trans ?_, (hcurrent ?_).1 "dup"⟩
  · cases hm
    rfl
  · exact List.forall_mem_cons.mpr ⟨rfl, List.forall_mem_singleton.mpr rfl⟩

/-- Once the list of entities is assigned, here with the second of them alone, the first is found
though it is in the list no more. -/
theorem found_in_former_list :
    ∃ m u second, Model.read namesakes = .ok m ∧ m.entities[1]? = some second ∧
      InUse.run { model := m } [.entities [.record second]] = u ∧
      Entity.firstNamed? u.model.entities "dup" = some second ∧
      u.find? "dup" = .ok (some "<Entity dup (first, 0 fields)>") ∧
      u.model.entity? "dup" ≠ Entity.firstNamed? u.model.entities "dup" := by
  refine ⟨_, _, _, rfl, rfl, rfl, rfl, rfl, fun h => ?_⟩
  have htables := congrArg (Option.map Entity.tableName) h
  exact absurd htables (by decide)

end Model.InUse

end Schemata
