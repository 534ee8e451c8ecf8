import Schemata.Model.Normal
import Schemata.Proofs.Entries
import Schemata.Proofs.Outcome
/-!
# Resolving the ends of relationships

What a normalized model guarantees about names, and which relationships have both ends.

* `lookup_indexOf`: the index has the first entity of every name.
* `isIndexed_of_normalize`: in a normalized model names are looked up among its own entities.
* `mem_resolved`: a link is a relationship of the model with the entities that its ends name.
* `indexedLinks` numbers the links by the places of their relationships, unresolved ones counted.
-/

namespace Schemata.Model

/-! ## 1. Normalized models -/

theorem normalize_eq_ok {raw : Value} {m : Model} :
    normalize raw = .ok m ↔ ∃ v, prepare raw = .ok v ∧ read v = .ok m := by
  unfold normalize
  rw [bind_eq_ok]
  constructor
  · rintro ⟨v, hv, hm⟩
    refine ⟨v, hv, ?_⟩
    cases hread : read v with
    | ok m' => rw [hread] at hm; cases hm; rfl
    | bad cs => rw [hread] at hm; cases hm
  · rintro ⟨v, hv, hm⟩
    refine ⟨v, hv, ?_⟩
    rw [hm]
    rfl

/-- A model that was read looks names up among its own entities. -/
theorem eq_of_read {v : Value} {m : Model} (h : read v = .ok m) :
    m = Model.of m.entities m.relationships := by
  obtain ⟨es, -, hread⟩ := record_eq_ok.mp h
  obtain ⟨g, relationships, hg, -, rfl⟩ := Checked.and_eq_ok.mp hread
  obtain ⟨f, entities, hf, -, rfl⟩ := Checked.and_eq_ok.mp hg
  cases hf
  rfl

/-- Whether the index of a model is the one of its own entities. -/
def IsIndexed (m : Model) : Prop := m.index = indexOf m.entities

theorem isIndexed_of_normalize {raw : Value} {m : Model} (h : normalize raw = .ok m) :
    m.IsIndexed := by
  obtain ⟨v, -, hread⟩ := normalize_eq_ok.mp h
  rw [eq_of_read hread]
  rfl

/-! ## 2. Names and links -/

theorem lookup_map_name (name : String) : ∀ entities : List Entity,
    (entities.map fun e => (e.name, e)).lookup name = entities.find? fun e => e.name = name
  | [] => rfl
  | e :: rest => by
    rw [List.map_cons, List.lookup_cons, lookup_map_name name rest, List.find?_cons]
    by_cases hname : e.name = name
    · simp [hname]
    · have hother : (name == e.name) = false := beq_eq_false_iff_ne.mpr (Ne.symm hname)
      simp [hname, hother]

/-- **The index has the first entity of every name**: one that comes later finds the name taken. -/
theorem lookup_indexOf (entities : List Entity) (name : String) :
    (indexOf entities).lookup name = entities.find? fun e => e.name = name := by
  rw [indexOf, Entries.lookup_addAll, List.lookup_nil, Option.none_or, lookup_map_name]

/-- A name is looked up as the first entity of that name. -/
theorem entity?_of_isIndexed {m : Model} (hm : m.IsIndexed) (name : String) :
    m.entity? name = m.entities.find? fun e => e.name = name := by
  rw [entity?, hm, lookup_indexOf]

theorem mem_of_entity? {m : Model} (hm : m.IsIndexed) {name : String} {e : Entity}
    (h : m.entity? name = some e) : e ∈ m.entities ∧ e.name = name := by
  rw [entity?_of_isIndexed hm] at h
  exact ⟨List.mem_of_find?_eq_some h, by simpa using List.find?_some h⟩

/-- A relationship with its ends, if it has both. -/
def link? (m : Model) (r : Relationship) : Option Link :=
  (m.resolve r).map fun (s, t) => ⟨r, s, t⟩

theorem resolved_eq (m : Model) : m.resolved = m.relationships.filterMap m.link? := rfl

theorem link?_eq_some {m : Model} {r : Relationship} {l : Link} :
    m.link? r = some l ↔ l.relationship = r ∧ m.entity? r.source = some l.source ∧
      m.entity? r.target = some l.target := by
  obtain ⟨r', s, t⟩ := l
  unfold link? resolve
  cases hs : m.entity? r.source <;> cases ht : m.entity? r.target <;> simp [eq_comm]

theorem mem_resolved {m : Model} {l : Link} :
    l ∈ m.resolved ↔ l.relationship ∈ m.relationships ∧
      m.entity? l.relationship.source = some l.source ∧
      m.entity? l.relationship.target = some l.target := by
  rw [resolved_eq, List.mem_filterMap]
  constructor
  · rintro ⟨r, hr, hl⟩
    obtain ⟨rfl, hs, ht⟩ := link?_eq_some.mp hl
    exact ⟨hr, hs, ht⟩
  · rintro ⟨hr, hs, ht⟩
    exact ⟨l.relationship, hr, link?_eq_some.mpr ⟨rfl, hs, ht⟩⟩

theorem source_mem {m : Model} (hm : m.IsIndexed) {l : Link} (h : l ∈ m.resolved) :
    l.source ∈ m.entities ∧ l.source.name = l.relationship.source :=
  mem_of_entity? hm (mem_resolved.mp h).2.1

theorem target_mem {m : Model} (hm : m.IsIndexed) {l : Link} (h : l ∈ m.resolved) :
    l.target ∈ m.entities ∧ l.target.name = l.relationship.target :=
  mem_of_entity? hm (mem_resolved.mp h).2.2

/-! ## 3. Links with the places of their relationships -/

/-- The links of relationships, numbered from an index on. -/
def linksFrom (m : Model) (index : Nat) (rs : List Relationship) : List (Nat × Link) :=
  (rs.zipIdx index).filterMap fun x => (m.link? x.1).map (x.2, ·)

/-- The links of a model, each with the index of its relationship. -/
def indexedLinks (m : Model) : List (Nat × Link) := m.linksFrom 0 m.relationships

theorem linksFrom_cons (m : Model) (index : Nat) (r : Relationship) (rest : List Relationship) :
    m.linksFrom index (r :: rest)
      = ((m.link? r).map (index, ·)).toList ++ m.linksFrom (index + 1) rest := by
  unfold linksFrom
  rw [List.zipIdx_cons, List.filterMap_cons]
  cases m.link? r <;> rfl

theorem linksFrom_links (m : Model) : ∀ (rs : List Relationship) (index : Nat),
    (m.linksFrom index rs).map Prod.snd = rs.filterMap m.link?
  | [], _ => rfl
  | r :: rest, index => by
    rw [linksFrom_cons, List.map_append, linksFrom_links m rest, List.filterMap_cons]
    cases m.link? r <;> rfl

theorem indexedLinks_links (m : Model) : m.indexedLinks.map Prod.snd = m.resolved :=
  linksFrom_links m m.relationships 0

end Schemata.Model
