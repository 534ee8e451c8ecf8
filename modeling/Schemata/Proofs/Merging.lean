import Schemata.Model.Basic
import Schemata.Proofs.Entries
/-!
# What repeated names leave of a model

The documents hold entities and fields in maps, by their names.  Of several with one name the last
is left, in the place of the first.  A list of required names stands beside the fields, and there a
name is found if any field of that name is required.

* `Entries.lastOfEach`: of the items of a list with one name the last, in the place of the first.
* `Entries.ofList_map`: a map that is made of items holds these.
* `Entity.merged`, `Model.merged`: what is left of an entity and of a model.  Where no name is
  repeated that is all of it (`Entity.merged_of_nodup`, `Model.merged_of_nodup`).
-/

namespace Schemata

namespace Entries

variable {κ μ ν α : Type} [BEq κ]

/-! ## 1. Maps with other values -/

/-- A map with a function of its values. -/
def onValues (g : μ → ν) (es : Entries κ μ) : Entries κ ν := es.map fun p => (p.1, g p.2)

theorem put_onValues (g : μ → ν) (key : κ) (v : μ) : ∀ es : Entries κ μ,
    put key (g v) (onValues g es) = onValues g (put key v es)
  | [] => rfl
  | (k, w) :: rest => by
    have hrest := put_onValues g key v rest
    simp only [onValues, List.map_cons, put] at hrest ⊢
    cases k == key with
    | true => rfl
    | false => exact congrArg ((k, g w) :: ·) hrest

theorem putAll_onValues (g : μ → ν) : ∀ more es : Entries κ μ,
    putAll (onValues g es) (onValues g more) = onValues g (putAll es more)
  | [], _ => rfl
  | p :: more, es => by
    have hput : put p.1 (g p.2) (onValues g es) = onValues g (put p.1 p.2 es) :=
      put_onValues g p.1 p.2 es
    have hrest := putAll_onValues g more (put p.1 p.2 es)
    rw [← hput] at hrest
    exact hrest

theorem ofList_onValues (g : μ → ν) (pairs : Entries κ μ) :
    ofList (onValues g pairs) = onValues g (ofList pairs) := putAll_onValues g pairs []

/-! ## 2. The last item of each name -/

/-- Of the items with one name the last, in the place of the first. -/
def lastOfEach (name : α → κ) (items : List α) : List α :=
  (ofList (items.map fun x => (name x, x))).map Prod.snd

variable [LawfulBEq κ] {name : α → κ} {items : List α}

theorem mem_of_mem_lastOfEach {x : α} (h : x ∈ lastOfEach name items) : x ∈ items := by
  obtain ⟨p, hp, rfl⟩ := List.mem_map.mp h
  obtain ⟨y, hy, rfl⟩ := List.mem_map.mp (mem_ofList hp)
  exact hy

/-- **A map of items** has the last item of each name. -/
theorem ofList_map (name : α → κ) (value : α → ν) (items : List α) :
    ofList (items.map fun x => (name x, value x))
      = (lastOfEach name items).map fun x => (name x, value x) := by
  have hpairs : (items.map fun x => (name x, value x))
      = onValues value (items.map fun x => (name x, x)) := by
    rw [onValues, List.map_map]
    rfl
  rw [hpairs, ofList_onValues, onValues, lastOfEach, List.map_map]
  refine List.map_congr_left fun p hp => ?_
  obtain ⟨x, -, rfl⟩ := List.mem_map.mp (mem_ofList hp)
  rfl

/-- The names of the items that are left are all names, where they first occur. -/
theorem map_lastOfEach (name : α → κ) (items : List α) :
    (lastOfEach name items).map name = (items.map name).eraseDups := by
  rw [← keys_ofList_map items name name, ofList_map, keys, List.map_map]
  rfl

theorem exists_mem_lastOfEach {x : α} (h : x ∈ items) :
    ∃ y ∈ lastOfEach name items, name y = name x := by
  have hname : name x ∈ (lastOfEach name items).map name := by
    rw [map_lastOfEach, List.mem_eraseDups]
    exact List.mem_map_of_mem h
  exact List.mem_map.mp hname

theorem lastOfEach_of_nodup (h : (items.map name).Nodup) : lastOfEach name items = items := by
  rw [lastOfEach, ofList_map_of_nodup h fun x => x, List.map_map]
  exact List.map_id _

end Entries

/-! ## 3. Entities and models -/

/-- Whether an entity requires a field of a name. -/
def Entity.requires (e : Entity) (name : String) : Bool :=
  e.fields.any fun f => f.required && f.name == name

/-- What is left of an entity: of the fields with one name the last, required if any of them is. -/
def Entity.merged (e : Entity) : Entity :=
  { e with fields := (Entries.lastOfEach Field.name e.fields).map fun f =>
      { f with required := e.requires f.name } }

/-- What is left of a model: of the entities with one name the last. -/
def Model.merged (m : Model) : Model :=
  { m with entities := (Entries.lastOfEach Entity.name m.entities).map Entity.merged }

/-- The list of required names, which knows nothing of places. -/
theorem Entity.contains_required (e : Entity) (name : String) :
    ((e.fields.filter Field.required).map Field.name).contains name = e.requires name := by
  rw [requires, List.contains_eq_any_beq, List.any_map, List.any_filter]
  refine List.any_congr rfl fun f => ?_
  rw [Function.comp_apply, Bool.beq_comm]

/-- A field with a name of its own is required if its name is. -/
theorem Entity.requires_of_nodup {e : Entity} (h : e.fieldNames.Nodup) {f : Field}
    (hf : f ∈ e.fields) : e.requires f.name = f.required := by
  rw [requires, Bool.eq_iff_iff, List.any_eq_true]
  constructor
  · rintro ⟨f', hf', hboth⟩
    obtain ⟨hrequired, hname⟩ := Bool.and_eq_true_iff.mp hboth
    rw [← List.inj_on_of_nodup_map h hf' hf (eq_of_beq hname)]
    exact hrequired
  · exact fun hrequired => ⟨f, hf, Bool.and_eq_true_iff.mpr ⟨hrequired, beq_self_eq_true _⟩⟩

theorem Entity.merged_of_nodup {e : Entity} (h : e.fieldNames.Nodup) : e.merged = e := by
  have hfields : ∀ f ∈ e.fields, { f with required := e.requires f.name } = f := by
    intro f hf
    rw [requires_of_nodup h hf]
  rw [merged, Entries.lastOfEach_of_nodup h, List.map_congr_left hfields, List.map_id']

theorem Entity.mem_fields_merged {e : Entity} {f : Field} (h : f ∈ e.merged.fields) :
    ∃ f' ∈ e.fields, { f' with required := e.requires f'.name } = f := by
  obtain ⟨f', hf', rfl⟩ := List.mem_map.mp h
  exact ⟨f', Entries.mem_of_mem_lastOfEach hf', rfl⟩

/-- Every name of a field is left. -/
theorem Entity.exists_merged {e : Entity} {f : Field} (h : f ∈ e.fields) :
    ∃ f' ∈ e.merged.fields, f'.name = f.name := by
  obtain ⟨f', hf', hname⟩ : ∃ f' ∈ Entries.lastOfEach Field.name e.fields, f'.name = f.name :=
    Entries.exists_mem_lastOfEach h
  exact ⟨_, List.mem_map_of_mem hf', hname⟩

theorem Model.mem_entities_merged {m : Model} {e : Entity} (h : e ∈ m.merged.entities) :
    ∃ e' ∈ m.entities, e'.merged = e := by
  obtain ⟨e', he', rfl⟩ := List.mem_map.mp h
  exact ⟨e', Entries.mem_of_mem_lastOfEach he', rfl⟩

/-- The names of the entities that are left are all names, where they first occur. -/
theorem Model.entityNames_merged (m : Model) : m.merged.entityNames = m.entityNames.eraseDups := by
  have hnames : m.merged.entityNames
      = (Entries.lastOfEach Entity.name m.entities).map Entity.name := by
    rw [entityNames, merged, List.map_map]
    rfl
  rw [hnames, Entries.map_lastOfEach, entityNames]

theorem Model.merged_of_nodup {m : Model} (hentities : m.entityNames.Nodup)
    (hfields : ∀ e ∈ m.entities, e.fieldNames.Nodup) : m.merged = m := by
  have hmerged : ∀ e ∈ m.entities, e.merged = e := fun e he => Entity.merged_of_nodup (hfields e he)
  rw [merged, Entries.lastOfEach_of_nodup hentities, List.map_congr_left hmerged, List.map_id']

end Schemata
