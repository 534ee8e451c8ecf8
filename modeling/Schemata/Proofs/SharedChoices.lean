import Mathlib.Data.List.Pairwise
import Schemata.Proofs.Agreement
import Schemata.Proofs.Anchors
import Schemata.Proofs.Examples
import Schemata.Proofs.OnDisk
import Schemata.Proofs.Origins
import Schemata.Proofs.Validity
/-!
# Choices that examples share

A description copies what it takes from the constraints of a field, with one exception.  The list of
choices is copied and the choices in it are not, and the example of the field is the first of them.
So a first choice that is a list or a map stands at two places of the description as one object, and
YAML writes it with an anchor and an alias.

* `Value.nodup_spots`: no place comes twice in a value without repeated keys; `names_mem_spots` and
  `index_mem_spots` say which places there are.
* `OpenApi.hasDistinctKeys_schemas`: no key of the schemas is repeated.
* `OpenApi.nodup_objects_iff`: no object is at two places exactly if no first choice has objects.
* `Bundle.isPlain_yaml_iff`: the same for the YAML file of a bundle.
-/

namespace Schemata

/-! ## 1. Places in a value without repeated keys -/

namespace Value

theorem mem_itemSpots {p : Spot} : ∀ {items : List Value} {n : Nat}, p ∈ itemSpots n items ↔
    ∃ i v rest, items[i]? = some v ∧ p = .index (n + i) :: rest ∧ rest ∈ v.spots
  | [], n => by simp [itemSpots]
  | v :: more, n => by
    rw [itemSpots, List.mem_append, List.mem_map, mem_itemSpots]
    constructor
    · rintro (⟨rest, hrest, rfl⟩ | ⟨i, w, rest, hw, rfl, hrest⟩)
      · exact ⟨0, v, rest, rfl, rfl, hrest⟩
      · exact ⟨i + 1, w, rest, hw, by rw [Nat.add_assoc, Nat.add_comm 1 i], hrest⟩
    · rintro ⟨i, w, rest, hw, rfl, hrest⟩
      cases i with
      | zero =>
        cases hw
        exact .inl ⟨rest, hrest, rfl⟩
      | succ i => exact .inr ⟨i, w, rest, hw, by rw [Nat.add_assoc, Nat.add_comm 1 i], hrest⟩

theorem mem_entrySpots {p : Spot} : ∀ {entries : List (Scalar × Value)}, p ∈ entrySpots entries ↔
    ∃ k v rest, (k, v) ∈ entries ∧ p = .key k :: rest ∧ rest ∈ v.spots
  | [] => by simp [entrySpots]
  | (k, v) :: more => by
    rw [entrySpots, List.mem_append, List.mem_map, mem_entrySpots]
    constructor
    · rintro (⟨rest, hrest, rfl⟩ | ⟨k', w, rest, hw, rfl, hrest⟩)
      · exact ⟨k, v, rest, List.mem_cons_self, rfl, hrest⟩
      · exact ⟨k', w, rest, List.mem_cons_of_mem _ hw, rfl, hrest⟩
    · rintro ⟨k', w, rest, hw, rfl, hrest⟩
      rcases List.mem_cons.mp hw with heq | hmore
      · cases heq
        exact .inl ⟨rest, hrest, rfl⟩
      · exact .inr ⟨k', w, rest, hmore, rfl, hrest⟩

/-- The places behind one step are as different as they were. -/
theorem nodup_map_cons {step : Step} {places : List Spot} (h : places.Nodup) :
    (places.map (step :: ·)).Nodup :=
  h.map fun _ _ heq => (List.cons.inj heq).2

mutual

/-- **No place comes twice** in a value without repeated keys. -/
theorem nodup_spots : ∀ {v : Value}, v.hasDistinctKeys = true → v.spots.Nodup
  | list items, h => by
    rw [hasDistinctKeys] at h
    rw [spots, List.nodup_cons, mem_itemSpots]
    exact ⟨by rintro ⟨_, _, _, _, ⟨⟩, _⟩, nodup_itemSpots h⟩
  | map entries, h => by
    rw [hasDistinctKeys, Bool.and_eq_true, decide_eq_true_eq] at h
    rw [spots, List.nodup_cons, mem_entrySpots]
    exact ⟨by rintro ⟨_, _, _, _, ⟨⟩, _⟩, nodup_entrySpots h.1 h.2⟩
  | pair first second, h => by
    rw [hasDistinctKeys, Bool.and_eq_true] at h
    rw [spots, List.nodup_cons, List.mem_append, List.mem_map, List.mem_map, List.nodup_append]
    refine ⟨by rintro (⟨_, _, ⟨⟩⟩ | ⟨_, _, ⟨⟩⟩), nodup_map_cons (nodup_spots h.1),
      nodup_map_cons (nodup_spots h.2), ?_⟩
    rintro _ hp _ hq rfl
    obtain ⟨p, -, rfl⟩ := List.mem_map.mp hp
    obtain ⟨q, -, heq⟩ := List.mem_map.mp hq
    cases heq
  | atom _, _ | set _, _ | outer .., _ => List.nodup_nil

theorem nodup_itemSpots : ∀ {items : List Value} {n : Nat}, haveDistinctKeys items = true →
    (itemSpots n items).Nodup
  | [], _, _ => List.nodup_nil
  | v :: rest, n, h => by
    rw [haveDistinctKeys, Bool.and_eq_true] at h
    rw [itemSpots, List.nodup_append]
    refine ⟨nodup_map_cons (nodup_spots h.1), nodup_itemSpots h.2, ?_⟩
    rintro _ hp _ hq rfl
    obtain ⟨p, -, rfl⟩ := List.mem_map.mp hp
    obtain ⟨i, w, q, -, heq, -⟩ := mem_itemSpots.mp hq
    have hindex : n = n + 1 + i := Step.index.inj (List.cons.inj heq).1
    omega

theorem nodup_entrySpots : ∀ {entries : List (Scalar × Value)}, (Entries.keys entries).Nodup →
    membersHaveDistinctKeys entries = true → (entrySpots entries).Nodup
  | [], _, _ => List.nodup_nil
  | (k, v) :: rest, hkeys, h => by
    rw [membersHaveDistinctKeys, Bool.and_eq_true] at h
    rw [Entries.keys_cons, List.nodup_cons] at hkeys
    rw [entrySpots, List.nodup_append]
    refine ⟨nodup_map_cons (nodup_spots h.1), nodup_entrySpots hkeys.2 h.2, ?_⟩
    rintro _ hp _ hq rfl
    obtain ⟨p, -, rfl⟩ := List.mem_map.mp hp
    obtain ⟨k', w, q, hmem, heq, -⟩ := mem_entrySpots.mp hq
    cases heq
    exact hkeys.1 (List.mem_map.mpr ⟨_, hmem, rfl⟩)

end

theorem keys_obj (es : Entries String Value) :
    Entries.keys (es.map fun (k, v) => (Scalar.str k, v)) = (Entries.keys es).map Scalar.str := by
  rw [Entries.keys, Entries.keys, List.map_map, List.map_map]
  rfl

theorem hasDistinctKeys_obj {es : Entries String Value} : (obj es).hasDistinctKeys = true ↔
    (Entries.keys es).Nodup ∧ ∀ p ∈ es, p.2.hasDistinctKeys = true := by
  rw [obj, hasDistinctKeys_map, keys_obj, List.nodup_map_iff fun _ _ h => Scalar.str.inj h,
    List.forall_mem_map]

theorem hasDistinctKeys_list {items : List Value} : (list items).hasDistinctKeys = true ↔
    ∀ v ∈ items, v.hasDistinctKeys = true := by
  rw [hasDistinctKeys, haveDistinctKeys_iff]

/-- The places behind a name in a value without repeated keys. -/
theorem name_mem_spots {v : Value} (h : v.hasDistinctKeys = true) {name : String} {rest : Spot} :
    .name name :: rest ∈ v.spots ↔ ∃ w, v.get? name = some w ∧ rest ∈ w.spots := by
  cases v with
  | map entries =>
    rw [hasDistinctKeys_map] at h
    rw [spots, List.mem_cons, mem_entrySpots]
    constructor
    · rintro (heq | ⟨k, w, q, hmem, heq, hq⟩)
      · cases heq
      · cases heq
        exact ⟨w, Entries.lookup_of_mem h.1 hmem, hq⟩
    · rintro ⟨w, hw, hrest⟩
      exact .inr ⟨.str name, w, rest, Entries.mem_of_lookup hw, rfl, hrest⟩
  | list items =>
    rw [spots, List.mem_cons, mem_itemSpots]
    refine iff_of_false (fun hmem => ?_) (by rintro ⟨_, ⟨⟩, _⟩)
    rcases hmem with heq | ⟨_, _, _, _, heq, _⟩ <;> cases heq
  | pair first second =>
    rw [spots, List.mem_cons, List.mem_append, List.mem_map, List.mem_map]
    refine iff_of_false (fun hmem => ?_) (by rintro ⟨_, ⟨⟩, _⟩)
    rcases hmem with heq | ⟨_, _, heq⟩ | ⟨_, _, heq⟩ <;> cases heq
  | atom | set | outer => exact iff_of_false nofun (by rintro ⟨_, ⟨⟩, _⟩)

/-- The places behind a path of names. -/
theorem names_mem_spots {rest : Spot} : ∀ {path : List String} {v : Value},
    v.hasDistinctKeys = true → (path.map Step.name ++ rest ∈ v.spots ↔
      ∃ w, v.at? path = some w ∧ rest ∈ w.spots)
  | [], v, _ => by simp [at?_nil]
  | name :: path, v, h => by
    rw [List.map_cons, List.cons_append, name_mem_spots h]
    constructor
    · rintro ⟨u, hu, hrest⟩
      obtain ⟨w, hw, hmem⟩ :=
        (names_mem_spots (hereditary_hasDistinctKeys.get? h hu)).mp hrest
      exact ⟨w, by rw [at?_cons, hu, Option.bind_some, hw], hmem⟩
    · rintro ⟨w, hw, hmem⟩
      obtain ⟨u, hu, hw⟩ := Option.bind_eq_some_iff.mp (at?_cons name path v ▸ hw)
      exact ⟨u, hu, (names_mem_spots (hereditary_hasDistinctKeys.get? h hu)).mpr ⟨w, hw, hmem⟩⟩

theorem index_mem_spots {items : List Value} {i : Nat} {rest : Spot} :
    .index i :: rest ∈ (list items).spots ↔ ∃ v, items[i]? = some v ∧ rest ∈ v.spots := by
  rw [spots, List.mem_cons, mem_itemSpots]
  constructor
  · rintro (heq | ⟨j, v, q, hv, heq, hq⟩)
    · cases heq
    · rw [Nat.zero_add] at heq
      cases heq
      exact ⟨v, hv, hq⟩
  · rintro ⟨v, hv, hrest⟩
    exact .inr ⟨i, v, rest, hv, by rw [Nat.zero_add], hrest⟩

/-- A value of JSON that is neither a list nor a map is an atom. -/
theorem spots_eq_nil_iff {v : Value} (h : v.isJson = true) : v.spots = [] ↔ ∃ s, v = .atom s := by
  cases v with
  | atom s => exact iff_of_true rfl ⟨s, rfl⟩
  | list | map => exact iff_of_false (List.cons_ne_nil _ _) nofun
  | set | pair | outer => cases h

end Value

namespace OpenApi

open Yaml (objects Identity)

/-! ## 2. Objects of a description -/

theorem choiceSpot_ne_exampleSpot {field field' : String} {i : Nat} {inside inside' : Spot} :
    choiceSpot field i inside ≠ exampleSpot field' inside' := by
  simp [choiceSpot, exampleSpot, Step.name]

theorem objects_eq_nil {s : Sharing} {here : Spot}
    (h : ∀ entity place inside, here ++ inside ≠ schemaSpot entity place) (places : List Spot) :
    objects s.identity here places = [] :=
  List.filterMap_eq_nil_iff.mpr fun inside _ =>
    s.identity_eq_none fun entity place => h entity place inside

theorem objects_obj {κ : Type} (identity : Identity κ) (here : Spot) (es : Entries String Value) :
    objects identity here (Value.obj es).spots = (identity here).toList ++
      es.flatMap fun p => objects identity (here ++ [.name p.1]) p.2.spots := by
  rw [Value.obj, Value.spots, Yaml.objects_nil_cons]
  congr 1
  induction es with
  | nil => rfl
  | cons p rest ih =>
    rw [List.map_cons, Value.entrySpots, Yaml.objects_append, Yaml.objects_map_cons, ih,
      List.flatMap_cons]
    rfl

/-- The objects of a description are those of its schemas. -/
theorem objects_document (s : Sharing) (config : Config) (m : Model) (stamp : String) :
    objects s.identity [] (document config m stamp).spots =
      objects s.identity [.name "components", .name "schemas"]
        (Value.obj (schemas m stamp)).spots := by
  have houter {name : String} (hname : name ≠ "components") (places : List Spot) :
      objects s.identity [.name name] places = [] :=
    objects_eq_nil (fun _ _ _ heq => hname (by cases (List.cons.inj heq).1; rfl)) places
  have hresponses (places : List Spot) :
      objects s.identity [.name "components", .name "responses"] places = [] :=
    objects_eq_nil (fun _ _ _ heq =>
      absurd (List.cons.inj (List.cons.inj heq).2).1 (by decide)) places
  have hroot : s.identity [] = none := rfl
  have hcomponents : s.identity [.name "components"] = none := rfl
  rw [document, objects_obj, hroot]
  simp only [List.flatMap_cons, List.flatMap_nil, List.nil_append, Option.toList_none,
    houter (by decide : "openapi" ≠ "components"), houter (by decide : "info" ≠ "components"),
    houter (by decide : "servers" ≠ "components"), houter (by decide : "paths" ≠ "components"),
    houter (by decide : "tags" ≠ "components"), List.append_nil]
  rw [objects_obj, hcomponents]
  simp only [List.flatMap_cons, List.flatMap_nil, List.nil_append, Option.toList_none,
    List.singleton_append, hresponses, List.append_nil]

/-! ## 3. Schemas without repeated keys -/

theorem distinct_given {key : String} {v : Option Value}
    (h : ∀ w, v = some w → w.hasDistinctKeys = true) :
    ∀ p ∈ given key v, p.2.hasDistinctKeys = true := by
  intro p hp
  cases v with
  | none => cases hp
  | some w => exact List.mem_singleton.mp hp ▸ h w rfl

theorem distinct_given_map {α : Type} {key : String} {make : α → Value}
    (h : ∀ a, (make a).hasDistinctKeys = true) (a : Option α) :
    ∀ p ∈ given key (a.map make), p.2.hasDistinctKeys = true := by
  refine distinct_given fun w hw => ?_
  obtain ⟨x, -, rfl⟩ := Option.map_eq_some_iff.mp hw
  exact h x

theorem distinct_typeLimits (f : Field) : ∀ p ∈ typeLimits f, p.2.hasDistinctKeys = true := by
  have hnumber (n : Number) : n.toValue.hasDistinctKeys = true := by cases n <;> rfl
  unfold typeLimits
  dsimp only
  split_ifs
  · rw [List.forall_mem_append, List.forall_mem_append]
    exact ⟨⟨distinct_given_map (fun _ => rfl) _, distinct_given_map (fun _ => rfl) _⟩,
      distinct_given_map (fun _ => rfl) _⟩
  · rw [List.forall_mem_append]
    exact ⟨distinct_given_map hnumber _, distinct_given_map hnumber _⟩
  · decide
  · exact List.forall_mem_nil _

/-- What documents copy from constraints has no repeated keys. -/
structure DistinctRules (c : Constraints) : Prop where
  default : ∀ v, c.default = some v → v.hasDistinctKeys = true
  choices : ∀ vs, c.choices = some vs → ∀ v ∈ vs, v.hasDistinctKeys = true

theorem distinct_propertyHead (f : Field) :
    ∀ p ∈ propertyHead f, p.2.hasDistinctKeys = true := by
  rw [propertyHead, List.forall_mem_append, List.forall_mem_append, List.forall_mem_cons,
    List.forall_mem_singleton]
  exact ⟨⟨⟨rfl, rfl⟩, distinct_given_map (fun _ => rfl) _⟩, distinct_typeLimits f⟩

theorem hasDistinctKeys_propertySchema {f : Field} (h : DistinctRules f.rules) :
    (propertySchema f).hasDistinctKeys = true := by
  have hdefault : ∀ w, usableDefault f = some w → w.hasDistinctKeys = true := by
    intro w hw
    unfold usableDefault at hw
    split at hw
    · cases hw
    · exact h.default w hw
  have hchoices : ∀ w, (usableChoices f).map Value.list = some w → w.hasDistinctKeys = true := by
    intro w hw
    obtain ⟨vs, hvs, rfl⟩ := Option.map_eq_some_iff.mp hw
    unfold usableChoices at hvs
    split at hvs
    · cases hvs
    · exact Value.hasDistinctKeys_list.mpr (h.choices vs hvs)
  rw [propertySchema, Value.hasDistinctKeys_obj, List.forall_mem_append, List.forall_mem_append]
  exact ⟨nodup_keys_property f, ⟨distinct_propertyHead f, distinct_given hdefault⟩,
    distinct_given hchoices⟩

theorem hasDistinctKeys_exampleValue {f : Field} (h : DistinctRules f.rules) (stamp : String) :
    (exampleValue f stamp).hasDistinctKeys = true := by
  rcases exampleValue_eq f stamp with ⟨choices, hchoices, hmem⟩ | htype
  · exact h.choices choices hchoices _ hmem
  · rw [htype]
    unfold typeExample
    cases f.kind <;> rfl

theorem hasDistinctKeys_ofList {α : Type} (items : List α) (name : α → String) (value : α → Value)
    (h : ∀ a ∈ items, (value a).hasDistinctKeys = true) :
    (Value.obj (Entries.ofList (items.map fun a => (name a, value a)))).hasDistinctKeys = true := by
  rw [Value.hasDistinctKeys_obj, Entries.keys_ofList_map]
  refine ⟨eraseDups_nodup _, fun p hp => ?_⟩
  obtain ⟨a, ha, rfl⟩ := List.mem_map.mp (Entries.mem_ofList hp)
  exact h a ha

theorem hasDistinctKeys_componentSchema {e : Entity} (h : ∀ f ∈ e.fields, DistinctRules f.rules)
    (stamp : String) : (componentSchema e stamp).hasDistinctKeys = true := by
  have hproperties := hasDistinctKeys_ofList e.fields Field.name propertySchema
    fun f hf => hasDistinctKeys_propertySchema (h f hf)
  have hexample : (Value.obj (exampleRecord e stamp)).hasDistinctKeys = true :=
    hasDistinctKeys_ofList e.fields Field.name (exampleValue · stamp)
      fun f hf => hasDistinctKeys_exampleValue (h f hf) stamp
  have hnames : (Value.texts (requiredNames e)).hasDistinctKeys = true := by
    rw [Value.texts, Value.hasDistinctKeys_list, List.forall_mem_map]
    exact fun _ _ => rfl
  have hrequired : ∀ p ∈ requiredEntry e, p.2.hasDistinctKeys = true := by
    unfold requiredEntry
    split_ifs
    · exact List.forall_mem_nil _
    · exact List.forall_mem_singleton.mpr hnames
  rw [componentSchema, Value.hasDistinctKeys_obj, List.forall_mem_append, List.forall_mem_append,
    List.forall_mem_cons, List.forall_mem_singleton, List.forall_mem_singleton]
  exact ⟨nodup_keys_component e _ _, ⟨⟨rfl, hproperties⟩, hrequired⟩, hexample⟩

/-- The schemas of a model whose constraints have no repeated keys have none. -/
theorem hasDistinctKeys_schemas {m : Model}
    (h : ∀ e ∈ m.entities, ∀ f ∈ e.fields, DistinctRules f.rules) (stamp : String) :
    (Value.obj (schemas m stamp)).hasDistinctKeys = true :=
  hasDistinctKeys_ofList m.entities Entity.name (componentSchema · stamp)
    fun e he => hasDistinctKeys_componentSchema (h e he) stamp

/-! ## 4. Objects at two places -/

theorem get?_schemas (m : Model) (stamp name : String) :
    (Value.obj (schemas m stamp)).get? name
      = (m.lastNamed? name).map (componentSchema · stamp) := by
  rw [Value.get?_obj]
  exact lookup_ofList_entities m (componentSchema · stamp) name

theorem get?_ofList_fields (e : Entity) (value : Field → Value) (name : String) :
    (Value.obj (Entries.ofList (e.fields.map fun f => (f.name, value f)))).get? name
      = (lastField? e name).map value := by
  rw [Value.get?_obj, Entries.lookup_ofList_map]
  rfl

theorem get?_enum (f : Field) :
    (propertySchema f).get? "enum" = (usableChoices f).map Value.list := by
  have hhead : "enum" ∉ Entries.keys (propertyHead f ++ given "default" (usableDefault f)) := by
    rw [Entries.keys_append]
    exact fun hmem => (by decide : "enum" ∉ propertyHeadKeys ++ ["default"])
      (((keys_propertyHead f).append (keys_given _ _)).subset hmem)
  have hlast : (given "enum" ((usableChoices f).map Value.list)).lookup "enum"
      = (usableChoices f).map Value.list := by
    cases usableChoices f <;> rfl
  rw [propertySchema, Value.get?_obj, List.lookup_append, Entries.lookup_of_not_mem hhead, hlast,
    Option.none_or]

theorem get?_properties (e : Entity) (stamp : String) :
    (componentSchema e stamp).get? "properties" =
      some (.obj (Entries.ofList (e.fields.map fun f => (f.name, propertySchema f)))) := by
  simp [componentSchema, Value.get?_obj, List.lookup_cons]

theorem get?_example (e : Entity) (stamp : String) :
    (componentSchema e stamp).get? "example" = some (.obj (exampleRecord e stamp)) := by
  simp only [componentSchema, requiredEntry, Value.get?_obj]
  split <;> simp [List.lookup_cons]

variable {m : Model} (h : ∀ e ∈ m.entities, ∀ f ∈ e.fields, DistinctRules f.rules) (stamp : String)

include h in
/-- The places in the choices of a field. -/
theorem choiceSpot_mem_spots {entity field : String} {i : Nat} {inside : Spot} :
    .name entity :: choiceSpot field i inside ∈ (Value.obj (schemas m stamp)).spots ↔
      ∃ e f choices v, m.lastNamed? entity = some e ∧ lastField? e field = some f ∧
        usableChoices f = some choices ∧ choices[i]? = some v ∧ inside ∈ v.spots := by
  have hat : (Value.obj (schemas m stamp)).at? [entity, "properties", field, "enum"] =
      (m.lastNamed? entity).bind fun e => (lastField? e field).bind fun f =>
        (usableChoices f).map Value.list := by
    have hnil : Value.at? [] = some := rfl
    simp only [Value.at?_cons, get?_schemas, Option.bind_map, Function.comp_def, get?_properties,
      Option.bind_some, get?_ofList_fields, get?_enum, hnil, Option.bind_fun_some]
  have hpath : .name entity :: choiceSpot field i inside =
      [entity, "properties", field, "enum"].map Step.name ++ .index i :: inside := rfl
  rw [hpath, Value.names_mem_spots (hasDistinctKeys_schemas h stamp), hat]
  simp only [Option.bind_eq_some_iff, Option.map_eq_some_iff]
  constructor
  · rintro ⟨_, ⟨e, he, f, hf, choices, hchoices, rfl⟩, hmem⟩
    obtain ⟨v, hv, hinside⟩ := Value.index_mem_spots.mp hmem
    exact ⟨e, f, choices, v, he, hf, hchoices, hv, hinside⟩
  · rintro ⟨e, f, choices, v, he, hf, hchoices, hv, hinside⟩
    exact ⟨_, ⟨e, he, f, hf, choices, hchoices, rfl⟩, Value.index_mem_spots.mpr ⟨v, hv, hinside⟩⟩

include h in
/-- The places in the example of a field. -/
theorem exampleSpot_mem_spots {entity field : String} {inside : Spot} :
    .name entity :: exampleSpot field inside ∈ (Value.obj (schemas m stamp)).spots ↔
      ∃ e f, m.lastNamed? entity = some e ∧ lastField? e field = some f ∧
        inside ∈ (exampleValue f stamp).spots := by
  have hat : (Value.obj (schemas m stamp)).at? [entity, "example", field] =
      (m.lastNamed? entity).bind fun e => (lastField? e field).map (exampleValue · stamp) := by
    have hnil : Value.at? [] = some := rfl
    simp only [Value.at?_cons, get?_schemas, Option.bind_map, Function.comp_def, get?_example,
      exampleRecord, Option.bind_some, get?_ofList_fields, hnil, Option.bind_fun_some]
  have hpath : .name entity :: exampleSpot field inside =
      [entity, "example", field].map Step.name ++ inside := rfl
  rw [hpath, Value.names_mem_spots (hasDistinctKeys_schemas h stamp), hat]
  simp only [Option.bind_eq_some_iff, Option.map_eq_some_iff]
  constructor
  · rintro ⟨_, ⟨e, he, f, hf, rfl⟩, hmem⟩
    exact ⟨e, f, he, hf, hmem⟩
  · rintro ⟨e, f, he, hf, hmem⟩
    exact ⟨_, ⟨e, he, f, hf, rfl⟩, hmem⟩

theorem nodup_filterMap_iff {α β : Type} {items : List α} (hitems : items.Nodup)
    {g : α → Option β} : (items.filterMap g).Nodup ↔
      ∀ x ∈ items, ∀ y ∈ items, ∀ b, g x = some b → g y = some b → x = y := by
  rw [List.Nodup, List.pairwise_filterMap]
  constructor
  · intro hpairs x hx y hy b hgx hgy
    by_contra hne
    have hsymm : Std.Symm fun x y : α => ∀ b, g x = some b → ∀ b', g y = some b' → b ≠ b' :=
      ⟨fun _ _ hxy b hb b' hb' heq => hxy b' hb' b hb heq.symm⟩
    exact hpairs.forall hx hy hne b hgx b hgy rfl
  · intro hinj
    refine List.Pairwise.imp_of_mem (fun {x y} hx hy hne b hgx b' hgy heq => ?_) hitems
    exact hne (hinj x hx y hy b hgx (heq ▸ hgy))

/-- The first choice of a field, among those that documents copy. -/
theorem firstChoice?_eq_some {f : Field} {v : Value} :
    firstChoice? f = some v ↔ ∃ choices, usableChoices f = some choices ∧ choices[0]? = some v := by
  unfold firstChoice? usableChoices
  cases f.rules.choices with
  | none => simp
  | some choices => cases choices <;> simp

/-- **An object is at two places of a description** exactly if it is in the first choice of a field
that is described. -/
theorem nodup_objects_iff {s : Sharing} {a : Scalar} (hs : s.whole = .atom a)
    (h : ∀ e ∈ s.model.entities, ∀ f ∈ e.fields, DistinctRules f.rules) (config : Config) :
    (objects s.identity [] (document config s.model stamp).spots).Nodup ↔
      ∀ entity e, s.model.lastNamed? entity = some e → ∀ field f, lastField? e field = some f →
        ∀ v, firstChoice? f = some v → v.spots = [] := by
  have hdistinct := hasDistinctKeys_schemas h stamp
  rw [objects_document, objects, nodup_filterMap_iff (Value.nodup_spots hdistinct)]
  constructor
  · intro hinj entity e he field f hf v hv
    refine List.eq_nil_iff_forall_not_mem.mpr fun inside hinside => ?_
    obtain ⟨choices, hchoices, hfirst⟩ := firstChoice?_eq_some.mp hv
    have hchoice := (choiceSpot_mem_spots h stamp).mpr
      ⟨e, f, choices, v, he, hf, hchoices, hfirst, hinside⟩
    have hexample : .name entity :: exampleSpot field inside ∈
        (Value.obj (schemas s.model stamp)).spots := by
      refine (exampleSpot_mem_spots h stamp).mpr ⟨e, f, he, hf, ?_⟩
      rwa [exampleValue_eq_getD, hv]
    have hlength : 0 < choices.length := (List.getElem?_eq_some_iff.mp hfirst).1
    have heq := hinj _ hchoice _ hexample _
      ((Sharing.identity_eq_some hs).mpr ⟨entity, e, field, f, inside, he, hf,
        .inl ⟨choices, 0, hchoices, hlength, rfl, rfl⟩⟩)
      ((Sharing.identity_eq_some hs).mpr ⟨entity, e, field, f, inside, he, hf,
        .inr (.inr ⟨choices, hchoices, rfl, rfl⟩)⟩)
    exact choiceSpot_ne_exampleSpot (List.cons.inj heq).2
  · intro hatoms
    -- Without objects in first choices no example has a name, and the others are their own.
    have hmade : ∀ x ∈ (Value.obj (schemas s.model stamp)).spots, ∀ o,
        s.identity ([.name "components", .name "schemas"] ++ x) = some o →
        o = .made ([.name "components", .name "schemas"] ++ x) := by
      intro x hx o ho
      obtain ⟨entity, e, field, f, inside, he, hf, ⟨-, -, -, -, -, rfl⟩ | ⟨-, -, -, rfl⟩ |
        ⟨choices, hchoices, hspot, rfl⟩⟩ := (Sharing.identity_eq_some hs).mp ho
      · rfl
      · rfl
      · cases hspot
        obtain ⟨e', f', he', hf', hinside⟩ := (exampleSpot_mem_spots h stamp).mp hx
        cases he.symm.trans he'
        cases hf.symm.trans hf'
        cases choices with
        | nil => exact absurd hchoices usableChoices_ne_nil
        | cons v more =>
          have hv : firstChoice? f = some v := firstChoice?_eq_some.mpr ⟨_, hchoices, rfl⟩
          rw [exampleValue_eq_getD, hv, Option.getD_some, hatoms entity e he field f hf v hv]
            at hinside
          cases hinside
    intro x hx y hy o hox hoy
    exact List.append_cancel_left
      (Origin.made.inj ((hmade x hx o hox).symm.trans (hmade y hy o hoy)))

end OpenApi

/-! ## 5. Files -/

theorem Hereditary.and {P Q : Value → Prop} (hP : Hereditary P) (hQ : Hereditary Q) :
    Hereditary fun v => P v ∧ Q v where
  nothing := ⟨hP.nothing, hQ.nothing⟩
  item h hv := ⟨hP.item h.1 hv, hQ.item h.2 hv⟩
  entry h hp := ⟨hP.entry h.1 hp, hQ.entry h.2 hp⟩

/-- The constraints of a model of JSON without repeated keys have none in what documents copy. -/
theorem Model.distinctRules {raw : Value} {m : Model} (hjson : raw.isJson = true)
    (hkeys : raw.hasDistinctKeys = true) (hm : normalize raw = .ok m) :
    ∀ e ∈ m.entities, ∀ f ∈ e.fields, OpenApi.DistinctRules f.rules := by
  intro e he f hf
  have hboth := Value.hereditary_isJson.and Value.hereditary_hasDistinctKeys
  obtain ⟨given, hrules, hgiven⟩ := Model.exists_given hboth ⟨rfl, rfl⟩ ⟨hjson, hkeys⟩ hm he hf
  rw [hrules]
  constructor
  · exact fun v hv => (hboth.field hgiven hv).2
  · intro choices hchoices
    obtain ⟨v, hv, -, hread⟩ := Constraints.view?_eq_some.mp hchoices
    obtain ⟨hvjson, hvkeys⟩ := hboth.field hgiven hv
    rw [Coercion.eq_list_of_isJson hvjson hread] at hvkeys
    exact Value.hasDistinctKeys_list.mp hvkeys

/-- The first choice of a field of a model of JSON is of JSON. -/
theorem Model.isJson_firstChoice {raw : Value} {m : Model} (hjson : raw.isJson = true)
    (hm : normalize raw = .ok m) {e : Entity} (he : e ∈ m.entities) {f : Field}
    (hf : f ∈ e.fields) {v : Value} (hv : OpenApi.firstChoice? f = some v) : v.isJson = true := by
  obtain ⟨choices, hchoices, hhead⟩ := Option.bind_eq_some_iff.mp hv
  exact Value.hereditary_isJson.item ((Model.areJson_rules hjson hm he hf).choices choices hchoices)
    (List.mem_of_mem_head? hhead)

/-- The YAML file of a bundle has the description of the model, made at a time. -/
theorem Bundle.writeShared_of_render {order : List Artifact} {config : Config} {clock : Clock}
    {lint : Bool} {source : String} {raw : Value} {m : Model} {b : Bundle} {files : Export.Files}
    {text : String} (hm : Model.normalize raw = .ok m)
    (hb : generateIn order config clock lint source raw = .ok b)
    (hfiles : Export.render (.str "yaml") b = .ok files) (htext : ("openapi.yaml", text) ∈ files) :
    ∃ stamp, clock.stamp = .ok stamp ∧
      Yaml.writeShared (OpenApi.Sharing.identity ⟨#[], .atom .null, m⟩)
        (OpenApi.document config m stamp) = .ok text := by
  have hpath {files : Export.Files} (hmem : ("openapi.yaml", text) ∈ files) :
      "openapi.yaml" ∈ files.map Prod.fst := List.mem_map.mpr ⟨_, hmem, rfl⟩
  obtain ⟨format, schema, api, hformat, hschema, hapi, rfl⟩ := Export.render_eq_ok.mp hfiles
  cases hformat
  rw [List.mem_append, List.mem_append] at htext
  rcases htext with (hmem | hmem) | hmem
  · cases hv : b.schema with
    | none =>
      rw [hv] at hschema
      cases hschema
      cases hmem
    | some v =>
      rw [hv] at hschema
      exact absurd (Export.map_fst_schemaFiles hschema ▸ hpath hmem) (by decide)
  · cases hv : b.api with
    | none =>
      rw [hv] at hapi
      cases hapi
      cases hmem
    | some v =>
      obtain ⟨findings, rfl⟩ := exists_ofTasks hm hb
      rw [hv] at hapi
      obtain ⟨stamp, base, path, examples, hstamp, -, rfl⟩ :=
        OpenApi.generate_eq_ok (make_of_outcome? (a := .api) hv)
      obtain ⟨description, hdescription, hrest⟩ := bind_eq_ok.mp hapi
      obtain ⟨snippets, -, hpure⟩ := bind_eq_ok.mp hrest
      cases hpure
      refine ⟨stamp, hstamp, ?_⟩
      rcases List.mem_cons.mp hmem with heq | hmem
      · cases heq
        exact mapError_eq_ok.mp hdescription
      · exact absurd (congrArg Prod.fst (List.mem_singleton.mp hmem))
          (by decide : "openapi.yaml" ≠ "code_examples.json")
  · cases hv : b.diagrams with
    | none =>
      rw [hv] at hmem
      cases hmem
    | some v =>
      obtain ⟨m', stamp, rfl⟩ := diagrams_eq_some hb hv
      rw [hv] at hmem
      exact absurd ((Export.map_fst_diagramFiles config m' stamp).subset (hpath hmem)) (by decide)

/-- **When the YAML file has anchors.**  The description of a model of JSON is written without
anchor and alias exactly if the first choice of every field that it describes is an atom.  A first
choice that is a list or a map is an object of the schema and of the example.  Without them the text
is that of the description in which nothing is shared. -/
theorem Bundle.isPlain_yaml_iff {order : List Artifact} {config : Config} {clock : Clock}
    {lint : Bool} {source : String} {raw : Value} {m : Model} {b : Bundle} {files : Export.Files}
    {text : String} (hjson : raw.isJson = true) (hkeys : raw.hasDistinctKeys = true)
    (hm : Model.normalize raw = .ok m)
    (hb : generateIn order config clock lint source raw = .ok b)
    (hfiles : Export.render (.str "yaml") b = .ok files) (htext : ("openapi.yaml", text) ∈ files) :
    ∃ stamp tree, clock.stamp = .ok stamp ∧
      Yaml.Tree.ofValue b.apiIdentity (OpenApi.document config m stamp) = .ok tree ∧
      text = Yaml.Writer.document tree ∧
      (tree.isPlain = true ↔
        ∀ entity e, m.lastNamed? entity = some e → ∀ field f, OpenApi.lastField? e field = some f →
          ∀ v, OpenApi.firstChoice? f = some v → ∃ s, v = .atom s) ∧
      (tree.isPlain = true → Yaml.write (OpenApi.document config m stamp) = .ok text) := by
  obtain ⟨stamp, hstamp, hwrite⟩ := writeShared_of_render hm hb hfiles htext
  obtain ⟨tree, htree, hpure⟩ := bind_eq_ok.mp hwrite
  obtain ⟨findings, rfl⟩ := exists_ofTasks hm hb
  refine ⟨stamp, tree, hstamp, htree, (Except.ok.inj hpure).symm, ?_,
    fun hplain => Yaml.writeShared_eq_write ((Yaml.Tree.isPlain_iff htree).mp hplain) ▸ hwrite⟩
  rw [Yaml.Tree.isPlain_iff htree,
    OpenApi.nodup_objects_iff stamp rfl (Model.distinctRules hjson hkeys hm) config]
  refine forall₃_congr fun entity e he => forall₃_congr fun field f hf =>
    forall₂_congr fun v hv => ?_
  have hentity : e ∈ m.entities := List.mem_reverse.mp (List.mem_of_find?_eq_some he)
  have hfield : f ∈ e.fields := List.mem_reverse.mp (List.mem_of_find?_eq_some hf)
  exact Value.spots_eq_nil_iff (Model.isJson_firstChoice hjson hm hentity hfield hv)

/-- A model of one field with choices. -/
def choosing (choices : List Value) : Value :=
  .obj [("entities", .list [.obj [("name", .str "user"), ("fields", .list [.obj
    [("name", .str "tags"), ("type", .str "json"),
      ("constraints", .obj [("enum", .list choices)])]])]])]

/-- The normal form of `choosing`. -/
def choosingModel (choices : List Value) : Model :=
  .of [⟨"user", "users", some "",
    [⟨"id", "number", true, some "Unique identifier",
      some (.ofEntries [(.str "primary", .bool true), (.str "autoIncrement", .bool true)])⟩,
    ⟨"tags", "json", false, none, some (.ofEntries [(.str "enum", .list choices)])⟩]⟩] []

/-- Choices that are texts. -/
def textChoices : List Value := [.str "a", .str "b"]

/-- Choices that are lists. -/
def listChoices : List Value := [.list [.str "a"], .list [.str "b"]]

/-- The YAML file of a model. -/
def yaml? (raw : Value) : Option String := do
  let b ← (Bundle.generate {} .standard false "" raw).toOption
  let files ← (Export.render (.str "yaml") b).toOption
  files.lookup "openapi.yaml"

theorem exists_of_yaml? {raw : Value} (h : (yaml? raw).isSome = true) :
    ∃ b files text, Bundle.generate {} .standard false "" raw = .ok b ∧
      Export.render (.str "yaml") b = .ok files ∧ ("openapi.yaml", text) ∈ files := by
  obtain ⟨text, htext⟩ := Option.isSome_iff_exists.mp h
  obtain ⟨b, hb, hrest⟩ := Option.bind_eq_some_iff.mp htext
  obtain ⟨files, hfiles, hlookup⟩ := Option.bind_eq_some_iff.mp hrest
  exact ⟨b, files, text, toOption_eq_some.mp hb, toOption_eq_some.mp hfiles,
    Entries.mem_of_lookup hlookup⟩

/-- Texts are written where they stand. -/
theorem Bundle.isPlain_yaml_iff_texts :
    ∃ b files text stamp tree, (choosing textChoices).isJson = true ∧
      (choosing textChoices).hasDistinctKeys = true ∧
      Model.normalize (choosing textChoices) = .ok (choosingModel textChoices) ∧
      generate {} .standard false "" (choosing textChoices) = .ok b ∧
      Export.render (.str "yaml") b = .ok files ∧ ("openapi.yaml", text) ∈ files ∧
      Clock.standard.stamp = .ok stamp ∧
      Yaml.Tree.ofValue b.apiIdentity (OpenApi.document {} (choosingModel textChoices) stamp)
        = .ok tree ∧
      text = Yaml.Writer.document tree ∧ tree.isPlain = true := by
  have hm : Model.normalize (choosing textChoices) = .ok (choosingModel textChoices) := rfl
  obtain ⟨b, files, text, hb, hfiles, htext⟩ :=
    exists_of_yaml? (show (yaml? (choosing textChoices)).isSome = true by decide +kernel)
  obtain ⟨stamp, tree, hstamp, htree, hdocument, hplain, -⟩ :=
    isPlain_yaml_iff rfl (by decide) hm hb hfiles htext
  refine ⟨b, files, text, stamp, tree, rfl, by decide, hm, hb, hfiles, htext, hstamp, htree,
    hdocument, hplain.mpr fun entity e he field f hf v hv => ?_⟩
  have hentity := List.mem_singleton.mp (List.mem_reverse.mp (List.mem_of_find?_eq_some he))
  subst hentity
  have hfield := List.mem_reverse.mp (List.mem_of_find?_eq_some hf)
  rcases List.mem_cons.mp hfield with rfl | hfield
  · cases hv
  · cases List.mem_singleton.mp hfield
    cases hv
    exact ⟨_, rfl⟩

/-- A choice that is a list is written at two places, with an anchor and an alias. -/
theorem Bundle.anchor_of_choice :
    ∃ b files text stamp tree, (choosing listChoices).isJson = true ∧
      Model.normalize (choosing listChoices) = .ok (choosingModel listChoices) ∧
      generate {} .standard false "" (choosing listChoices) = .ok b ∧
      Export.render (.str "yaml") b = .ok files ∧ ("openapi.yaml", text) ∈ files ∧
      Clock.standard.stamp = .ok stamp ∧
      Yaml.Tree.ofValue b.apiIdentity (OpenApi.document {} (choosingModel listChoices) stamp)
        = .ok tree ∧
      text = Yaml.Writer.document tree ∧ tree.isPlain = false := by
  have hm : Model.normalize (choosing listChoices) = .ok (choosingModel listChoices) := rfl
  obtain ⟨b, files, text, hb, hfiles, htext⟩ := exists_of_yaml?
    (show (yaml? (choosing listChoices)).isSome = true by decide +kernel)
  obtain ⟨stamp, hstamp, hwrite⟩ := writeShared_of_render hm hb hfiles htext
  obtain ⟨tree, htree, hpure⟩ := bind_eq_ok.mp hwrite
  obtain ⟨findings, rfl⟩ := exists_ofTasks hm hb
  have hmoment : Clock.standard.stamp = .ok "2024-01-15T10:30:00.123Z" := by decide +kernel
  cases hmoment.symm.trans hstamp
  obtain ⟨tree', htree', hanchor⟩ := any_toOption.mp
    (show (Yaml.Tree.ofValue
      (OpenApi.Sharing.identity ⟨#[], .atom .null, choosingModel listChoices⟩)
      (OpenApi.document {} (choosingModel listChoices) "2024-01-15T10:30:00.123Z")).toOption.any
        (fun tree => tree.isPlain = false) = true by decide +kernel)
  cases htree.symm.trans htree'
  exact ⟨_, files, text, _, tree, rfl, hm, hb, hfiles, htext, hmoment, htree,
    (Except.ok.inj hpure).symm, hanchor⟩

end Schemata
