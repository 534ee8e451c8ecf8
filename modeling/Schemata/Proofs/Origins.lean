import Mathlib.Data.List.Pairwise
import Mathlib.Tactic.SplitIfs
import Schemata.OpenApi.Sharing
import Schemata.Proofs.Agreement
import Schemata.Proofs.Merging
import Schemata.Proofs.Wire
/-!
# Descriptions that know their objects

The parts of `Sharing.document` know what their objects come from.  What they are put together to is
the description, so their places are those of the description.

* `Sharing.value_document`: the value of the parts is the document.
* `Sharing.origin_property_eq_some`, `Sharing.origin_sample_eq_some`: what the schema of a field and
  its example know of their places, whatever the input.
* `Sharing.origin_document`: neither the settings nor the time of making count for the origins.
* `Sharing.identity_eq_some`: which places of a description have a name, and which name.
-/

namespace Schemata.OpenApi

/-! ## 1. Places below schemas -/

/-- A place below the schema of an entity. -/
def schemaSpot (entity : String) (place : Spot) : Spot :=
  .name "components" :: .name "schemas" :: .name entity :: place

/-- The place of a choice, or of something in it, below the schema of its entity. -/
def choiceSpot (field : String) (i : Nat) (inside : Spot) : Spot :=
  .name "properties" :: .name field :: .name "enum" :: .index i :: inside

/-- The place of a default, or of something in it, below the schema of its entity. -/
def defaultSpot (field : String) (inside : Spot) : Spot :=
  .name "properties" :: .name field :: .name "default" :: inside

/-- The place of an example, or of something in it, below the schema of its entity. -/
def exampleSpot (field : String) (inside : Spot) : Spot :=
  .name "example" :: .name field :: inside

/-- The last field of a name. -/
def lastField? (e : Entity) (name : String) : Option Field :=
  e.fields.reverse.find? fun f => name == f.name

/-! ## 2. Parts -/

theorem map_zipIdx {α β : Type} (items : List α) (g : α → β) :
    (items.zipIdx.map fun x => g x.1) = items.map g := by
  conv_rhs => rw [← List.zipIdx_map_fst 0 items, List.map_map]
  rfl

namespace Traced

/-- The values of entries. -/
abbrev values (parts : Entries String Traced) : Entries String Value := Entries.onValues value parts

theorem value_obj (parts : Entries String Traced) : (obj parts).value = .obj (values parts) := rfl

theorem values_append (parts more : Entries String Traced) :
    values (parts ++ more) = values parts ++ values more := List.map_append

theorem values_freshEntries (es : Entries String Value) : values (freshEntries es) = es := by
  rw [values, Entries.onValues, freshEntries, List.map_map]
  exact List.map_id es

theorem map_value_items (vs : List Value) (name : Spot → Origin) :
    (items vs name).map value = vs := by
  rw [items, List.map_map]
  exact List.zipIdx_map_fst 0 vs

theorem values_ofList {α : Type} (items : List α) (name : α → String) (part : α → Traced) :
    values (Entries.ofList (items.map fun x => (name x, part x)))
      = Entries.ofList (items.map fun x => (name x, (part x).value)) := by
  rw [values, ← Entries.ofList_onValues, Entries.onValues, List.map_map]
  rfl

theorem origin_freshEntries {es : Entries String Value} {key : String} {t : Traced}
    (h : (key, t) ∈ freshEntries es) (place : Spot) : t.origin place = none := by
  obtain ⟨p, -, heq⟩ := List.mem_map.mp h
  cases heq
  rfl

/-- A map knows of its places what its parts know of theirs. -/
theorem origin_obj_eq_some {parts : Entries String Traced} {place : Spot} {o : Origin} :
    (obj parts).origin place = some o ↔
      ∃ key t inside, parts.lookup key = some t ∧ place = .name key :: inside ∧
        t.origin inside = some o := by
  constructor
  · intro hsome
    unfold obj at hsome
    dsimp only at hsome
    split at hsome
    · next key inside =>
      obtain ⟨t, ht, ho⟩ := Option.bind_eq_some_iff.mp hsome
      exact ⟨key, t, inside, ht, rfl, ho⟩
    · cases hsome
  · rintro ⟨key, t, inside, ht, rfl, ho⟩
    exact Option.bind_eq_some_iff.mpr ⟨t, ht, ho⟩

/-- The same of a map without repeated keys. -/
theorem origin_obj_eq_some_of_nodup {parts : Entries String Traced}
    (h : (Entries.keys (values parts)).Nodup) {place : Spot} {o : Origin} :
    (obj parts).origin place = some o ↔
      ∃ key t inside, (key, t) ∈ parts ∧ place = .name key :: inside ∧
        t.origin inside = some o := by
  have hkeys : Entries.keys (values parts) = Entries.keys parts := List.map_map
  rw [origin_obj_eq_some]
  refine exists₃_congr fun key t inside => and_congr_left fun _ => ?_
  exact ⟨Entries.mem_of_lookup, Entries.lookup_of_mem (hkeys ▸ h)⟩

/-- Of several items with one name the last is known. -/
theorem origin_ofList_eq_some {α : Type} {items : List α} {name : α → String} {part : α → Traced}
    {place : Spot} {o : Origin} :
    (obj (Entries.ofList (items.map fun x => (name x, part x)))).origin place = some o ↔
      ∃ key x inside, (items.reverse.find? fun x => key == name x) = some x ∧
        place = .name key :: inside ∧ (part x).origin inside = some o := by
  rw [origin_obj_eq_some]
  constructor
  · rintro ⟨key, t, inside, ht, rfl, ho⟩
    rw [Entries.lookup_ofList_map] at ht
    obtain ⟨x, hx, rfl⟩ := Option.map_eq_some_iff.mp ht
    exact ⟨key, x, inside, hx, rfl, ho⟩
  · rintro ⟨key, x, inside, hx, rfl, ho⟩
    have ht := Entries.lookup_ofList_map key items name part
    rw [hx] at ht
    exact ⟨key, part x, inside, ht, rfl, ho⟩

/-- A list of items with names knows the names. -/
theorem origin_items_eq_some {vs : List Value} {name : Spot → Origin} {place : Spot} {o : Origin} :
    (list (items vs name)).origin place = some o ↔
      ∃ i inside, i < vs.length ∧ place = .index i :: inside ∧ o = name place := by
  have hitem (i : Nat) : (items vs name)[i]?
      = vs[i]?.map fun v => named v fun place => name (.index i :: place) := by
    rw [items, List.getElem?_map, List.getElem?_zipIdx, Option.map_map]
    simp only [Nat.zero_add]
    rfl
  constructor
  · intro hsome
    unfold list at hsome
    dsimp only at hsome
    split at hsome
    · next i inside =>
      rw [hitem] at hsome
      obtain ⟨t, ht, ho⟩ := Option.bind_eq_some_iff.mp hsome
      obtain ⟨v, hv, rfl⟩ := Option.map_eq_some_iff.mp ht
      exact ⟨i, inside, (List.getElem?_eq_some_iff.mp hv).1, rfl, (Option.some.inj ho).symm⟩
    · cases hsome
  · rintro ⟨i, inside, hi, rfl, rfl⟩
    have hnamed := hitem i
    rw [List.getElem?_eq_getElem hi] at hnamed
    exact Option.bind_eq_some_iff.mpr ⟨_, hnamed, rfl⟩

end Traced

/-! ## 3. Schemas without repeated keys -/

theorem usableChoices_ne_nil {f : Field} : usableChoices f ≠ some [] := by
  unfold usableChoices
  split
  · exact nofun
  · next hne => exact hne

theorem keys_given (key : String) (v : Option Value) :
    (Entries.keys (given key v)).Sublist [key] := by
  cases v
  · exact List.nil_sublist _
  · exact List.Sublist.refl _

theorem keys_typeLimits (f : Field) : (Entries.keys (typeLimits f)).Sublist
    ["maxLength", "minLength", "pattern", "minimum", "maximum", "items"] := by
  unfold typeLimits
  dsimp only
  split_ifs
  · rw [Entries.keys_append, Entries.keys_append]
    exact (((keys_given _ _).append (keys_given _ _)).append (keys_given _ _)).trans (by decide)
  · rw [Entries.keys_append]
    exact ((keys_given _ _).append (keys_given _ _)).trans (by decide)
  · decide
  · exact List.nil_sublist _

/-- The keys of the schema of a field, but for its default and its choices. -/
def propertyHeadKeys : List String :=
  ["description", "type", "format", "maxLength", "minLength", "pattern", "minimum", "maximum",
    "items"]

theorem keys_propertyHead (f : Field) :
    (Entries.keys (propertyHead f)).Sublist propertyHeadKeys := by
  rw [propertyHead, Entries.keys_append, Entries.keys_append]
  exact ((List.Sublist.refl _).append (keys_given _ _)).append (keys_typeLimits f)

/-- The schema of a field has no key twice. -/
theorem nodup_keys_property (f : Field) : (Entries.keys (propertyHead f ++
    given "default" (usableDefault f) ++
    given "enum" ((usableChoices f).map Value.list))).Nodup := by
  have hkeys : (propertyHeadKeys ++ ["default"] ++ ["enum"]).Nodup := by decide
  rw [Entries.keys_append, Entries.keys_append]
  exact hkeys.sublist
    (((keys_propertyHead f).append (keys_given _ _)).append (keys_given _ _))

theorem keys_requiredEntry (e : Entity) :
    (Entries.keys (requiredEntry e)).Sublist ["required"] := by
  unfold requiredEntry
  split_ifs
  · exact List.nil_sublist _
  · exact List.Sublist.refl _

/-- The schema of an entity has no key twice. -/
theorem nodup_keys_component (e : Entity) (properties sample : Value) :
    (Entries.keys ([("type", .str "object"), ("properties", properties)] ++ requiredEntry e ++
      [("example", sample)])).Nodup := by
  have hkeys : (["type", "properties"] ++ ["required"] ++ ["example"]).Nodup := by decide
  rw [Entries.keys_append, Entries.keys_append]
  exact hkeys.sublist
    (((List.Sublist.refl _).append (keys_requiredEntry e)).append (List.Sublist.refl _))

/-! ## 4. The description -/

namespace Sharing

variable (s : Sharing) (entity : String) (f : Field) (rules : Option Yaml.Part)

theorem map_fst_fields (i : Nat) (e : Entity) : (s.fields i e).map Prod.fst = e.fields := by
  rw [fields, List.map_map]
  exact List.zipIdx_map_fst 0 e.fields

theorem value_property : (s.property entity f rules).value = propertySchema f := by
  have hdefault : Traced.values ((s.default? entity f rules).map fun t => ("default", t)).toList
      = given "default" (usableDefault f) := by
    unfold default?
    cases usableDefault f <;> rfl
  have hchoices : Traced.values
      ((s.choices? entity f rules).map fun ts => ("enum", Traced.list ts)).toList
      = given "enum" ((usableChoices f).map Value.list) := by
    unfold choices?
    cases usableChoices f with
    | none => rfl
    | some vs => exact congrArg (fun vs => [("enum", Value.list vs)]) (Traced.map_value_items vs _)
  rw [property, Traced.value_obj, Traced.values_append, Traced.values_append,
    Traced.values_freshEntries, hdefault, hchoices, propertySchema]

theorem value_sample (stamp : String) :
    (s.sample entity f rules stamp).value = exampleValue f stamp := by
  unfold sample choices? exampleValue
  cases usableChoices f with
  | none => rfl
  | some vs => cases vs <;> rfl

theorem value_component (i : Nat) (e : Entity) (stamp : String) :
    (s.component i e stamp).value = componentSchema e stamp := by
  have hfields (value : Field → Value) : ((s.fields i e).map fun f => (f.1.name, value f.1))
      = e.fields.map fun f => (f.name, value f) := by
    rw [← s.map_fst_fields i e, List.map_map]
    rfl
  have hproperties : (Traced.obj (Entries.ofList ((s.fields i e).map fun f =>
      (f.1.name, s.property e.name f.1 f.2)))).value
        = .obj (Entries.ofList (e.fields.map fun f => (f.name, propertySchema f))) := by
    rw [Traced.value_obj, Traced.values_ofList]
    simp only [value_property, hfields]
  have hexample : (Traced.obj (Entries.ofList ((s.fields i e).map fun f =>
      (f.1.name, s.sample e.name f.1 f.2 stamp)))).value = .obj (exampleRecord e stamp) := by
    rw [Traced.value_obj, Traced.values_ofList]
    simp only [value_sample, hfields (exampleValue · stamp)]
    rfl
  rw [component, Traced.value_obj, Traced.values_append, Traced.values_append,
    Traced.values_freshEntries, componentSchema, ← hproperties, ← hexample]
  rfl

theorem values_schemas (stamp : String) :
    Traced.values (s.schemas stamp) = OpenApi.schemas s.model stamp := by
  rw [schemas, Traced.values_ofList]
  simp only [value_component]
  rw [map_zipIdx s.model.entities fun e => (e.name, componentSchema e stamp), OpenApi.schemas]

/-- **The parts are those of the document.** -/
theorem value_document (config : Config) (stamp : String) :
    (s.document config stamp).value = OpenApi.document config s.model stamp := by
  rw [OpenApi.document, ← values_schemas]
  rfl

/-! ## 5. What is known of places -/

variable {entity f rules}

/-- The schema of a field knows its default and its choices. -/
theorem origin_property_eq_some {place : Spot} {o : Origin} :
    (s.property entity f rules).origin place = some o ↔
      (∃ v inside, usableDefault f = some v ∧ place = .name "default" :: inside ∧
        o = s.inDefault entity f rules inside) ∨
      ∃ choices i inside, usableChoices f = some choices ∧ i < choices.length ∧
        place = .name "enum" :: .index i :: inside ∧
        o = s.inChoices entity f rules (.index i :: inside) := by
  have hkeys : Value.obj (Traced.values _) = propertySchema f := s.value_property entity f rules
  rw [property, Traced.origin_obj_eq_some_of_nodup
    ((Value.obj_inj.mp hkeys).symm ▸ nodup_keys_property f)]
  unfold default? choices?
  simp only [List.mem_append, Option.mem_toList, Option.map_eq_some_iff]
  constructor
  · rintro ⟨key, t, inside, (hfresh | ⟨_, ⟨v, hv, rfl⟩, heq⟩) | ⟨_, ⟨vs, hvs, rfl⟩, heq⟩, rfl, ho⟩
    · cases (Traced.origin_freshEntries hfresh inside).symm.trans ho
    · cases heq
      exact .inl ⟨v, inside, hv, rfl, (Option.some.inj ho).symm⟩
    · cases heq
      obtain ⟨i, rest, hi, rfl, ho⟩ := Traced.origin_items_eq_some.mp ho
      exact .inr ⟨vs, i, rest, hvs, hi, rfl, ho⟩
  · rintro (⟨v, inside, hv, rfl, rfl⟩ | ⟨vs, i, inside, hvs, hi, rfl, rfl⟩)
    · exact ⟨_, _, inside, .inl (.inr ⟨_, ⟨v, hv, rfl⟩, rfl⟩), rfl, rfl⟩
    · exact ⟨_, _, .index i :: inside, .inr ⟨_, ⟨vs, hvs, rfl⟩, rfl⟩, rfl,
        Traced.origin_items_eq_some.mpr ⟨i, inside, hi, rfl, rfl⟩⟩

/-- The example of a field with choices knows that it is the first of them. -/
theorem origin_sample_eq_some {stamp : String} {place : Spot} {o : Origin} :
    (s.sample entity f rules stamp).origin place = some o ↔
      ∃ choices, usableChoices f = some choices ∧
        o = s.inChoices entity f rules (.index 0 :: place) := by
  unfold sample choices?
  cases hchoices : usableChoices f with
  | none => exact iff_of_false nofun (by rintro ⟨_, ⟨⟩, _⟩)
  | some choices =>
    cases choices with
    | nil => exact absurd hchoices usableChoices_ne_nil
    | cons v more => exact ⟨fun ho => ⟨_, rfl, (Option.some.inj ho).symm⟩,
        fun ⟨_, _, ho⟩ => congrArg some ho.symm⟩

/-- The schema of an entity knows its properties and its example. -/
theorem origin_component_eq_some {i : Nat} {e : Entity} {stamp : String} {place : Spot}
    {o : Origin} : (s.component i e stamp).origin place = some o ↔
      ∃ field g inside, ((s.fields i e).reverse.find? fun g => field == g.1.name) = some g ∧
        ((place = .name "properties" :: .name field :: inside ∧
            (s.property e.name g.1 g.2).origin inside = some o) ∨
          (place = .name "example" :: .name field :: inside ∧
            (s.sample e.name g.1 g.2 stamp).origin inside = some o)) := by
  have hkeys : Value.obj (Traced.values _) = componentSchema e stamp := s.value_component i e stamp
  rw [component, Traced.origin_obj_eq_some_of_nodup
    ((Value.obj_inj.mp hkeys).symm ▸ nodup_keys_component e _ _)]
  simp only [List.mem_append, List.mem_cons, List.not_mem_nil, or_false]
  constructor
  · rintro ⟨key, t, inside, ((heq | heq) | hfresh) | heq, rfl, ho⟩
    · cases heq
      cases ho
    · cases heq
      obtain ⟨field, g, rest, hg, rfl, hrest⟩ := Traced.origin_ofList_eq_some.mp ho
      exact ⟨field, g, rest, hg, .inl ⟨rfl, hrest⟩⟩
    · cases (Traced.origin_freshEntries hfresh inside).symm.trans ho
    · cases heq
      obtain ⟨field, g, rest, hg, rfl, hrest⟩ := Traced.origin_ofList_eq_some.mp ho
      exact ⟨field, g, rest, hg, .inr ⟨rfl, hrest⟩⟩
  · rintro ⟨field, g, inside, hg, ⟨rfl, ho⟩ | ⟨rfl, ho⟩⟩
    · exact ⟨_, _, _, .inl (.inl (.inr rfl)), rfl,
        Traced.origin_ofList_eq_some.mpr ⟨field, g, inside, hg, rfl, ho⟩⟩
    · exact ⟨_, _, _, .inr rfl, rfl,
        Traced.origin_ofList_eq_some.mpr ⟨field, g, inside, hg, rfl, ho⟩⟩

/-- The document knows its schemas, and nothing of its other places. -/
theorem origin_document_eq_some {config : Config} {stamp : String} {spot : Spot} {o : Origin} :
    (s.document config stamp).origin spot = some o ↔
      ∃ entity x place,
        (s.model.entities.zipIdx.reverse.find? fun x => entity == x.1.name) = some x ∧
        spot = .name "components" :: .name "schemas" :: .name entity :: place ∧
        (s.component x.2 x.1 stamp).origin place = some o := by
  constructor
  · intro hsome
    obtain ⟨key, t, inside, ht, rfl, ho⟩ := Traced.origin_obj_eq_some.mp hsome
    rcases List.mem_append.mp (Entries.mem_of_lookup ht) with hmem | hfresh
    · rcases List.mem_append.mp hmem with hfresh | hmem
      · cases (Traced.origin_freshEntries hfresh inside).symm.trans ho
      · cases List.mem_singleton.mp hmem
        obtain ⟨name, t, rest, ht, rfl, hrest⟩ := Traced.origin_obj_eq_some.mp ho
        rcases List.mem_cons.mp (Entries.mem_of_lookup ht) with heq | hfresh
        · cases heq
          obtain ⟨entity, x, place, hx, rfl, hplace⟩ := Traced.origin_ofList_eq_some.mp hrest
          exact ⟨entity, x, place, hx, rfl, hplace⟩
        · cases (Traced.origin_freshEntries hfresh rest).symm.trans hrest
    · cases (Traced.origin_freshEntries hfresh inside).symm.trans ho
  · rintro ⟨entity, x, place, hx, rfl, ho⟩
    have hschemas : (Traced.obj (s.schemas stamp)).origin (.name entity :: place) = some o := by
      rw [schemas]
      exact Traced.origin_ofList_eq_some.mpr ⟨entity, x, place, hx, rfl, ho⟩
    exact hschemas

/-- **Neither the settings nor the time of making** count for what objects come from. -/
theorem origin_document (config : Config) (stamp : String) :
    (s.document config stamp).origin = s.identity := by
  funext spot
  refine Option.ext fun o => ?_
  rw [identity, origin_document_eq_some, origin_document_eq_some]
  simp only [origin_component_eq_some, origin_sample_eq_some]

/-- Outside of the schemas nothing has a name. -/
theorem identity_eq_none {spot : Spot} (h : ∀ entity place, spot ≠ schemaSpot entity place) :
    s.identity spot = none := by
  refine Option.eq_none_iff_forall_ne_some.mpr fun o ho => ?_
  obtain ⟨entity, -, place, -, hspot, -⟩ := s.origin_document_eq_some.mp ho
  exact h entity place hspot

/-! ## 6. Inputs without objects -/

theorem lastNamed?_eq_some {entity : String} {e : Entity} :
    s.model.lastNamed? entity = some e ↔ ∃ i,
      (s.model.entities.zipIdx.reverse.find? fun x => entity == x.1.name) = some (e, i) := by
  unfold Model.lastNamed?
  conv_lhs => rw [← List.zipIdx_map_fst 0 s.model.entities, ← List.map_reverse, List.find?_map]
  rw [Option.map_eq_some_iff]
  constructor
  · rintro ⟨⟨_, i⟩, hfound, rfl⟩
    exact ⟨i, hfound⟩
  · rintro ⟨i, hfound⟩
    exact ⟨_, hfound, rfl⟩

variable {s} {a : Scalar} (h : s.whole = .atom a)

include h

/-- The fields of an input without objects are nowhere in it. -/
theorem fields_eq (i : Nat) (e : Entity) : s.fields i e = e.fields.map fun f => (f, none) := by
  have hnowhere (j : Nat) : s.constraints? i e j = none := by
    unfold constraints?
    rw [h]
    rfl
  unfold fields
  simp only [hnowhere]
  exact map_zipIdx e.fields fun f => (f, none)

theorem lastField?_eq_some {i : Nat} {e : Entity} {field : String}
    {g : Field × Option Yaml.Part} :
    ((s.fields i e).reverse.find? fun g => field == g.1.name) = some g ↔
      ∃ f, lastField? e field = some f ∧ g = (f, none) := by
  rw [fields_eq h, ← List.map_reverse, List.find?_map, Option.map_eq_some_iff]
  exact exists_congr fun f => and_congr_right fun _ => eq_comm

/-- **Objects are named by where they were made.**  In the description of an input without objects
an example has the name of what stands at the same place in the first choice. -/
theorem identity_eq_some {spot : Spot} {o : Origin} : s.identity spot = some o ↔
    ∃ entity e field f inside, s.model.lastNamed? entity = some e ∧ lastField? e field = some f ∧
      ((∃ choices i, usableChoices f = some choices ∧ i < choices.length ∧
          spot = schemaSpot entity (choiceSpot field i inside) ∧ o = .made spot) ∨
        (∃ v, usableDefault f = some v ∧
          spot = schemaSpot entity (defaultSpot field inside) ∧ o = .made spot) ∨
        ∃ choices, usableChoices f = some choices ∧
          spot = schemaSpot entity (exampleSpot field inside) ∧
          o = .made (schemaSpot entity (choiceSpot field 0 inside))) := by
  have hname {entity field : String} {e : Entity} {f : Field}
      (he : s.model.lastNamed? entity = some e) (hf : lastField? e field = some f) :
      e.name = entity ∧ f.name = field :=
    ⟨(eq_of_beq (List.find?_some he :)).symm, (eq_of_beq (List.find?_some hf :)).symm⟩
  constructor
  · intro hsome
    obtain ⟨entity, ⟨e, i⟩, place, hx, rfl, ho⟩ := s.origin_document_eq_some.mp hsome
    obtain ⟨field, g, inside, hg, hplace⟩ := s.origin_component_eq_some.mp ho
    obtain ⟨f, hf, rfl⟩ := (lastField?_eq_some h).mp hg
    have he := s.lastNamed?_eq_some.mpr ⟨i, hx⟩
    obtain ⟨rfl, rfl⟩ := hname he hf
    rcases hplace with ⟨rfl, hproperty⟩ | ⟨rfl, hsample⟩
    · rcases s.origin_property_eq_some.mp hproperty with
        ⟨v, rest, hv, rfl, rfl⟩ | ⟨choices, n, rest, hchoices, hn, rfl, rfl⟩
      · exact ⟨_, e, _, f, rest, he, hf, .inr (.inl ⟨v, hv, rfl, rfl⟩)⟩
      · exact ⟨_, e, _, f, rest, he, hf, .inl ⟨choices, n, hchoices, hn, rfl, rfl⟩⟩
    · obtain ⟨choices, hchoices, rfl⟩ := s.origin_sample_eq_some.mp hsample
      exact ⟨_, e, _, f, inside, he, hf, .inr (.inr ⟨choices, hchoices, rfl, rfl⟩)⟩
  · rintro ⟨entity, e, field, f, inside, he, hf, hplace⟩
    obtain ⟨i, hx⟩ := s.lastNamed?_eq_some.mp he
    have hg := (lastField?_eq_some h (i := i)).mpr ⟨f, hf, rfl⟩
    obtain ⟨rfl, rfl⟩ := hname he hf
    have hschema {place : Spot} (ho : (s.component i e "").origin place = some o) :
        s.identity (schemaSpot e.name place) = some o :=
      s.origin_document_eq_some.mpr ⟨_, _, place, hx, rfl, ho⟩
    rcases hplace with ⟨choices, n, hchoices, hn, rfl, rfl⟩ | ⟨v, hv, rfl, rfl⟩ |
      ⟨choices, hchoices, rfl, rfl⟩
    · refine hschema (s.origin_component_eq_some.mpr ⟨_, _, _, hg, .inl ⟨rfl, ?_⟩⟩)
      exact s.origin_property_eq_some.mpr
        (.inr ⟨choices, n, inside, hchoices, hn, rfl, rfl⟩)
    · refine hschema (s.origin_component_eq_some.mpr ⟨_, _, _, hg, .inl ⟨rfl, ?_⟩⟩)
      exact s.origin_property_eq_some.mpr (.inl ⟨v, inside, hv, rfl, rfl⟩)
    · refine hschema (s.origin_component_eq_some.mpr ⟨_, _, _, hg, .inr ⟨rfl, ?_⟩⟩)
      exact s.origin_sample_eq_some.mpr ⟨choices, hchoices, rfl⟩

end Sharing

end Schemata.OpenApi
