import Schemata.Proofs.Likeness
import Schemata.Proofs.NormalForm
/-!
# The other names of keys

Some keys of a model have a name on the wire and another one, and may be given under either.  A
value in which wire names are replaced by other names is normalized to the same model, with one
exception: a table name is looked for under its wire name alone, so under the other one it is lost.

* `Respelt`, `Model.RespeltTo`: maps and models with other names in the place of some wire names.
* `Constraints.read_respelt`, `Relationship.read_respelt`: their readers know both names.
* `Entity.LosesTable`: an entity whose table name is lost.
* `Model.normalize_respelt`: what becomes of the model, and when it is the same.
-/

namespace Schemata

open Coercion Value

/-! ## 1. Maps under other names -/

/-- Entries of which some have the other name of their key in the place of the wire name. -/
def Respelt (names : List (String × String)) :
    List (Scalar × Value) → List (Scalar × Value) → Prop :=
  List.Forall₂ (EntryAlike names fun _ _ _ => False)

namespace Respelt

variable {names : List (String × String)} {given given' : List (Scalar × Value)}
  {name : String → String}

/-- Under the wire names the entries are the same. -/
theorem map_textEntries (hnames : ∀ n ∈ names, name n.2 = name n.1)
    (h : Respelt names given given') :
    (textEntries given').map (fun p => (name p.1, p.2))
      = (textEntries given).map fun p => (name p.1, p.2) := by
  induction h with
  | nil => rfl
  | @cons p p' es es' hp _ ih =>
    obtain ⟨s, v⟩ := p
    obtain ⟨s', v'⟩ := p'
    obtain rfl : v' = v := hp.value.resolve_right fun ⟨_, _, hfalse⟩ => hfalse
    rcases hp.key with hsame | ⟨n, hn, hold, hnew⟩
    · obtain rfl : s' = s := hsame
      cases s' with
      | str key => exact congrArg ((name key, v') :: ·) ih
      | null | bool | int | float | date | moment | bytes => exact ih
    · obtain rfl : s = .str n.1 := hold
      obtain rfl : s' = .str n.2 := hnew
      change (name n.2, v') :: _ = (name n.1, v') :: _
      rw [hnames n hn]
      exact congrArg ((name n.1, v') :: ·) ih

theorem keyComplaints_eq (h : Respelt names given given') :
    keyComplaints given' = keyComplaints given := by
  induction h with
  | nil => rfl
  | @cons p p' es es' hp _ ih =>
    obtain ⟨s, v⟩ := p
    obtain ⟨s', v'⟩ := p'
    rcases hp.key with hsame | ⟨n, hn, hold, hnew⟩
    · obtain rfl : s' = s := hsame
      unfold keyComplaints at ih ⊢
      rw [List.filterMap_cons, List.filterMap_cons, ih]
    · obtain rfl : s = .str n.1 := hold
      obtain rfl : s' = .str n.2 := hnew
      exact ih

end Respelt

/-- A map with text keys that all have different wire names. -/
structure NamedApart (name : String → String) (given : List (Scalar × Value)) : Prop where
  texts : keyComplaints given = []
  apart : ((Entries.keys (textEntries given)).map name).Nodup

namespace NamedApart

variable {name : String → String} {given given' : List (Scalar × Value)}

theorem nodup (h : NamedApart name given) : (Entries.keys given).Nodup := by
  rw [← textMembers_textEntries h.texts, keys_textMembers]
  exact h.apart.of_map.map fun _ _ => Scalar.str.inj

/-- Keys with different wire names give nothing twice. -/
theorem namedOnce (h : NamedApart name given) {wireName : String} {names : List String}
    (hnames : ∀ n, name n = wireName ↔ n ∈ names) : NamedOnce given names := by
  intro n hn n' hn' hkey hkey'
  exact List.inj_on_of_nodup_map h.apart (mem_keys_textEntries.mpr hkey)
    (mem_keys_textEntries.mpr hkey') (((hnames n).mpr hn).trans ((hnames n').mpr hn').symm)

/-- Maps that are the same under their wire names give every part with one value. -/
theorem field?_eq (h : NamedApart name given) (h' : NamedApart name given')
    (hsame : Entries.rename name (textEntries given') = Entries.rename name (textEntries given))
    {wireName : String} {names : List String} (hnames : ∀ n, name n = wireName ↔ n ∈ names) :
    field? given' names = field? given names := by
  rw [← lookup_rename_eq_field? h.nodup hnames (h.namedOnce hnames),
    ← lookup_rename_eq_field? h'.nodup hnames (h'.namedOnce hnames), hsame]

variable {names : List (String × String)}

theorem respelt (hnames : ∀ n ∈ names, name n.2 = name n.1) (h : NamedApart name given)
    (hrespelt : Respelt names given given') : NamedApart name given' := by
  refine ⟨hrespelt.keyComplaints_eq.trans h.texts, ?_⟩
  have hkeys := congrArg (List.map Prod.fst) (hrespelt.map_textEntries hnames)
  rw [List.map_map, List.map_map] at hkeys
  have hmap : ∀ es : Entries String Value, (Entries.keys es).map name
      = es.map (Prod.fst ∘ fun p => (name p.1, p.2)) := fun es => by
    rw [Entries.keys, List.map_map]
    rfl
  rw [hmap, hkeys, ← hmap]
  exact h.apart

/-- A map is named apart that has no key twice and no part under two names, if only the parts have
other names. -/
theorem of_once {parts : List (String × List String)}
    (hparts : ∀ p ∈ parts, ∀ n, name n = p.1 ↔ n ∈ p.2)
    (hother : ∀ n, (∀ p ∈ parts, n ∉ p.2) → name n = n) (hkeys : (Entries.keys given).Nodup)
    (htexts : keyComplaints given = []) (honce : ∀ p ∈ parts, NamedOnce given p.2) :
    NamedApart name given := by
  refine ⟨htexts, (keys_textEntries_nodup hkeys htexts).map_on fun n hn n' hn' hname => ?_⟩
  by_cases hpart : ∃ p ∈ parts, n ∈ p.2
  · obtain ⟨p, hp, hnp⟩ := hpart
    have hnp' : n' ∈ p.2 := (hparts p hp n').mp (hname ▸ (hparts p hp n).mpr hnp)
    exact honce p hp n hnp n' hnp' (mem_keys_textEntries.mp hn) (mem_keys_textEntries.mp hn')
  · replace hpart : ∀ p ∈ parts, n ∉ p.2 := fun p hp hnp => hpart ⟨p, hp, hnp⟩
    have hpart' : ∀ p ∈ parts, n' ∉ p.2 := fun p hp hnp' =>
      hpart p hp ((hparts p hp n).mp (hname ▸ (hparts p hp n').mpr hnp'))
    rwa [hother n hpart, hother n' hpart'] at hname

end NamedApart

/-! ## 2. Constraints and relationships -/

namespace Constraints

/-- The known keys with another name. -/
def otherNames : List (String × String) :=
  [("autoIncrement", "auto_increment"), ("maxLength", "max_length"), ("minLength", "min_length")]

variable {given given' : List (Scalar × Value)}

/-- A map that gives no key twice, under one name or two, is named apart. -/
theorem namedApart (hkeys : (Entries.keys given).Nodup) (htexts : keyComplaints given = [])
    (honce : ∀ k, GivenOnce given k) : NamedApart ConstraintKey.wireNameOf given := by
  have hall : ∀ {P : String × List String → Prop},
      (∀ p ∈ ConstraintKey.all.map fun k => (k.wireName, k.names), P p) ↔
        ∀ k : ConstraintKey, P (k.wireName, k.names) := fun {P} =>
    List.forall_mem_map.trans ⟨fun h k => h k k.mem_all, fun h k _ => h k⟩
  refine .of_once (hall.mpr fun k n => ConstraintKey.wireNameOf_eq) (fun n hn => ?_) hkeys htexts
    (hall.mpr honce)
  unfold ConstraintKey.wireNameOf
  cases hfind : ConstraintKey.all.find? fun k => k.fieldName = n with
  | none => rfl
  | some k =>
    have hname : k.fieldName = n := by simpa using List.find?_some hfind
    exact absurd (hname ▸ k.fieldName_mem_names) (hall.mp hn k)

/-- **Constraints are read under either name.** -/
theorem read_respelt {c : Constraints} (hkeys : (Entries.keys given).Nodup)
    (honce : ∀ k, GivenOnce given k) (h : Respelt otherNames given given')
    (hc : Constraints.read (.map given) = .ok c) : Constraints.read (.map given') = .ok c := by
  obtain ⟨es, hes, htexts, rfl⟩ := read_eq_ok.mp hc
  cases hes
  have hnames : ∀ n ∈ otherNames, ConstraintKey.wireNameOf n.2 = ConstraintKey.wireNameOf n.1 := by
    decide
  have hapart := namedApart hkeys htexts honce
  have hapart' := hapart.respelt hnames h
  have hwire : wireOf (textEntries given') = wireOf (textEntries given) :=
    congrArg Entries.ofList (h.map_textEntries hnames)
  refine read_eq_ok.mpr ⟨given', rfl, hapart'.texts, (ofEntries_congr honce (fun k => ?_)
    (fun k => ?_) hwire).symm⟩
  · exact hapart'.namedOnce fun _ => ConstraintKey.wireNameOf_eq
  · exact hapart.field?_eq hapart' hwire fun _ => ConstraintKey.wireNameOf_eq

end Constraints

namespace Relationship

/-- The ends with their other names. -/
def otherNames : List (String × String) := [("from", "source"), ("to", "target")]

/-- Two values of relationships, the one with other names for its ends. -/
def RespeltTo : Value → Value → Prop := MapAlike otherNames fun _ _ _ => False

variable {given : List (Scalar × Value)} {v v' : Value} {r : Relationship}

theorem namedApart (hkeys : (Entries.keys given).Nodup) (htexts : keyComplaints given = [])
    (hsource : NamedOnce given ["from", "source"]) (htarget : NamedOnce given ["to", "target"]) :
    NamedApart wireNameOf given := by
  refine .of_once (fun p hp => wireNameOf_eq hp) (fun n hn => ?_) hkeys htexts
    (namedOnce_parts hsource htarget)
  have hfrom := hn ("from", ["from", "source"]) (by decide)
  have hto := hn ("to", ["to", "target"]) (by decide)
  refine wireNameOf_eq_self.mpr ⟨?_, ?_⟩
  · rintro rfl
    exact hfrom (by decide)
  · rintro rfl
    exact hto (by decide)

/-- **A relationship is read under either name.** -/
theorem read_respelt (hkeys : v.hasDistinctKeys = true)
    (hsource : ∀ given, v = .map given → NamedOnce given ["from", "source"])
    (htarget : ∀ given, v = .map given → NamedOnce given ["to", "target"]) (h : RespeltTo v v')
    (hr : Relationship.read v = .ok r) : Relationship.read v' = .ok r := by
  obtain ⟨given, given', rfl, rfl, hrespelt⟩ := h
  obtain ⟨es, hes, -, -, -, -, -, htexts⟩ := read_eq_ok.mp hr
  cases hes
  have hnames : ∀ n ∈ otherNames, wireNameOf n.2 = wireNameOf n.1 := by decide
  have hapart := namedApart (Value.hasDistinctKeys_map.mp hkeys).1 htexts (hsource _ rfl)
    (htarget _ rfl)
  have hapart' := hapart.respelt hnames hrespelt
  have hwire : wireOf given' = wireOf given :=
    congrArg Entries.ofList (Respelt.map_textEntries hnames hrespelt)
  exact read_congr (fun p hp => hapart.field?_eq hapart' hwire (wireNameOf_eq hp)) hwire
    hapart'.texts hr

end Relationship

/-! ## 3. Entities -/

/-- Under a key that may be renamed stands the one value or nothing. -/
theorem Value.member?_respelt {names : List (String × String)}
    {part : String → Value → Value → Prop} {key : String} {es es' : List (Scalar × Value)}
    (hpart : ∀ w w', ¬part key w w') (hnew : ∀ n ∈ names, n.2 ≠ key)
    (hkeys : (Entries.keys es).Nodup) (h : List.Forall₂ (EntryAlike names part) es es') :
    member? key es' = member? key es ∨ member? key es' = none := by
  induction h with
  | nil => exact .inl rfl
  | @cons p p' es es' hp _ ih =>
    obtain ⟨hfirst, hkeys⟩ := List.nodup_cons.mp hkeys
    have ih := ih hkeys
    unfold member? at ih ⊢
    rw [List.lookup_cons, List.lookup_cons]
    by_cases hname : p.1 = .str key
    · have hrest : es.lookup (Scalar.str key) = none := Entries.lookup_of_not_mem (hname ▸ hfirst)
      have hnone : es'.lookup (Scalar.str key) = none := by
        rwa [hrest, or_self] at ih
      rcases hp.key with hsame | ⟨n, hn, -, hother⟩
      · have hvalue : p'.2 = p.2 := hp.value.resolve_right fun ⟨key', hkey', halike⟩ =>
          hpart _ _ (Scalar.str.inj (hname.symm.trans hkey') ▸ halike)
        rw [hsame, hname, BEq.rfl, hvalue]
        exact .inl rfl
      · rw [hother, beq_eq_false_iff_ne.mpr fun e => hnew n hn (Scalar.str.inj e).symm]
        exact .inr hnone
    · have hname' : p'.1 ≠ .str key := by
        rcases hp.key with hsame | ⟨n, hn, -, hother⟩
        · rwa [hsame]
        · exact fun e => hnew n hn (Scalar.str.inj (hother.symm.trans e))
      rw [beq_eq_false_iff_ne.mpr (Ne.symm hname), beq_eq_false_iff_ne.mpr (Ne.symm hname')]
      exact ih

namespace Entity

/-- The table name with its other name. -/
def otherNames : List (String × String) := [("tableName", "table_name")]

/-- Two values of entities, the one with other names. -/
def RespeltTo : Value → Value → Prop := Entity.Alike otherNames (Respelt Constraints.otherNames)

/-- An entity that is given a table name other than the one that is made up. -/
def NamesTable (v : Value) : Prop :=
  ∃ name table, v.get? "name" = some (.str name) ∧ v.get? "tableName" = some (.str table) ∧
    table ≠ "" ∧ table ≠ Text.plural name

/-- An entity whose table name was given under the wire name, and is given under the other one
now. -/
structure LosesTable (v v' : Value) : Prop where
  given : NamesTable v
  respelt : v'.get? "tableName" = none

variable {v v' : Value} {e e' : Entity}

theorem get?_tableName (hkeys : v.hasDistinctKeys = true) (h : v' = v ∨ RespeltTo v v') :
    v'.get? "tableName" = v.get? "tableName" ∨ v'.get? "tableName" = none := by
  rcases h with rfl | ⟨es, es', rfl, rfl, hes⟩
  · exact .inl rfl
  · exact Value.member?_respelt (fun _ _ hpart => absurd hpart.1 (by decide)) (by decide)
      (Value.hasDistinctKeys_map.mp hkeys).1 hes

theorem exists_table (hkeys : v.hasDistinctKeys = true) (h : v' = v ∨ RespeltTo v v')
    (he : MadeOf v e) : ∃ table, tableOf? (v'.get? "tableName") e.name = some table := by
  rcases get?_tableName hkeys h with hsame | hnone
  · exact ⟨e.tableName, hsame ▸ he.table⟩
  · exact ⟨Text.plural e.name, by rw [hnone]; rfl⟩

/-- A table name is the same or made up. -/
theorem tableName_eq_or (hkeys : v.hasDistinctKeys = true) (h : v' = v ∨ RespeltTo v v')
    (he : MadeOf v e) (he' : MadeOf v' e') (hname : e'.name = e.name) :
    e'.tableName = e.tableName ∨ e'.tableName = Text.plural e.name := by
  have htable' := he'.table
  refine (get?_tableName hkeys h).imp (fun hsame => ?_) fun hnone => ?_
  · rw [hsame, hname, he.table] at htable'
    exact (Option.some.inj htable').symm
  · rw [hnone, hname] at htable'
    exact (Option.some.inj htable').symm

/-- A table name is made up unless another one is given. -/
theorem tableName_eq_plural_iff (he : MadeOf v e) :
    e.tableName = Text.plural e.name ↔ ¬NamesTable v := by
  have htable := he.table
  unfold tableOf? at htable
  split at htable
  · rename_i hfilter
    refine iff_of_true (Option.some.inj htable).symm ?_
    rintro ⟨_, table, -, hgiven, hne, -⟩
    rw [hgiven] at hfilter
    simp [Value.isTruthy, hne] at hfilter
  · rename_i table hfilter
    obtain rfl := Option.some.inj htable
    obtain ⟨hgiven, -⟩ := Option.filter_eq_some_iff.mp hfilter
    constructor
    · rintro hplural ⟨name, table, hname, htable, -, hother⟩
      cases hgiven.symm.trans htable
      cases he.name.symm.trans hname
      exact hother hplural
    · intro hnone
      by_contra hother
      exact hnone ⟨e.name, e.tableName, he.name, hgiven, he.tableName_ne, hother⟩
  · cases htable

/-- **When a table name is kept**: unless it is lost. -/
theorem tableName_eq_iff (hkeys : v.hasDistinctKeys = true) (h : v' = v ∨ RespeltTo v v')
    (he : MadeOf v e) (he' : MadeOf v' e') (hname : e'.name = e.name) :
    e'.tableName = e.tableName ↔ ¬LosesTable v v' := by
  have htable := he'.table
  rcases get?_tableName hkeys h with hsame | hnone
  · rw [hsame, hname, he.table] at htable
    refine iff_of_true (Option.some.inj htable).symm fun hloses => ?_
    obtain ⟨_, _, -, hgiven, -⟩ := hloses.given
    rw [← hsame, hloses.respelt] at hgiven
    cases hgiven
  · rw [hnone, hname] at htable
    have hmade : Text.plural e.name = e'.tableName := Option.some.inj htable
    rw [← hmade, eq_comm, tableName_eq_plural_iff he, not_iff_not]
    exact ⟨fun hnames => ⟨hnames, hnone⟩, LosesTable.given⟩

end Entity

/-! ## 4. Models -/

/-- Fields are the same if they are the same but for constraints that are the same. -/
theorem Field.SameBut.eq {f f' : Field} (h : SameBut (fun c c' => c' = c) f f') : f' = f := by
  have hconstraints : f'.constraints = f.constraints := by
    have hrel := h.constraints
    generalize f.constraints = given, f'.constraints = given' at hrel
    cases hrel with
    | none => rfl
    | some hsame => rw [or_self] at hsame; rw [hsame]
  rw [h.rest, hconstraints]

theorem Entity.SameBut.eq {e e' : Entity} (h : SameBut (fun c c' => c' = c) e e') :
    e' = { e with tableName := e'.tableName } := by
  have hfields : e.fields = e'.fields := by
    have hall := h.fields.imp fun f f' hf => hf.eq.symm
    rwa [List.forall₂_eq_eq_eq] at hall
  rw [h.rest, ← hfields]

namespace Model

/-- Two values of models, the one with other names in the place of some wire names. -/
def RespeltTo : Value → Value → Prop :=
  Model.Alike Entity.otherNames (Respelt Constraints.otherNames) Relationship.RespeltTo

variable {raw raw' : Value} {m m' : Model}

/-- A model with an entity whose table name is lost. -/
def LosesTable (raw raw' : Value) : Prop :=
  ∃ p ∈ (raw.itemsUnder "entities").zip (raw'.itemsUnder "entities"), Entity.LosesTable p.1 p.2

theorem RespeltTo.isJson (h : RespeltTo raw raw') (hjson : raw.isJson = true) :
    raw'.isJson = true := by
  refine Alike.isJson (fun given given' hgiven => ?_) (fun w w' => ?_) h hjson
  · exact isJson_of_mapAlike (fun _ _ _ hfalse => hfalse.elim) ⟨given, given', rfl, rfl, hgiven⟩
  · exact isJson_of_mapAlike fun _ _ _ hfalse => hfalse.elim

/-- **What is made of a value with other names**: the relationships, and the entities but for their
table names, are those that are made of the value with wire names. -/
theorem exists_madeOf_respelt (hkeys : raw.hasDistinctKeys = true) (honce : NamesOnce raw)
    (h : RespeltTo raw raw') (hm : MadeOf raw m) :
    ∃ m', MadeOf raw' m' ∧ m'.relationships = m.relationships ∧
      List.Forall₂ (fun e e' => e' = { e with tableName := e'.tableName }) m.entities
        m'.entities := by
  have hconstraints : ∀ v ∈ raw.itemsUnder "entities",
      Entity.ReadAlike (Respelt Constraints.otherNames) (fun c c' => c' = c) v := by
    intro v hv x hx given given' c hgiven hrespelt hc
    have hx' := Value.hasDistinctKeys_of_mem_itemsUnder
      (Value.hasDistinctKeys_of_mem_itemsUnder hkeys hv) hx
    have hdistinct := Value.hasDistinctKeys_map.mp
      (Value.hereditary_hasDistinctKeys.get? hx' hgiven)
    have hmem : Value.map given ∈ givenConstraints raw :=
      List.mem_filterMap.mpr ⟨x, List.mem_flatMap.mpr ⟨v, hv, hx⟩, hgiven⟩
    exact ⟨c, Constraints.read_respelt hdistinct.1 (honce.constraints given hmem) hrespelt hc, rfl⟩
  have hrelationships : ∀ v ∈ raw.itemsUnder "relationships", ∀ v' r,
      Relationship.RespeltTo v v' → Relationship.read v = .ok r → Relationship.read v' = .ok r := by
    intro v hv v' r
    refine Relationship.read_respelt (Value.hasDistinctKeys_of_mem_itemsUnder hkeys hv) ?_ ?_
    · rintro given rfl
      exact honce.source given hv
    · rintro given rfl
      exact honce.target given hv
  obtain ⟨m', hm', hsame, hentities⟩ := exists_madeOf_alike h (by decide) hconstraints
    hrelationships (fun v hv v' e hvv' he =>
      Entity.exists_table (Value.hasDistinctKeys_of_mem_itemsUnder hkeys hv) (.inr hvv') he) hm
  exact ⟨m', hm', hsame, hentities.imp fun e e' he => he.eq⟩

/-- The entities of the two models, one by one: they are the same or have a table name that is made
up, and are all the same unless a table name is lost. -/
theorem entities_respelt {given given' : List Value} {es es' : List Entity}
    (hkeys : ∀ v ∈ given, v.hasDistinctKeys = true)
    (h : List.Forall₂ (fun v v' => v' = v ∨ Entity.RespeltTo v v') given given')
    (hes : List.Forall₂ Entity.MadeOf given es) (hes' : List.Forall₂ Entity.MadeOf given' es')
    (hsame : List.Forall₂ (fun e e' => e' = { e with tableName := e'.tableName }) es es') :
    List.Forall₂ (fun e e' => e' = e ∨ e' = { e with tableName := Text.plural e.name }) es es' ∧
      (es' = es ↔ ¬∃ p ∈ given.zip given', Entity.LosesTable p.1 p.2) := by
  induction h generalizing es es' with
  | nil =>
    cases hes
    cases hes'
    exact ⟨.nil, iff_of_true rfl fun ⟨_, hmem, _⟩ => List.not_mem_nil hmem⟩
  | @cons v v' given given' hv _ ih =>
    cases hes with
    | @cons _ e _ rest he hrest =>
    cases hes' with
    | @cons _ e' _ rest' he' hrest' =>
    cases hsame with
    | cons hfirst hsame =>
    obtain ⟨hall, hiff⟩ := ih (fun w hw => hkeys w (List.mem_cons_of_mem _ hw)) hrest hrest' hsame
    have hkeys := hkeys v List.mem_cons_self
    have hname : e'.name = e.name := by rw [hfirst]
    have hfirst_iff : e' = e ↔ ¬Entity.LosesTable v v' := by
      rw [← Entity.tableName_eq_iff hkeys hv he he' hname]
      refine ⟨congrArg Entity.tableName, fun htable => ?_⟩
      rw [hfirst, htable]
    refine ⟨.cons ?_ hall, ?_⟩
    · refine (Entity.tableName_eq_or hkeys hv he he' hname).imp (fun htable => ?_) fun htable => ?_
      · rw [hfirst, htable]
      · rw [hfirst, htable]
    · rw [List.cons_eq_cons, hfirst_iff, hiff, List.zip_cons_cons, List.exists_mem_cons_iff, not_or]

/-- A model tells its entities, if these are given but for their table names. -/
theorem entities_eq_of_toWire {es es' : List Entity}
    (hsame : List.Forall₂ (fun e e' => e' = { e with tableName := e'.tableName }) es es')
    (h : es'.map Entity.toWire = es.map Entity.toWire) : es' = es := by
  induction hsame with
  | nil => rfl
  | @cons e e' rest rest' hfirst _ ih =>
    obtain ⟨hwire, hrest⟩ := List.cons_eq_cons.mp h
    have htable : some (Value.str e'.tableName) = some (.str e.tableName) :=
      congrArg (Value.get? "tableName") hwire
    replace htable := Scalar.str.inj (Value.atom.inj (Option.some.inj htable))
    rw [ih hrest, hfirst, htable]

theorem toWire_eq_iff (hm : m.IsIndexed) (hm' : m'.IsIndexed)
    (hrelationships : m'.relationships = m.relationships)
    (hsame : List.Forall₂ (fun e e' => e' = { e with tableName := e'.tableName }) m.entities
      m'.entities) :
    (m'.toWire = m.toWire ↔ m'.entities = m.entities) ∧ (m' = m ↔ m'.entities = m.entities) := by
  obtain ⟨es, rs, index⟩ := m
  obtain ⟨es', rs', index'⟩ := m'
  obtain rfl : index = indexOf es := hm
  obtain rfl : index' = indexOf es' := hm'
  obtain rfl : rs' = rs := hrelationships
  refine ⟨⟨fun h => ?_, fun h => ?_⟩, ⟨congrArg Model.entities, fun h => ?_⟩⟩
  · have hentities := congrArg (Value.get? "entities") h
    exact entities_eq_of_toWire hsame (Value.list.inj (Option.some.inj hentities))
  · obtain rfl : es' = es := h
    rfl
  · obtain rfl : es' = es := h
    rfl

/-- **Other names in the place of wire names.**  A value of JSON with distinct keys that gives
nothing under two names is normalized under other names as well.  The relationships are the same,
and so are the entities, with the fields and all that is read of and kept from their constraints;
an entity may have the made up table name, though.  The two models are the same, and the same on the
wire, exactly if no table name is lost. -/
theorem normalize_respelt (hjson : raw.isJson = true) (hkeys : raw.hasDistinctKeys = true)
    (honce : NamesOnce raw) (h : RespeltTo raw raw') (hm : normalize raw = .ok m) :
    ∃ m', normalize raw' = .ok m' ∧ m'.relationships = m.relationships ∧
      List.Forall₂ (fun e e' => e' = e ∨ e' = { e with tableName := Text.plural e.name })
        m.entities m'.entities ∧
      (m'.toWire = m.toWire ↔ ¬LosesTable raw raw') ∧ (m' = m ↔ ¬LosesTable raw raw') := by
  have hmade := (normalize_iff_madeOf hjson).mp hm
  obtain ⟨m', hmade', hrelationships, hsame⟩ := exists_madeOf_respelt hkeys honce h hmade
  obtain ⟨given, hgiven, hentities⟩ := hmade.entities
  obtain ⟨given', hgiven', halike⟩ := exists_entities_alike h hgiven
  obtain ⟨given'', hsome, hentities'⟩ := hmade'.entities
  cases hgiven'.symm.trans hsome
  have hdistinct : ∀ v ∈ given, v.hasDistinctKeys = true := fun v hv =>
    Value.hasDistinctKeys_of_mem_itemsUnder hkeys (itemsUnder_of_get? hgiven ▸ hv)
  obtain ⟨hall, hiff⟩ := entities_respelt hdistinct halike hentities hentities' hsame
  obtain ⟨hwire, heq⟩ := toWire_eq_iff hmade.indexed hmade'.indexed hrelationships hsame
  have hloses : m'.entities = m.entities ↔ ¬LosesTable raw raw' := by
    rw [LosesTable, itemsUnder_of_get? hgiven, itemsUnder_of_get? hgiven']
    exact hiff
  exact ⟨m', (normalize_iff_madeOf (h.isJson hjson)).mpr hmade', hrelationships, hall,
    hwire.trans hloses, heq.trans hloses⟩

/-- A box with a code of some length and a box in it: the names of some keys, and the table name. -/
def keyedBox (tableKey length source target table : String) : Value :=
  .obj [("entities", .list [.obj [("name", .str "box"), (tableKey, .str table), ("fields", .list [
      .obj [("name", .str "code"), ("type", .str "string"),
        ("constraints", .obj [(length, .int 5)])]])]]),
    ("relationships", .list [.obj [(source, .str "box"), (target, .str "box")]])]

/-- The box under wire names. -/
def wireBox : String → Value := keyedBox "tableName" "maxLength" "from" "to"

/-- The box under the other names. -/
def otherBox : String → Value := keyedBox "table_name" "max_length" "source" "target"

theorem namesOnce_wireBox (table : String) : NamesOnce (wireBox table) := by
  refine ⟨fun given hgiven k => ?_, fun given hgiven => ?_, fun given hgiven => ?_⟩ <;>
    cases List.mem_singleton.mp hgiven
  · cases k <;> unfold Constraints.GivenOnce <;> decide
  · unfold NamedOnce
    decide
  · unfold NamedOnce
    decide

theorem respeltTo_otherBox (table : String) : RespeltTo (wireBox table) (otherBox table) := by
  refine ⟨_, _, rfl, rfl,
    .cons ⟨.inl rfl, .inr ⟨"entities", rfl, .inl ⟨rfl, _, _, rfl, rfl, .cons (.inr ?_) .nil⟩⟩⟩
      (.cons ⟨.inl rfl, .inr ⟨"relationships", rfl, .inr ⟨rfl, _, _, rfl, rfl,
        .cons (.inr ?_) .nil⟩⟩⟩ .nil)⟩
  · refine ⟨_, _, rfl, rfl, .cons ⟨.inl rfl, .inl rfl⟩ (.cons
      ⟨.inr ⟨_, List.mem_singleton_self _, rfl, rfl⟩, .inl rfl⟩ (.cons ⟨.inl rfl,
        .inr ⟨"fields", rfl, rfl, _, _, rfl, rfl, .cons (.inr ?_) .nil⟩⟩ .nil))⟩
    refine ⟨_, _, rfl, rfl, .cons ⟨.inl rfl, .inl rfl⟩ (.cons ⟨.inl rfl, .inl rfl⟩
      (.cons ⟨.inl rfl, .inr ⟨"constraints", rfl, rfl, _, _, rfl, rfl, ?_⟩⟩ .nil))⟩
    exact .cons ⟨.inr ⟨("maxLength", "max_length"), by decide, rfl, rfl⟩, .inl rfl⟩ .nil
  · exact ⟨_, _, rfl, rfl, .cons ⟨.inr ⟨("from", "source"), by decide, rfl, rfl⟩, .inl rfl⟩
      (.cons ⟨.inr ⟨("to", "target"), by decide, rfl, rfl⟩, .inl rfl⟩ .nil)⟩

/-- The box with the table name that would be made up is the same under the other names. -/
theorem normalize_respelt_box :
    ∃ m, normalize (wireBox "boxes") = .ok m ∧ normalize (otherBox "boxes") = .ok m := by
  obtain ⟨m, hm⟩ : ∃ m, normalize (wireBox "boxes") = .ok m := ⟨_, rfl⟩
  obtain ⟨m', hm', -, -, -, hiff⟩ := normalize_respelt (by decide) (by decide)
    (namesOnce_wireBox "boxes") (respeltTo_otherBox "boxes") hm
  have hkept : ¬LosesTable (wireBox "boxes") (otherBox "boxes") := by
    rintro ⟨p, hp, hloses⟩
    obtain rfl := List.mem_singleton.mp hp
    obtain ⟨name, table, hname, htable, -, hother⟩ := hloses.given
    cases hname
    cases htable
    exact hother (by decide)
  exact ⟨m, hm, hiff.mpr hkept ▸ hm'⟩

/-- A table name under the other name of its key is lost: what is written of the model differs. -/
theorem tableName_lost :
    ∃ raw raw' m m', raw.isJson = true ∧ raw.hasDistinctKeys = true ∧ NamesOnce raw ∧
      RespeltTo raw raw' ∧ normalize raw = .ok m ∧ normalize raw' = .ok m' ∧
      m'.toWire ≠ m.toWire := by
  refine ⟨wireBox "crates", otherBox "crates", _, _, by decide, by decide,
    namesOnce_wireBox "crates", respeltTo_otherBox "crates", rfl, rfl, fun h => ?_⟩
  have htable : some (Value.str "boxes") = some (.str "crates") :=
    congrArg (fun v => (v.itemsUnder "entities").head?.bind (Value.get? "tableName")) h
  exact absurd (Scalar.str.inj (Value.atom.inj (Option.some.inj htable))) (by decide)

end Model

end Schemata
