import Schemata.Proofs.Normalizing
/-!
# Values that are alike

Two values of models are alike where they differ in the parts alone that a relation allows to
differ: some keys may have another name, and constraint maps and relationships may be alike in
their turn.  A model that is made of the one is made of the other, but for those parts.

* `Value.MapAlike`, `Value.ListAlike`: maps that are alike entry by entry, lists item by item.
* `Field.Alike`, `Entity.Alike`, `Model.Alike`: the values of the parts of a model.
* `Field.SameBut`, `Entity.SameBut`: what is read of values that are alike.
* `Model.exists_madeOf_alike`: what is made of the one value, and what of the other.
-/

namespace Schemata

open Coercion

/-! ## 1. Maps and lists -/

namespace Value

/-- Two entries that are alike: their keys are one, or a name and the other name for it, and their
values are one or are alike as parts under that key. -/
structure EntryAlike (names : List (String × String)) (part : String → Value → Value → Prop)
    (p p' : Scalar × Value) : Prop where
  key : p'.1 = p.1 ∨ ∃ n ∈ names, p.1 = .str n.1 ∧ p'.1 = .str n.2
  value : p'.2 = p.2 ∨ ∃ key, p.1 = .str key ∧ part key p.2 p'.2

/-- Two maps that are alike, entry by entry. -/
def MapAlike (names : List (String × String)) (part : String → Value → Value → Prop)
    (v v' : Value) : Prop :=
  ∃ es es', v = .map es ∧ v' = .map es' ∧ List.Forall₂ (EntryAlike names part) es es'

/-- Two lists that are alike, item by item. -/
def ListAlike (item : Value → Value → Prop) (v v' : Value) : Prop :=
  ∃ items items', v = .list items ∧ v' = .list items' ∧
    List.Forall₂ (fun w w' => w' = w ∨ item w w') items items'

variable {names : List (String × String)} {part : String → Value → Value → Prop}
  {es es' : List (Scalar × Value)} {v v' : Value} {key : String}

/-- Under a key that is not renamed stand values that are one or alike. -/
theorem member?_alike (hkey : ∀ n ∈ names, n.1 ≠ key ∧ n.2 ≠ key)
    (h : List.Forall₂ (EntryAlike names part) es es') :
    Option.Rel (fun w w' => w' = w ∨ part key w w') (member? key es) (member? key es') := by
  induction h with
  | nil => exact .none
  | @cons p p' es es' hp _ ih =>
    rw [member?, member?, List.lookup_cons, List.lookup_cons]
    by_cases hname : p.1 = .str key
    · have hname' : p'.1 = .str key := by
        rcases hp.key with hsame | ⟨n, hn, hold, -⟩
        · rw [hsame, hname]
        · exact absurd (Scalar.str.inj (hold.symm.trans hname)) (hkey n hn).1
      rw [hname, hname', BEq.rfl]
      refine .some (hp.value.imp_right ?_)
      rintro ⟨key', hkey', hpart⟩
      rwa [← Scalar.str.inj (hkey'.symm.trans hname)]
    · have hname' : p'.1 ≠ .str key := by
        rcases hp.key with hsame | ⟨n, hn, -, hnew⟩
        · rwa [hsame]
        · exact fun h => (hkey n hn).2 (Scalar.str.inj (hnew.symm.trans h))
      rw [beq_eq_false_iff_ne.mpr (Ne.symm hname), beq_eq_false_iff_ne.mpr (Ne.symm hname')]
      exact ih

/-- Under a key that is not renamed, and whose value is no part that may differ, stands one value.
-/
theorem member?_eq_of_alike (hkey : ∀ n ∈ names, n.1 ≠ key ∧ n.2 ≠ key)
    (hpart : ∀ w w', ¬part key w w') (h : List.Forall₂ (EntryAlike names part) es es') :
    member? key es' = member? key es := by
  have hrel := member?_alike hkey h
  generalize member? key es = given, member? key es' = given' at hrel
  cases hrel with
  | none => rfl
  | some hsame => rw [hsame.resolve_right (hpart _ _)]

theorem get?_alike (hkey : ∀ n ∈ names, n.1 ≠ key ∧ n.2 ≠ key) (h : MapAlike names part v v') :
    Option.Rel (fun w w' => w' = w ∨ part key w w') (v.get? key) (v'.get? key) := by
  obtain ⟨es, es', rfl, rfl, hes⟩ := h
  exact member?_alike hkey hes

theorem get?_eq_of_alike (hkey : ∀ n ∈ names, n.1 ≠ key ∧ n.2 ≠ key)
    (hpart : ∀ w w', ¬part key w w') (h : MapAlike names part v v') :
    v'.get? key = v.get? key := by
  obtain ⟨es, es', rfl, rfl, hes⟩ := h
  exact member?_eq_of_alike hkey hpart hes

/-- Under a key whose value may be a list that is alike stand two such lists. -/
theorem exists_items_alike {item : Value → Value → Prop} {items : List Value}
    (hkey : ∀ n ∈ names, n.1 ≠ key ∧ n.2 ≠ key)
    (hpart : ∀ w w', part key w w' → ListAlike item w w') (h : MapAlike names part v v')
    (hv : v.get? key = some (.list items)) :
    ∃ items', v'.get? key = some (.list items') ∧
      List.Forall₂ (fun w w' => w' = w ∨ item w w') items items' := by
  have hrel := get?_alike hkey h
  rw [hv] at hrel
  generalize v'.get? key = given' at hrel
  cases hrel with
  | some hw =>
    rcases hw with rfl | hw
    · exact ⟨items, rfl, List.forall₂_same.mpr fun _ _ => .inl rfl⟩
    · obtain ⟨_, items', hitems, rfl, hall⟩ := hpart _ _ hw
      cases hitems
      exact ⟨items', rfl, hall⟩

/-- Likeness without other names goes both ways. -/
theorem mapAlike_symm {part' : String → Value → Value → Prop}
    (hpart : ∀ key w w', part key w w' → part' key w' w) (h : MapAlike [] part v v') :
    MapAlike [] part' v' v := by
  obtain ⟨es, es', rfl, rfl, hes⟩ := h
  refine ⟨es', es, rfl, rfl, List.Forall₂.flip (hes.imp fun p p' hp => ?_)⟩
  have hkey : p'.1 = p.1 := hp.key.resolve_right fun ⟨n, hn, _⟩ => List.not_mem_nil hn
  refine ⟨.inl hkey.symm, hp.value.imp Eq.symm ?_⟩
  rintro ⟨key, hname, halike⟩
  exact ⟨key, hkey.trans hname, hpart _ _ _ halike⟩

theorem listAlike_symm {item item' : Value → Value → Prop}
    (hitem : ∀ w w', item w w' → item' w' w) (h : ListAlike item v v') : ListAlike item' v' v := by
  obtain ⟨items, items', rfl, rfl, hall⟩ := h
  exact ⟨items', items, rfl, rfl,
    List.Forall₂.flip (hall.imp fun w w' hw => hw.imp Eq.symm (hitem w w'))⟩

/-- A value that is like one of JSON is one of JSON, if its parts are. -/
theorem isJson_of_mapAlike (hpart : ∀ key w w', part key w w' → w.isJson = true → w'.isJson = true)
    (h : MapAlike names part v v') (hjson : v.isJson = true) : v'.isJson = true := by
  obtain ⟨es, es', rfl, rfl, hes⟩ := h
  rw [isJson, membersAreJson_iff] at hjson ⊢
  intro p' hp'
  obtain ⟨p, hp, halike⟩ := exists_beside hes hp'
  obtain ⟨hkind, hvalue⟩ := hjson p hp
  constructor
  · rcases halike.key with hsame | ⟨n, -, -, hother⟩
    · rwa [hsame]
    · rw [hother]
      rfl
  · rcases halike.value with hsame | ⟨key, -, hparts⟩
    · rwa [hsame]
    · exact hpart key _ _ hparts hvalue

theorem isJson_of_listAlike {item : Value → Value → Prop}
    (hitem : ∀ w w', item w w' → w.isJson = true → w'.isJson = true) (h : ListAlike item v v')
    (hjson : v.isJson = true) : v'.isJson = true := by
  obtain ⟨items, items', rfl, rfl, hall⟩ := h
  rw [isJson, areJson_iff] at hjson ⊢
  intro w' hw'
  obtain ⟨w, hw, hsame | halike⟩ := exists_beside hall hw'
  · rw [hsame]
    exact hjson w hw
  · exact hitem w w' halike (hjson w hw)

theorem itemsUnder_of_get? {items : List Value} (h : v.get? key = some (.list items)) :
    v.itemsUnder key = items := by
  rw [itemsUnder, h]
  rfl

end Value

open Value

/-- What stands beside the items of one list stands, but for what may differ, beside the items of
one that is alike. -/
theorem exists_beside_alike {α : Type} {P : Value → α → Prop} {R : Value → Value → Prop}
    {S : α → α → Prop} {items items' : List Value} {as : List α}
    (hstep : ∀ w ∈ items, ∀ w' a, R w w' → P w a → ∃ a', P w' a' ∧ S a a')
    (h : List.Forall₂ R items items') (has : List.Forall₂ P items as) :
    ∃ as', List.Forall₂ P items' as' ∧ List.Forall₂ S as as' := by
  induction h generalizing as with
  | nil =>
    cases has
    exact ⟨[], .nil, .nil⟩
  | @cons w w' items items' hw _ ih =>
    cases has with
    | @cons _ a _ rest ha hrest =>
      obtain ⟨a', ha', hS⟩ := hstep w List.mem_cons_self w' a hw ha
      obtain ⟨rest', hrest', hall⟩ := ih (fun x hx => hstep x (List.mem_cons_of_mem _ hx)) hrest
      exact ⟨a' :: rest', .cons ha' hrest', .cons hS hall⟩

/-! ## 2. Fields -/

/-- The values of two fields that differ in their constraint maps at most. -/
def Field.Alike (K : List (Scalar × Value) → List (Scalar × Value) → Prop) : Value → Value → Prop :=
  MapAlike [] fun key w w' =>
    key = "constraints" ∧ ∃ given given', w = .map given ∧ w' = .map given' ∧ K given given'

/-- Two fields that are the same but for their constraints. -/
structure Field.SameBut (Q : Constraints → Constraints → Prop) (f f' : Field) : Prop where
  rest : f' = { f with constraints := f'.constraints }
  constraints : Option.Rel (fun c c' => c' = c ∨ Q c c') f.constraints f'.constraints

namespace Field

/-- Constraint maps that are alike are read alike: `Q` is what their readings have in common. -/
def ReadAlike (K : List (Scalar × Value) → List (Scalar × Value) → Prop)
    (Q : Constraints → Constraints → Prop) (v : Value) : Prop :=
  ∀ given given' c, v.get? "constraints" = some (.map given) → K given given' →
    Constraints.read (.map given) = .ok c → ∃ c', Constraints.read (.map given') = .ok c' ∧ Q c c'

variable {K : List (Scalar × Value) → List (Scalar × Value) → Prop}
  {Q : Constraints → Constraints → Prop} {v v' : Value} {f : Field}

theorem rel_constraints_refl (c? : Option Constraints) :
    Option.Rel (fun c c' => c' = c ∨ Q c c') c? c? := by
  cases c? with
  | none => exact .none
  | some c => exact .some (.inl rfl)

theorem SameBut.refl (f : Field) : SameBut Q f f := ⟨rfl, rel_constraints_refl f.constraints⟩

/-- The constraints of a field are read of either value. -/
theorem exists_constraints_alike {es es' : List (Scalar × Value)} {c? : Option Constraints}
    (h : Alike K (.map es) (.map es')) (hK : ReadAlike K Q (.map es))
    (hc : optionalField es ["constraints"] none (optional Constraints.read) = .ok c?) :
    ∃ c?', optionalField es' ["constraints"] none (optional Constraints.read) = .ok c?' ∧
      Option.Rel (fun c c' => c' = c ∨ Q c c') c? c?' := by
  have hgiven : Option.Rel _ (member? "constraints" es) (member? "constraints" es') :=
    get?_alike (List.forall_mem_nil _) h
  change ∀ given given' c, member? "constraints" es = _ → _ at hK
  unfold optionalField at hc ⊢
  rw [field?_single] at hc ⊢
  generalize member? "constraints" es = given?, member? "constraints" es' = given?' at *
  cases hgiven with
  | none => exact ⟨c?, hc, rel_constraints_refl c?⟩
  | some hw =>
    rcases hw with rfl | ⟨-, given, given', rfl, rfl, hgiven⟩
    · exact ⟨c?, hc, rel_constraints_refl c?⟩
    · obtain ⟨c, hread, rfl⟩ := Checked.map_eq_ok.mp (Checked.under_eq_ok.mp hc)
      obtain ⟨c', hc', hQ⟩ := hK given given' c rfl hgiven hread
      exact ⟨some c', Checked.under_eq_ok.mpr (Checked.map_eq_ok.mpr ⟨c', hc', rfl⟩),
        .some (.inr hQ)⟩

/-- **A field is read of either value**, and is the same but for its constraints. -/
theorem exists_read_alike (h : Alike K v v') (hK : ReadAlike K Q v) (hf : Field.read v = .ok f) :
    ∃ f', Field.read v' = .ok f' ∧ SameBut Q f f' := by
  obtain ⟨es, es', rfl, rfl, hes⟩ := h
  obtain ⟨_, hmap, hname, htype, hrequired, hdescription, hconstraints⟩ := read_eq_ok.mp hf
  cases hmap
  have hother : ∀ key, key ≠ "constraints" → field? es' [key] = field? es [key] := by
    intro key hkey
    rw [field?_single, field?_single,
      member?_eq_of_alike (List.forall_mem_nil _) (fun _ _ hpart => hkey hpart.1) hes]
  obtain ⟨constraints', hread', hrel⟩ :=
    exists_constraints_alike ⟨es, es', rfl, rfl, hes⟩ hK hconstraints
  refine ⟨{ f with constraints := constraints' }, read_eq_ok.mpr ⟨es', rfl, ?_⟩, rfl, hrel⟩
  rw [Coercion.required, Coercion.required, optionalField, optionalField,
    hother "name" (by decide), hother "type" (by decide), hother "required" (by decide),
    hother "description" (by decide)]
  exact ⟨hname, htype, hrequired, hdescription, hread'⟩

end Field

/-! ## 3. Entities -/

/-- The values of two entities: some keys may have another name, and the fields may be alike. -/
def Entity.Alike (names : List (String × String))
    (K : List (Scalar × Value) → List (Scalar × Value) → Prop) : Value → Value → Prop :=
  MapAlike names fun key w w' => key = "fields" ∧ ListAlike (Field.Alike K) w w'

/-- Two entities that are the same but for their table names and the constraints of their fields. -/
structure Entity.SameBut (Q : Constraints → Constraints → Prop) (e e' : Entity) : Prop where
  rest : e' = { e with tableName := e'.tableName, fields := e'.fields }
  fields : List.Forall₂ (Field.SameBut Q) e.fields e'.fields

namespace Entity

variable {names : List (String × String)} {K : List (Scalar × Value) → List (Scalar × Value) → Prop}
  {Q : Constraints → Constraints → Prop} {v v' : Value} {e : Entity}

/-- The constraint maps of all fields are read alike. -/
def ReadAlike (K : List (Scalar × Value) → List (Scalar × Value) → Prop)
    (Q : Constraints → Constraints → Prop) (v : Value) : Prop :=
  ∀ x ∈ v.itemsUnder "fields", Field.ReadAlike K Q x

/-- Fields that are alike are keys together. -/
theorem isKey_alike {w w' : Value} (h : w' = w ∨ Field.Alike K w w') : isKey w' = isKey w := by
  rcases h with rfl | h
  · rfl
  · have hname : w'.get? "name" = w.get? "name" :=
      get?_eq_of_alike (List.forall_mem_nil _) (fun _ _ hpart => absurd hpart.1 (by decide)) h
    rw [Bool.eq_iff_iff, isKey_iff, isKey_iff, hname]

/-- The fields of either value are read alike. -/
theorem exists_fields_alike {fields fields' : List Value} {fs : List Field}
    (hread : ∀ x ∈ fields, Field.ReadAlike K Q x)
    (h : List.Forall₂ (fun w w' => w' = w ∨ Field.Alike K w w') fields fields')
    (hfs : (keyedFields fields).map Field.read = fs.map .ok) :
    ∃ fs', (keyedFields fields').map Field.read = fs'.map .ok ∧
      List.Forall₂ (Field.SameBut Q) fs fs' := by
  have hgiven : ∀ {fs : List Field}, fields.map Field.read = fs.map .ok →
      ∃ fs', fields'.map Field.read = fs'.map .ok ∧ List.Forall₂ (Field.SameBut Q) fs fs' := by
    simp only [map_eq_ok_iff]
    refine exists_beside_alike (fun x hx x' f hxx' hf => ?_) h
    rcases hxx' with rfl | hxx'
    · exact ⟨f, hf, .refl f⟩
    · exact Field.exists_read_alike hxx' (hread x hx) hf
  have hany : fields'.any isKey = fields.any isKey := by
    clear hread hfs hgiven
    induction h with
    | nil => rfl
    | cons hw _ ih => rw [List.any_cons, List.any_cons, isKey_alike hw, ih]
  unfold keyedFields at hfs ⊢
  rw [hany]
  split at hfs
  · rename_i hkey
    rw [if_pos hkey]
    exact hgiven hfs
  · rename_i hkey
    rw [if_neg hkey]
    obtain ⟨f, rest, rfl, hf, hrest⟩ := List.map_eq_cons_iff.mp hfs.symm
    obtain ⟨rest', hrest', hall⟩ := hgiven hrest.symm
    exact ⟨f :: rest', by rw [List.map_cons, List.map_cons, hf, hrest'], .cons (.refl f) hall⟩

/-- **An entity is made of either value**, if the other one has a table name for it. -/
theorem exists_madeOf_alike (h : v' = v ∨ Alike names K v v')
    (hnames : ∀ n ∈ names, ∀ key ∈ ["name", "fields", "description"], n.1 ≠ key ∧ n.2 ≠ key)
    (hread : ReadAlike K Q v) {table : String}
    (htable : tableOf? (v'.get? "tableName") e.name = some table) (he : MadeOf v e) :
    ∃ e', MadeOf v' e' ∧ SameBut Q e e' := by
  obtain ⟨hname, hnamed, ⟨fields, hfields, hfs⟩, -, hdescription⟩ := he
  have hother : ∀ key ∈ ["name", "description"], v'.get? key = v.get? key := fun key hkey => by
    rcases h with rfl | h
    · rfl
    · refine get?_eq_of_alike (fun n hn => hnames n hn key ?_) (fun _ _ hpart => ?_) h
      · exact (by decide : ["name", "description"] ⊆ ["name", "fields", "description"]) hkey
      · exact absurd (hpart.1 ▸ hkey) (by decide)
  obtain ⟨fields', hfields', halike⟩ : ∃ fields', v'.get? "fields" = some (.list fields') ∧
      List.Forall₂ (fun w w' => w' = w ∨ Field.Alike K w w') fields fields' := by
    rcases h with rfl | h
    · exact ⟨fields, hfields, List.forall₂_same.mpr fun _ _ => .inl rfl⟩
    · exact exists_items_alike (fun n hn => hnames n hn "fields" (by decide))
        (fun _ _ hpart => hpart.2) h hfields
  obtain ⟨fs', hfs', hsame⟩ := exists_fields_alike (fun x hx => hread x
    (itemsUnder_of_get? hfields ▸ hx)) halike hfs
  refine ⟨{ e with tableName := table, fields := fs' },
    ⟨?_, hnamed, ⟨fields', hfields', hfs'⟩, htable, ?_⟩, rfl, hsame⟩
  · rw [hother "name" (by decide)]
    exact hname
  · rw [hother "description" (by decide)]
    exact hdescription

end Entity

/-! ## 4. Models -/

/-- The values of two models: entities may be alike, and relationships. -/
def Model.Alike (names : List (String × String))
    (K : List (Scalar × Value) → List (Scalar × Value) → Prop) (R : Value → Value → Prop) :
    Value → Value → Prop :=
  MapAlike [] fun key w w' =>
    key = "entities" ∧ ListAlike (Entity.Alike names K) w w' ∨
      key = "relationships" ∧ ListAlike R w w'

namespace Model

variable {names : List (String × String)} {K : List (Scalar × Value) → List (Scalar × Value) → Prop}
  {R : Value → Value → Prop} {Q : Constraints → Constraints → Prop} {raw raw' : Value} {m : Model}

/-- The entities of values that are alike are alike. -/
theorem exists_entities_alike (h : Alike names K R raw raw') {given : List Value}
    (hgiven : raw.get? "entities" = some (.list given)) :
    ∃ given', raw'.get? "entities" = some (.list given') ∧
      List.Forall₂ (fun v v' => v' = v ∨ Entity.Alike names K v v') given given' := by
  refine exists_items_alike (List.forall_mem_nil _) (fun _ _ hpart => ?_) h hgiven
  rcases hpart with ⟨-, hlists⟩ | ⟨hkey, -⟩
  · exact hlists
  · exact absurd hkey (by decide)

/-- The relationships of values that are alike are alike. -/
theorem exists_relationships_alike (h : Alike names K R raw raw') {given : List Value}
    (hgiven : relationshipsOf? (raw.get? "relationships") = some given) :
    ∃ given', relationshipsOf? (raw'.get? "relationships") = some given' ∧
      List.Forall₂ (fun v v' => v' = v ∨ R v v') given given' := by
  have hpart : ∀ w w', ("relationships" = "entities" ∧ ListAlike (Entity.Alike names K) w w' ∨
      "relationships" = "relationships" ∧ ListAlike R w w') → ListAlike R w w' := fun w w' h => by
    rcases h with ⟨hkey, -⟩ | ⟨-, hlists⟩
    · exact absurd hkey (by decide)
    · exact hlists
  rcases relationshipsOf?_eq_some.mp hgiven with hsome | ⟨hnull, rfl⟩
  · obtain ⟨given', hgiven', hall⟩ := exists_items_alike (List.forall_mem_nil _) hpart h hsome
    exact ⟨given', relationshipsOf?_eq_some.mpr (.inl hgiven'), hall⟩
  · refine ⟨[], relationshipsOf?_eq_some.mpr (.inr ⟨fun w' hw' => ?_, rfl⟩), .nil⟩
    have hrel : Option.Rel _ (raw.get? "relationships") (raw'.get? "relationships") :=
      get?_alike (List.forall_mem_nil _) h
    rw [hw'] at hrel
    generalize raw.get? "relationships" = given at hrel hnull
    cases hrel with
    | @some w _ hw =>
      obtain rfl := hnull w rfl
      rcases hw with hsame | hw
      · exact hsame
      · obtain ⟨_, _, hlist, -⟩ := hpart _ _ hw
        cases hlist

/-- **A model is made of either value**: of one that is alike, with the relationships read alike
and a table name for every entity, a model is made that is the same but for table names and
constraints. -/
theorem exists_madeOf_alike (h : Alike names K R raw raw')
    (hnames : ∀ n ∈ names, ∀ key ∈ ["name", "fields", "description"], n.1 ≠ key ∧ n.2 ≠ key)
    (hread : ∀ v ∈ raw.itemsUnder "entities", Entity.ReadAlike K Q v)
    (hrelated : ∀ v ∈ raw.itemsUnder "relationships", ∀ v' r, R v v' →
      Relationship.read v = .ok r → Relationship.read v' = .ok r)
    (htable : ∀ v ∈ raw.itemsUnder "entities", ∀ v' e, Entity.Alike names K v v' →
      Entity.MadeOf v e → ∃ table, Entity.tableOf? (v'.get? "tableName") e.name = some table)
    (hm : MadeOf raw m) :
    ∃ m', MadeOf raw' m' ∧ m'.relationships = m.relationships ∧
      List.Forall₂ (Entity.SameBut Q) m.entities m'.entities := by
  obtain ⟨⟨given, hgiven, hentities⟩, ⟨items, hitems, hrelationships⟩, -⟩ := hm
  obtain ⟨given', hgiven', halike⟩ := exists_entities_alike h hgiven
  obtain ⟨items', hitems', hrelated'⟩ := exists_relationships_alike h hitems
  obtain ⟨entities', hentities', hsame⟩ : ∃ entities', List.Forall₂ Entity.MadeOf given' entities' ∧
      List.Forall₂ (Entity.SameBut Q) m.entities entities' := by
    refine exists_beside_alike (fun v hv v' e hvv' he => ?_) halike hentities
    have hmem : v ∈ raw.itemsUnder "entities" := itemsUnder_of_get? hgiven ▸ hv
    obtain ⟨table, htable⟩ :
        ∃ table, Entity.tableOf? (v'.get? "tableName") e.name = some table := by
      rcases hvv' with rfl | hvv'
      · exact ⟨_, he.table⟩
      · exact htable v hmem v' e hvv' he
    exact Entity.exists_madeOf_alike hvv' hnames (hread v hmem) htable he
  refine ⟨.of entities' m.relationships, ⟨⟨given', hgiven', hentities'⟩,
    ⟨items', hitems', ?_⟩, rfl⟩, rfl, hsame⟩
  obtain ⟨rs', hrs', heq⟩ :
      ∃ rs', List.Forall₂ (fun v r => Relationship.read v = .ok r) items' rs' ∧
        List.Forall₂ (· = ·) m.relationships rs' := by
    refine exists_beside_alike (fun v hv v' r hvv' hr => ⟨r, ?_, rfl⟩) hrelated'
      (map_eq_ok_iff.mp hrelationships)
    rcases hvv' with rfl | hvv'
    · exact hr
    · refine hrelated v ?_ v' r hvv' hr
      rcases relationshipsOf?_eq_some.mp hitems with hsome | ⟨-, rfl⟩
      · exact itemsUnder_of_get? hsome ▸ hv
      · cases hv
  rw [List.forall₂_eq_eq_eq] at heq
  exact heq ▸ map_eq_ok_iff.mpr hrs'

/-- Values of models that differ in constraint maps alone are alike either way. -/
theorem Alike.symm {K' : List (Scalar × Value) → List (Scalar × Value) → Prop}
    {R' : Value → Value → Prop} (hK : ∀ given given', K given given' → K' given' given)
    (hR : ∀ w w', R w w' → R' w' w) (h : Alike [] K R raw raw') : Alike [] K' R' raw' raw := by
  have hfield : ∀ w w', Field.Alike K w w' → Field.Alike K' w' w := fun w w' => by
    refine mapAlike_symm fun key u u' => ?_
    rintro ⟨hkey, given, given', rfl, rfl, hgiven⟩
    exact ⟨hkey, given', given, rfl, rfl, hK given given' hgiven⟩
  have hentity : ∀ w w', Entity.Alike [] K w w' → Entity.Alike [] K' w' w := fun w w' =>
    mapAlike_symm fun key u u' hpart => ⟨hpart.1, listAlike_symm hfield hpart.2⟩
  exact mapAlike_symm (fun key u u' hpart => hpart.imp
    (fun ⟨hkey, hlists⟩ => ⟨hkey, listAlike_symm hentity hlists⟩)
    fun ⟨hkey, hlists⟩ => ⟨hkey, listAlike_symm hR hlists⟩) h

/-- A value of a model that is like one of JSON is one of JSON. -/
theorem Alike.isJson
    (hK : ∀ given given', K given given' → (Value.map given).isJson = true →
      (Value.map given').isJson = true)
    (hR : ∀ w w', R w w' → w.isJson = true → w'.isJson = true) (h : Alike names K R raw raw')
    (hjson : raw.isJson = true) : raw'.isJson = true := by
  have hfield : ∀ w w', Field.Alike K w w' → w.isJson = true → w'.isJson = true := fun w w' => by
    refine isJson_of_mapAlike fun key u u' => ?_
    rintro ⟨-, given, given', rfl, rfl, hgiven⟩
    exact hK given given' hgiven
  have hentity : ∀ w w', Entity.Alike names K w w' → w.isJson = true → w'.isJson = true :=
    fun w w' => isJson_of_mapAlike fun key u u' hpart => isJson_of_listAlike hfield hpart.2
  refine isJson_of_mapAlike (fun key u u' hpart => ?_) h hjson
  rcases hpart with ⟨-, hlists⟩ | ⟨-, hlists⟩
  · exact isJson_of_listAlike hentity hlists
  · exact isJson_of_listAlike hR hlists

end Model

end Schemata
