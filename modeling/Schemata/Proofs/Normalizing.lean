import Mathlib.Data.List.Forall2
import Schemata.Proofs.Echo
import Schemata.Proofs.Writing
/-!
# What normalizing keeps and what it adds

A value of JSON is normalized to a model exactly if the model is made of it: every entity and every
relationship of the one stands in the place of its value in the other, an entity has its fields and
perhaps a key in front of them, and a table name and a description that are given or made up.

* `Entity.MadeOf`, `Model.MadeOf`: what a model has in common with the value it is made of.
* `Model.normalize_iff_madeOf`: a value is normalized to the model that is made of it, and to no
  other.
* `Entity.Completed`, `Model.Completed`: what is kept of a value, and what is added to it.
* `Model.completed_or_refused`: every value is completed or refused, and how it is refused.
-/

namespace Schemata

open Coercion

/-! ## 1. Texts of JSON -/

namespace Coercion

theorem nonEmptyText_eq_ok {v : Value} {s : String} :
    nonEmptyText v = .ok s ↔ text v = .ok s ∧ s ≠ "" := by
  unfold nonEmptyText
  rw [Checked.bind_eq_ok]
  constructor
  · rintro ⟨t, ht, hs⟩
    split at hs
    · cases hs
    · rename_i hne
      cases hs
      exact ⟨ht, hne⟩
  · rintro ⟨ht, hne⟩
    exact ⟨s, ht, if_neg hne⟩

theorem text_of_isJson {v : Value} {s : String} (hjson : v.isJson = true)
    (h : text v = .ok s) : v = .str s := by
  unfold text at h
  split at h
  · cases h
    rfl
  · cases hjson
  · cases h

theorem text_eq_ok {v : Value} {s : String} (hjson : v.isJson = true) :
    text v = .ok s ↔ v = .str s := by
  constructor
  · exact text_of_isJson hjson
  · rintro rfl
    rfl

end Coercion

/-- What stands in the second of two lists that are alike has something beside it in the first. -/
theorem exists_beside {α β : Type} {R : α → β → Prop} {l : List α} {l' : List β} {b : β}
    (h : List.Forall₂ R l l') (hb : b ∈ l') : ∃ a ∈ l, R a b := by
  induction h with
  | nil => cases hb
  | @cons a b' l l' hR _ ih =>
    rcases List.mem_cons.mp hb with rfl | hmem
    · exact ⟨a, List.mem_cons_self, hR⟩
    · obtain ⟨a', ha', hR'⟩ := ih hmem
      exact ⟨a', List.mem_cons_of_mem _ ha', hR'⟩

theorem Hereditary.get? {P : Value → Prop} (hP : Hereditary P) {key : String} {v w : Value}
    (h : P v) (hw : v.get? key = some w) : P w := by
  cases v with
  | map entries => exact hP.member h hw
  | atom | list | set | pair | outer => cases hw

theorem Text.plural_ne {name : String} (h : name ≠ "") : Text.plural name ≠ "" := by
  have hirregular : ∀ p ∈ irregularPlurals, p.2 ≠ "" ∧ capitalizeFirst p.2 ≠ "" := by decide
  have hregular : ∀ (c : Char) (rest reversed : List Char),
      regularPlural (c :: rest) reversed ≠ [] := fun c rest reversed => by
    unfold regularPlural
    split
    case h_7 => split <;> simp
    all_goals simp
  unfold plural
  split
  · rename_i hnil
    exact absurd (String.toList_eq_nil_iff.mp hnil) h
  · rename_i c rest _
    split
    · rename_i noun hnoun
      obtain ⟨hne, hcapital⟩ := hirregular _ (Entries.mem_of_lookup hnoun)
      split
      · exact hcapital
      · exact hne
    · intro hempty
      exact hregular _ _ _ (String.ofList_eq_empty_iff.mp hempty)

/-! ## 2. Entities -/

namespace Entity

/-- The table name of an entity: the given one, unless it counts as not given, and else the plural
of the entity's name.  What counts as given and is no text is no table name. -/
def tableOf? (given : Option Value) (name : String) : Option String :=
  match given.filter Value.isTruthy with
  | none => some (Text.plural name)
  | some (.str table) => some table
  | some _ => none

/-- The description of an entity, which is empty where none is given. -/
def descriptionOf? (given : Option Value) : Option String :=
  match given.getD .null with
  | .null => some ""
  | .str d => some d
  | _ => none

/-- **An entity that is made of a value**: it has the name that is given, the fields that are given
and perhaps the key in front of them, and the table name and the description that are given or made
up. -/
structure MadeOf (v : Value) (e : Entity) : Prop where
  name : v.get? "name" = some (.str e.name)
  named : e.name ≠ ""
  fields : ∃ fields, v.get? "fields" = some (.list fields) ∧
    (keyedFields fields).map Field.read = e.fields.map .ok
  table : tableOf? (v.get? "tableName") e.name = some e.tableName
  description : ∃ d, descriptionOf? (v.get? "description") = some d ∧ e.description = some d

/-- The entries of an entity with everything that is made up. -/
def ready (entries : List (Scalar × Value)) (fields : List Value) : List (Scalar × Value) :=
  withDescription (withTableName (Entries.put (.str "fields") (.list (keyedFields fields)) entries))

variable {entries : List (Scalar × Value)} {fields : List Value} {e : Entity}

theorem member?_ready_name :
    Value.member? "name" (ready entries fields) = Value.member? "name" entries := by
  rw [ready, member?_withDescription (by decide), member?_withTableName (by decide),
    member?_put_of_ne (by decide)]

theorem member?_ready_fields :
    Value.member? "fields" (ready entries fields) = some (.list (keyedFields fields)) := by
  rw [ready, member?_withDescription (by decide), member?_withTableName (by decide),
    member?_put_self]

/-- An entity has a description: the given one, or the empty text. -/
theorem member?_withDescription_self (entries : List (Scalar × Value)) :
    Value.member? "description" (withDescription entries)
      = some (match (Value.member? "description" entries).getD .null with
          | .null => .str ""
          | v => v) := by
  unfold withDescription
  split
  · rename_i h
    rw [h]
    exact member?_put_self _ _ _
  · rename_i h
    rw [h]
    exact member?_put_self _ _ _
  · rename_i v hne h
    rw [h, Option.getD_some]
    split
    · exact absurd rfl hne
    · rfl

theorem member?_ready_description :
    Value.member? "description" (ready entries fields)
      = some (match (Value.member? "description" entries).getD .null with
          | .null => .str ""
          | v => v) := by
  rw [ready, member?_withDescription_self, member?_withTableName (by decide),
    member?_put_of_ne (by decide)]

theorem isGiven_eq_isSome (v : Option Value) : isGiven v = (v.filter Value.isTruthy).isSome := by
  cases v with
  | none => rfl
  | some v => cases h : v.isTruthy <;> simp [isGiven, h]

/-- An entity with a name has the table name that is given, or the plural of the name. -/
theorem member?_withTableName_self {name : String} (hne : name ≠ "")
    (hname : Value.member? "name" entries = some (.str name)) :
    Value.member? "tableName" (withTableName entries)
      = some (((Value.member? "tableName" entries).filter Value.isTruthy).getD
          (.str (Text.plural name))) := by
  rw [withTableName, isGiven_eq_isSome, hname]
  cases htable : (Value.member? "tableName" entries).filter Value.isTruthy with
  | none =>
    simp only [Option.isSome_none, Bool.false_eq_true, ↓reduceIte, if_neg hne]
    exact member?_put_self _ _ _
  | some table => exact (Option.filter_eq_some_iff.mp htable).1

theorem member?_ready_tableName {name : String} (hne : name ≠ "")
    (hname : Value.member? "name" entries = some (.str name)) :
    Value.member? "tableName" (ready entries fields)
      = some (((Value.member? "tableName" entries).filter Value.isTruthy).getD
          (.str (Text.plural name))) := by
  rw [ready, member?_withDescription (by decide), member?_withTableName_self hne,
    member?_put_of_ne (by decide)]
  rwa [member?_put_of_ne (by decide)]

/-- A table name that is read is the one that is given or made up. -/
theorem read_tableName {name table : String} (hjson : (Value.map entries).isJson = true)
    (hne : name ≠ "") (hname : Value.member? "name" entries = some (.str name)) :
    optionalField (ready entries fields) ["tableName", "table_name"] "" text = .ok table ↔
      tableOf? (Value.member? "tableName" entries) name = some table := by
  rw [optionalField, field?_of_member? (member?_ready_tableName hne hname), Checked.under_eq_ok,
    tableOf?]
  cases htable : (Value.member? "tableName" entries).filter Value.isTruthy with
  | none => simp [text]
  | some v =>
    have hv := Value.hereditary_isJson.member hjson (Option.filter_eq_some_iff.mp htable).1
    rw [Option.getD_some, text_eq_ok hv]
    split
    · rename_i h
      cases h
    · rename_i h
      cases h
      simp
    · rename_i hother h
      cases h
      simp only [reduceCtorEq, iff_false]
      rintro rfl
      exact hother _ rfl

/-- A description that is read is the one that is given or made up. -/
theorem read_description {d : Option String} (hjson : (Value.map entries).isJson = true) :
    optionalField (ready entries fields) ["description"] none (optional text) = .ok d ↔
      ∃ s, descriptionOf? (Value.member? "description" entries) = some s ∧ d = some s := by
  have hgiven : ((Value.member? "description" entries).getD .null).isJson = true := by
    cases h : Value.member? "description" entries with
    | none => rfl
    | some v => exact Value.hereditary_isJson.member hjson h
  rw [optionalField, field?_of_member? member?_ready_description, Checked.under_eq_ok,
    descriptionOf?]
  generalize (Value.member? "description" entries).getD .null = v at hgiven
  cases v with
  | atom s =>
    cases s with
    | bytes => cases hgiven
    | null | bool | int | float | str | date | moment =>
      simp [Coercion.optional, text, Checked.map, Checked.fail, eq_comm]
  | list | map | set | pair | outer => simp [Coercion.optional, text, Checked.map, Checked.fail]

/-- The fields that are read are the given ones and perhaps the key that is made up. -/
theorem read_fields {fs : List Field} :
    Coercion.required (ready entries fields) ["fields"] (listOf Field.read) = .ok fs ↔
      (keyedFields fields).map Field.read = fs.map .ok := by
  rw [Coercion.required, field?_of_member? member?_ready_fields, Checked.under_eq_ok]
  exact Checked.each_eq_ok

theorem read_name {name : String} (hjson : (Value.map entries).isJson = true) :
    Coercion.required (ready entries fields) ["name"] nonEmptyText = .ok name ↔
      Value.member? "name" entries = some (.str name) ∧ name ≠ "" := by
  rw [required_eq_ok, field?_single, member?_ready_name]
  constructor
  · rintro ⟨u, hu, hread⟩
    obtain ⟨htext, hne⟩ := nonEmptyText_eq_ok.mp hread
    obtain rfl := text_of_isJson (Value.hereditary_isJson.member hjson hu) htext
    exact ⟨hu, hne⟩
  · rintro ⟨hu, hne⟩
    exact ⟨_, hu, nonEmptyText_eq_ok.mpr ⟨rfl, hne⟩⟩

/-- **What an entity is made of.**  A value of JSON can be made ready and read as an entity exactly
if the entity is made of it. -/
theorem exists_read_iff_madeOf {v : Value} (hjson : v.isJson = true) (index : Nat) :
    (∃ w, prepare index v = .ok w ∧ Entity.read w = .ok e) ↔ MadeOf v e := by
  constructor
  · rintro ⟨w, hw, hread⟩
    obtain ⟨entries, fields, rfl, hfields, rfl⟩ := prepare_eq_ok.mp hw
    obtain ⟨es, hes, hname, htable, hdescription, hlist⟩ := read_eq_ok.mp hread
    cases hes
    obtain ⟨hname, hne⟩ := (read_name hjson).mp hname
    exact ⟨hname, hne, ⟨fields, hfields, read_fields.mp hlist⟩,
      (read_tableName hjson hne hname).mp htable, (read_description hjson).mp hdescription⟩
  · rintro ⟨hname, hne, ⟨fields, hfields, hlist⟩, htable, hdescription⟩
    cases v with
    | map entries =>
      refine ⟨_, prepare_eq_ok.mpr ⟨entries, fields, rfl, hfields, rfl⟩,
        read_eq_ok.mpr ⟨_, rfl, (read_name hjson).mpr ⟨hname, hne⟩,
          (read_tableName hjson hne hname).mpr htable, (read_description hjson).mpr hdescription,
          read_fields.mpr hlist⟩⟩
    | atom | list | set | pair | outer => cases hname

theorem any_isKey_keyedFields (fields : List Value) : (keyedFields fields).any isKey = true := by
  unfold keyedFields
  split
  · assumption
  · rfl

theorem isKey_iff {v : Value} : isKey v = true ↔ v.get? "name" = some (.str keyName) := by
  unfold isKey
  cases v with
  | map entries =>
    rw [Value.get?]
    dsimp only
    split
    · rename_i s hs
      rw [hs]
      simp
    · rename_i hother
      simp only [Bool.false_eq_true, false_iff]
      exact hother _
  | atom | list | set | pair | outer => simp [Value.get?]

theorem name_of_isKey {v : Value} {f : Field} (hkey : isKey v = true) (hf : Field.read v = .ok f) :
    f.name = keyName := by
  obtain ⟨es, rfl, hname, -⟩ := Field.read_eq_ok.mp hf
  obtain ⟨u, hu, hread⟩ := required_eq_ok.mp hname
  rw [field?_single] at hu
  rw [isKey, hu] at hkey
  split at hkey
  · rename_i s hs
    cases hs
    cases (nonEmptyText_eq_ok.mp hread).1
    exact of_decide_eq_true hkey
  · cases hkey

/-- **Every entity has a key**, given or made up. -/
theorem exists_key_of_read {fs : List Field}
    (h : (keyedFields fields).map Field.read = fs.map .ok) : ∃ f ∈ fs, f.name = keyName := by
  obtain ⟨x, hx, hkey⟩ := List.any_eq_true.mp (any_isKey_keyedFields fields)
  have hok : Field.read x ∈ fs.map Checked.ok := h ▸ List.mem_map_of_mem hx
  obtain ⟨f, hf, hread⟩ := List.mem_map.mp hok
  exact ⟨f, hf, name_of_isKey hkey hread.symm⟩

/-- No entity is without a table name. -/
theorem MadeOf.tableName_ne {v : Value} (h : MadeOf v e) : e.tableName ≠ "" := by
  have htable := h.table
  unfold tableOf? at htable
  split at htable
  · exact Option.some.inj htable ▸ Text.plural_ne h.named
  · rename_i table htruthy
    obtain rfl := Option.some.inj htable
    simpa [Value.isTruthy] using (Option.filter_eq_some_iff.mp htruthy).2
  · cases htable

/-- Entities are made of values in their turn. -/
theorem prepareAll_iff_madeOf : ∀ {vs : List Value} {es : List Entity} (index : Nat),
    (∀ v ∈ vs, v.isJson = true) →
      ((∃ ws, prepareAll index vs = .ok ws ∧ ws.map Entity.read = es.map .ok) ↔
        List.Forall₂ MadeOf vs es)
  | [], es, _, _ => by
    rw [List.forall₂_nil_left_iff]
    constructor
    · rintro ⟨ws, hws, hread⟩
      cases hws
      exact List.map_eq_nil_iff.mp hread.symm
    · rintro rfl
      exact ⟨[], rfl, rfl⟩
  | v :: rest, es, index, hjson => by
    obtain ⟨hv, hrest⟩ := List.forall_mem_cons.mp hjson
    rw [List.forall₂_cons_left_iff]
    constructor
    · rintro ⟨ws, hws, hread⟩
      obtain ⟨w, hw, hlater⟩ := bind_eq_ok.mp hws
      obtain ⟨later, hprepared, hpure⟩ := bind_eq_ok.mp hlater
      cases hpure
      obtain ⟨e, es', rfl, he, hes'⟩ := List.map_eq_cons_iff.mp hread.symm
      exact ⟨e, es', (exists_read_iff_madeOf hv index).mp ⟨w, hw, he.symm⟩,
        (prepareAll_iff_madeOf (index + 1) hrest).mp ⟨later, hprepared, hes'.symm⟩, rfl⟩
    · rintro ⟨e, es', he, hes', rfl⟩
      obtain ⟨w, hw, hwe⟩ := (exists_read_iff_madeOf hv index).mpr he
      obtain ⟨later, hprepared, hread⟩ :=
        (prepareAll_iff_madeOf (index + 1) hrest).mpr hes'
      refine ⟨w :: later, ?_, by rw [List.map_cons, List.map_cons, hwe, hread]⟩
      rw [prepareAll, hw, hprepared]
      rfl

end Entity

/-! ## 3. Models -/

namespace Model

/-- The relationships of a model; null stands for none. -/
def relationshipsOf? (given : Option Value) : Option (List Value) :=
  match given.getD .null with
  | .null => some []
  | .list items => some items
  | _ => none

theorem relationshipsOf?_eq_some {given : Option Value} {items : List Value} :
    relationshipsOf? given = some items ↔
      given = some (.list items) ∨ (∀ v, given = some v → v = .null) ∧ items = [] := by
  cases given with
  | none => simp [relationshipsOf?, eq_comm]
  | some v =>
    cases v with
    | atom s => cases s <;> simp [relationshipsOf?, eq_comm]
    | list | map | set | pair | outer => simp [relationshipsOf?]

/-- **A model that is made of a value**: entity by entity and relationship by relationship. -/
structure MadeOf (raw : Value) (m : Model) : Prop where
  entities : ∃ given, raw.get? "entities" = some (.list given) ∧
    List.Forall₂ Entity.MadeOf given m.entities
  relationships : ∃ given, relationshipsOf? (raw.get? "relationships") = some given ∧
    given.map Relationship.read = m.relationships.map .ok
  indexed : m.IsIndexed

variable {raw : Value} {m : Model} {entries : List (Scalar × Value)}

/-- What is made of the entries of a model, where its entities can be made ready. -/
theorem prepare_map {given ws : List Value} {relationships : Value}
    (hgiven : Value.member? "entities" entries = some (.list given))
    (hws : Entity.prepareAll 0 given = .ok ws)
    (hrelationships : Value.member? "relationships" entries = some relationships ∧
        relationships ≠ .null ∨
      (∀ v, Value.member? "relationships" entries = some v → v = .null) ∧
        relationships = .list []) :
    prepare (.map entries)
      = .ok (.obj [("entities", .list ws), ("relationships", relationships)]) := by
  rw [prepare, hgiven]
  dsimp only
  rw [hws]
  split
  · rename_i hnone
    obtain ⟨hsome, -⟩ | ⟨-, rfl⟩ := hrelationships
    · rw [hnone] at hsome
      cases hsome
    · rfl
  · rename_i hnull
    obtain ⟨hsome, hne⟩ | ⟨-, rfl⟩ := hrelationships
    · rw [hnull] at hsome
      exact absurd (Option.some.inj hsome).symm hne
    · rfl
  · rename_i v hne hv
    obtain ⟨hsome, -⟩ | ⟨hnull, -⟩ := hrelationships
    · rw [hv] at hsome
      cases hsome
      rfl
    · exact absurd (hnull v hv) hne

theorem readRelationships_list {items : List Value} {rs : List Relationship} :
    readRelationships (.list items) = .ok rs ↔ items.map Relationship.read = rs.map .ok :=
  Checked.each_eq_ok

/-- A value of JSON that is read as relationships, and is not null, is a list. -/
theorem list_of_readRelationships {v : Value} {rs : List Relationship} (hjson : v.isJson = true)
    (hne : v ≠ .null) (h : readRelationships v = .ok rs) : ∃ items, v = .list items := by
  cases v with
  | list items => exact ⟨items, rfl⟩
  | atom s =>
    cases s with
    | null => exact absurd rfl hne
    | bool | int | float | str | date | moment | bytes => cases h
  | map | outer => cases h
  | set | pair => cases hjson

/-- **What is normalized to a model.**  A value of JSON is normalized to the model that is made of
it, and to no other. -/
theorem normalize_iff_madeOf (hjson : raw.isJson = true) :
    normalize raw = .ok m ↔ MadeOf raw m := by
  rw [normalize_eq_ok]
  constructor
  · rintro ⟨v, hprepare, hread⟩
    obtain ⟨entries, given, ws, relationships, rfl, hgiven, hws, rfl, hrelationships⟩ :=
      prepare_eq_ok hprepare
    obtain ⟨es, hes, hindexed, hentities, hread⟩ := read_eq_ok.mp hread
    cases hes
    have hgivenJson := Value.hereditary_isJson.member hjson hgiven
    rcases optionalField_eq_ok.mp hentities with ⟨hnone, -⟩ | ⟨u, hu, hlist⟩
    · cases hnone
    rcases optionalField_eq_ok.mp hread with ⟨hnone, -⟩ | ⟨u', hu', hread⟩
    · cases hnone
    obtain rfl : Value.list ws = u := Option.some.inj hu
    obtain rfl : relationships = u' := Option.some.inj hu'
    refine ⟨⟨given, hgiven, ?_⟩, ?_, hindexed⟩
    · refine (Entity.prepareAll_iff_madeOf 0 fun x hx =>
        Value.hereditary_isJson.item hgivenJson hx).mp ⟨ws, hws, ?_⟩
      exact Checked.each_eq_ok.mp hlist
    · rcases hrelationships with ⟨hsome, hne⟩ | ⟨hnull, rfl⟩
      · obtain ⟨items, rfl⟩ :=
          list_of_readRelationships (Value.hereditary_isJson.member hjson hsome) hne hread
        exact ⟨items, relationshipsOf?_eq_some.mpr (.inl hsome), readRelationships_list.mp hread⟩
      · exact ⟨[], relationshipsOf?_eq_some.mpr (.inr ⟨hnull, rfl⟩),
          readRelationships_list.mp hread⟩
  · rintro ⟨⟨given, hgiven, hentities⟩, ⟨items, hitems, hrelationships⟩, hindexed⟩
    cases raw with
    | map entries =>
      have hgivenJson := Value.hereditary_isJson.member hjson hgiven
      obtain ⟨ws, hws, hread⟩ := (Entity.prepareAll_iff_madeOf 0 fun x hx =>
        Value.hereditary_isJson.item hgivenJson hx).mpr hentities
      have hrelated : Value.member? "relationships" entries = some (.list items) ∧
            Value.list items ≠ .null ∨
          (∀ v, Value.member? "relationships" entries = some v → v = .null) ∧
            Value.list items = .list [] := by
        rcases relationshipsOf?_eq_some.mp hitems with hsome | ⟨hnull, rfl⟩
        · exact .inl ⟨hsome, nofun⟩
        · exact .inr ⟨hnull, rfl⟩
      refine ⟨_, prepare_map hgiven hws hrelated, read_eq_ok.mpr
        ⟨_, Value.obj_eq _, hindexed, optionalField_eq_ok.mpr (.inr ⟨.list ws, rfl, ?_⟩),
          optionalField_eq_ok.mpr (.inr ⟨.list items, rfl, ?_⟩)⟩⟩
      · exact Checked.each_eq_ok.mpr hread
      · exact readRelationships_list.mpr hrelationships
    | atom | list | set | pair | outer => cases hgiven

end Model

/-! ## 4. What is kept -/

/-- A field that is kept in its place, with its name and its type as they were given. -/
structure Field.Kept (v : Value) (f : Field) : Prop where
  read : Field.read v = .ok f
  name : v.get? "name" = some (.str f.name)
  type : v.get? "type" = some (.str f.type)

theorem Field.kept_of_read {v : Value} {f : Field} (hjson : v.isJson = true)
    (h : Field.read v = .ok f) : Field.Kept v f := by
  obtain ⟨entries, rfl, hname, htype, -⟩ := read_eq_ok.mp h
  obtain ⟨u, hu, hread⟩ := required_eq_ok.mp hname
  obtain ⟨w, hw, hwread⟩ := required_eq_ok.mp htype
  rw [field?_single] at hu hw
  obtain rfl := text_of_isJson (Value.hereditary_isJson.member hjson hu)
    (nonEmptyText_eq_ok.mp hread).1
  obtain rfl := text_of_isJson (Value.hereditary_isJson.member hjson hw) hwread
  exact ⟨h, hu, hw⟩

/-- A relationship that is kept in its place, with the names of its ends and all of its entries. -/
structure Relationship.Kept (v : Value) (r : Relationship) : Prop where
  read : Relationship.read v = .ok r
  entries : ∃ entries, v = .map entries ∧
    field? entries ["from", "source"] = some (.str r.source) ∧
    field? entries ["to", "target"] = some (.str r.target) ∧
    r.toWire = .obj (Entries.rename wireNameOf (textEntries entries))

theorem Relationship.kept_of_read {v : Value} {r : Relationship} (hjson : v.isJson = true)
    (h : Relationship.read v = .ok r) : Relationship.Kept v r := by
  obtain ⟨entries, rfl, hsource, htarget, -, -, hwire, -⟩ := read_eq_ok.mp h
  obtain ⟨u, hu, hread⟩ := required_eq_ok.mp hsource
  obtain ⟨w, hw, hwread⟩ := required_eq_ok.mp htarget
  obtain rfl := text_of_isJson (Value.hereditary_isJson.field hjson hu) hread
  obtain rfl := text_of_isJson (Value.hereditary_isJson.field hjson hw) hwread
  exact ⟨h, entries, rfl, hu, hw, by rw [toWire, hwire, wireOf_eq]⟩

/-- What a list is read as stands beside it, item by item. -/
theorem map_eq_ok_iff {α : Type} {read : Value → Checked α} {items : List Value} {as : List α} :
    items.map read = as.map .ok ↔ List.Forall₂ (fun v a => read v = .ok a) items as := by
  rw [← List.forall₂_eq_eq_eq, List.forall₂_map_left_iff, List.forall₂_map_right_iff]

theorem forall₂_of_map_eq_ok {α : Type} {read : Value → Checked α} {R : Value → α → Prop}
    {items : List Value} {as : List α} (h : items.map read = as.map .ok)
    (hR : ∀ v ∈ items, ∀ a, read v = .ok a → R v a) : List.Forall₂ R items as :=
  ((List.forall₂_and_left _ _).mpr ⟨hR, map_eq_ok_iff.mp h⟩).imp fun _ a ⟨h, ha⟩ => h a ha

namespace Entity

/-- The key that is made up, as a field. -/
def madeKey : Field where
  name := keyName
  type := "number"
  required := true
  description := some "Unique identifier"
  constraints := some { Constraints.empty with
    primary := some true
    autoIncrement := some true
    wire := [("primary", .bool true), ("autoIncrement", .bool true)] }

theorem read_synthesizedKey : Field.read synthesizedKey = .ok madeKey := rfl

/-- **An entity that is completed**: it has the name that is given.  The fields that are given are
kept, with the key in front of them if none of them is one.  The table name and the description are
the ones that are given or made up. -/
structure Completed (v : Value) (e : Entity) : Prop where
  name : v.get? "name" = some (.str e.name)
  fields : ∃ given, v.get? "fields" = some (.list given) ∧
    ((∃ x ∈ given, x.get? "name" = some (.str keyName)) ∧
        List.Forall₂ Field.Kept given e.fields ∨
      (∀ x ∈ given, x.get? "name" ≠ some (.str keyName)) ∧
        ∃ kept, e.fields = madeKey :: kept ∧ List.Forall₂ Field.Kept given kept)
  key : ∃ f ∈ e.fields, f.name = keyName
  table : tableOf? (v.get? "tableName") e.name = some e.tableName
  tableNamed : e.tableName ≠ ""
  description : ∃ d, descriptionOf? (v.get? "description") = some d ∧ e.description = some d

/-- The fields of an entity: those that are given, with the key in front of them if none is one. -/
theorem fields_of_read {fields : List Value} {fs : List Field}
    (hjson : ∀ x ∈ fields, x.isJson = true)
    (h : (keyedFields fields).map Field.read = fs.map .ok) :
    (∃ x ∈ fields, x.get? "name" = some (.str keyName)) ∧ List.Forall₂ Field.Kept fields fs ∨
      (∀ x ∈ fields, x.get? "name" ≠ some (.str keyName)) ∧
        ∃ kept, fs = madeKey :: kept ∧ List.Forall₂ Field.Kept fields kept := by
  have hkept : ∀ x ∈ fields, ∀ f, Field.read x = .ok f → Field.Kept x f :=
    fun x hx f => Field.kept_of_read (hjson x hx)
  unfold keyedFields at h
  split at h
  · rename_i hany
    obtain ⟨x, hx, hkey⟩ := List.any_eq_true.mp hany
    exact .inl ⟨⟨x, hx, isKey_iff.mp hkey⟩, forall₂_of_map_eq_ok h hkept⟩
  · rename_i hnone
    obtain ⟨f, kept, rfl, hf, hrest⟩ := List.map_eq_cons_iff.mp h.symm
    rw [read_synthesizedKey] at hf
    cases hf
    exact .inr ⟨fun x hx hkey => hnone (List.any_eq_true.mpr ⟨x, hx, isKey_iff.mpr hkey⟩),
      kept, rfl, forall₂_of_map_eq_ok hrest.symm hkept⟩

theorem MadeOf.completed {v : Value} {e : Entity} (hjson : v.isJson = true) (h : MadeOf v e) :
    Completed v e := by
  obtain ⟨fields, hfields, hread⟩ := h.fields
  have hlist := Value.hereditary_isJson.get? hjson hfields
  exact ⟨h.name, ⟨fields, hfields,
      fields_of_read (fun x hx => Value.hereditary_isJson.item hlist hx) hread⟩,
    exists_key_of_read hread, h.table, h.tableName_ne, h.description⟩

end Entity

/-- **A model that is completed**: the entities and the relationships that are given are kept, each
in its place. -/
structure Model.Completed (raw : Value) (m : Model) : Prop where
  entities : ∃ given, raw.get? "entities" = some (.list given) ∧
    List.Forall₂ Entity.Completed given m.entities
  relationships : ∃ given, relationshipsOf? (raw.get? "relationships") = some given ∧
    List.Forall₂ Relationship.Kept given m.relationships

theorem Model.MadeOf.completed {raw : Value} {m : Model} (hjson : raw.isJson = true)
    (h : MadeOf raw m) : Completed raw m := by
  obtain ⟨⟨given, hgiven, hentities⟩, ⟨items, hitems, hread⟩, -⟩ := h
  refine ⟨⟨given, hgiven, ?_⟩, items, hitems, forall₂_of_map_eq_ok hread fun v hv r =>
    Relationship.kept_of_read ?_⟩
  · have hlist := Value.hereditary_isJson.get? hjson hgiven
    have hall := (List.forall₂_and_left _ _).mpr
      ⟨fun v hv => Value.hereditary_isJson.item hlist hv, hentities⟩
    exact hall.imp fun v e ⟨hv, he⟩ => he.completed hv
  · rcases relationshipsOf?_eq_some.mp hitems with hsome | ⟨-, rfl⟩
    · exact Value.hereditary_isJson.item (Value.hereditary_isJson.get? hjson hsome) hv
    · cases hv

/-! ## 5. What is refused -/

namespace Entity

/-- A value that has a list of fields, and so can be made ready as an entity. -/
def HasFields (v : Value) : Prop := ∃ fields, v.get? "fields" = some (.list fields)

/-- A value that cannot be made ready, and whose name cannot be written either: a number in it has
more digits than are converted. -/
structure Unwritable (v : Value) : Prop where
  isMap : ∃ entries, v = .map entries
  noFields : ¬HasFields v
  name : ((v.get? "name").getD .null).isWritable = false

/-- What is made ready has fields. -/
theorem exists_prepare_iff {v : Value} {index : Nat} :
    (∃ w, prepare index v = .ok w) ↔ HasFields v := by
  constructor
  · rintro ⟨w, hw⟩
    obtain ⟨entries, fields, rfl, hfields, -⟩ := prepare_eq_ok.mp hw
    exact ⟨fields, hfields⟩
  · rintro ⟨fields, hfields⟩
    cases v with
    | map entries => exact ⟨_, prepare_eq_ok.mpr ⟨entries, fields, rfl, hfields, rfl⟩⟩
    | atom | list | set | pair | outer => cases hfields

/-- A value without fields is refused with a failure, unless its name cannot be written. -/
theorem isFailure_of_prepare {v : Value} {index : Nat} {f : Model.Fault}
    (h : prepare index v = .error f) : ¬HasFields v ∧ (f.isFailure = false ↔ Unwritable v) := by
  have hno : ¬HasFields v := fun hfields => by
    obtain ⟨w, hw⟩ := exists_prepare_iff.mpr hfields
    rw [h] at hw
    cases hw
  refine ⟨hno, ?_⟩
  cases v with
  | map entries =>
    have hf : f = .noFields index ((Value.member? "name" entries).getD .null) := by
      unfold prepare at h
      dsimp only at h
      split at h
      · cases h
      · exact (Except.error.inj h).symm
    rw [hf]
    exact ⟨fun hname => ⟨⟨entries, rfl⟩, hno, hname⟩, Unwritable.name⟩
  | atom | list | set | pair | outer =>
    cases h
    exact ⟨nofun, fun hunwritable => by obtain ⟨_, ⟨⟩⟩ := hunwritable.isMap⟩

/-- Of entities in their turn the first one without fields is refused. -/
theorem prepareAll_eq_error : ∀ {vs : List Value} {index : Nat} {f : Model.Fault},
    prepareAll index vs = .error f → ∃ before v after place, vs = before ++ v :: after ∧
      (∀ w ∈ before, HasFields w) ∧ prepare place v = .error f
  | [], _, _, h => by cases h
  | v :: rest, index, f, h => by
    rw [prepareAll] at h
    cases hv : prepare index v with
    | error f' =>
      rw [hv] at h
      cases h
      exact ⟨[], v, rest, index, rfl, nofun, hv⟩
    | ok w =>
      rw [hv] at h
      cases hrest : prepareAll (index + 1) rest with
      | error f' =>
        rw [hrest] at h
        cases h
        obtain ⟨before, v', after, place, rfl, hbefore, hv'⟩ := prepareAll_eq_error hrest
        exact ⟨v :: before, v', after, place, rfl,
          List.forall_mem_cons.mpr ⟨exists_prepare_iff.mp ⟨w, hv⟩, hbefore⟩, hv'⟩
      | ok later =>
        rw [hrest] at h
        cases h

/-- Everything that is made ready in its turn has fields. -/
theorem hasFields_of_prepareAll : ∀ {vs ws : List Value} {index : Nat},
    prepareAll index vs = .ok ws → ∀ v ∈ vs, HasFields v
  | [], _, _, _ => nofun
  | v :: rest, ws, index, h => by
    obtain ⟨w, hw, hlater⟩ := bind_eq_ok.mp h
    obtain ⟨later, hrest, -⟩ := bind_eq_ok.mp hlater
    exact List.forall_mem_cons.mpr
      ⟨exists_prepare_iff.mp ⟨w, hw⟩, hasFields_of_prepareAll hrest⟩

end Entity

namespace Model

/-- A value whose first entity without fields has a name that cannot be written. -/
def StopsAtName (raw : Value) : Prop :=
  ∃ before v after, raw.get? "entities" = some (.list (before ++ v :: after)) ∧
    (∀ w ∈ before, Entity.HasFields w) ∧ Entity.Unwritable v

/-- The first item of a list that is not of a sort is found in one place. -/
theorem eq_of_first {α : Type} {P : α → Prop} : ∀ {before before' after after' : List α} {a a' : α},
    before ++ a :: after = before' ++ a' :: after' → (∀ x ∈ before, P x) → (∀ x ∈ before', P x) →
      ¬P a → ¬P a' → a = a'
  | [], [], _, _, _, _, h, _, _, _, _ => (List.cons.inj h).1
  | [], b :: _, _, _, _, _, h, _, hbefore', ha, _ =>
    absurd ((List.cons.inj h).1 ▸ hbefore' b List.mem_cons_self) ha
  | b :: _, [], _, _, _, _, h, hbefore, _, _, ha' =>
    absurd ((List.cons.inj h).1 ▸ hbefore b List.mem_cons_self) ha'
  | _ :: _, _ :: _, _, _, _, _, h, hbefore, hbefore', ha, ha' =>
    eq_of_first (List.cons.inj h).2 (List.forall_mem_cons.mp hbefore).2
      (List.forall_mem_cons.mp hbefore').2 ha ha'

/-- A value is refused before it is read, or because it cannot be read. -/
theorem normalize_eq_error {raw : Value} {f : Fault} (h : normalize raw = .error f) :
    prepare raw = .error f ∨ ∃ v complaints, prepare raw = .ok v ∧ f = .shape complaints := by
  rw [normalize] at h
  cases hv : prepare raw with
  | error f' =>
    rw [hv] at h
    exact .inl (congrArg Except.error (Except.error.inj h))
  | ok v =>
    rw [hv] at h
    cases hread : read v with
    | ok m =>
      simp only [bind, Except.bind, hread] at h
      cases h
    | bad complaints =>
      simp only [bind, Except.bind, hread] at h
      exact .inr ⟨v, complaints, rfl, (Except.error.inj h).symm⟩

/-- What is made ready does not stop at a name. -/
theorem not_stopsAtName_of_prepare {raw v : Value} (h : prepare raw = .ok v) :
    ¬StopsAtName raw := by
  rintro ⟨before, w, after, hgiven, -, hunwritable⟩
  obtain ⟨entries, given, ws, relationships, rfl, hgiven', hws, -⟩ := prepare_eq_ok h
  obtain rfl := Value.list.inj (Option.some.inj (hgiven'.symm.trans hgiven))
  exact hunwritable.noFields (Entity.hasFields_of_prepareAll hws w
    (List.mem_append_right _ List.mem_cons_self))

theorem isFailure_of_prepare {raw : Value} {f : Fault} (h : prepare raw = .error f) :
    f.isFailure = false ↔ StopsAtName raw := by
  have hno : (∀ given, raw.get? "entities" ≠ some (.list given)) → ¬StopsAtName raw := by
    rintro hno ⟨before, v, after, hgiven, -⟩
    exact hno _ hgiven
  cases raw with
  | atom | list | set | pair | outer =>
    cases h
    exact iff_of_false Bool.noConfusion (hno fun _ => nofun)
  | map entries =>
    rw [prepare] at h
    split at h
    · rename_i given hgiven
      cases hall : Entity.prepareAll 0 given with
      | ok ws =>
        rw [hall] at h
        cases h
      | error f' =>
        rw [hall] at h
        cases h
        obtain ⟨before, v, after, place, rfl, hbefore, hv⟩ := Entity.prepareAll_eq_error hall
        obtain ⟨hnoFields, hiff⟩ := Entity.isFailure_of_prepare hv
        rw [hiff]
        constructor
        · exact fun hunwritable => ⟨before, v, after, hgiven, hbefore, hunwritable⟩
        · rintro ⟨before', v', after', hgiven', hbefore', hunwritable⟩
          have hlists := Value.list.inj (Option.some.inj (hgiven.symm.trans hgiven'))
          rwa [eq_of_first hlists hbefore hbefore' hnoFields hunwritable.noFields]
    · rename_i hother
      cases h
      exact iff_of_false Bool.noConfusion (hno hother)

/-- **What is refused** is refused with a failure, unless it stops at a name. -/
theorem isFailure_iff {raw : Value} {f : Fault} (h : normalize raw = .error f) :
    f.isFailure = true ↔ ¬StopsAtName raw := by
  rcases normalize_eq_error h with hprepare | ⟨v, complaints, hprepare, rfl⟩
  · rw [← isFailure_of_prepare hprepare, Bool.not_eq_false]
  · exact iff_of_true rfl (not_stopsAtName_of_prepare hprepare)

/-- **What comes of normalizing.**  A value of JSON is normalized to a model that keeps all of it
and adds what is made up, or it is refused with a failure of normalizing.  The message of that
failure cannot be written exactly if the value stops at a name with a number of too many digits. -/
theorem completed_or_refused (raw : Value) (hjson : raw.isJson = true) :
    (∃ m, normalize raw = .ok m ∧ Completed raw m) ∨
      ∃ f, normalize raw = .error f ∧ f.toFailure.stage = .normalization ∧
        (f.isFailure = true ↔ ¬StopsAtName raw) := by
  cases h : normalize raw with
  | ok m => exact .inl ⟨m, rfl, ((normalize_iff_madeOf hjson).mp h).completed hjson⟩
  | error f => exact .inr ⟨f, rfl, rfl, isFailure_iff h⟩

/-- A person with a name for a field, and no relationships. -/
def namedPerson (name : Value) : Value :=
  .obj [("entities", .list [.obj [("name", name),
    ("fields", .list [.obj [("name", .str "email"), ("type", .str "string")]])]])]

/-- A person gets the irregular plural for a table and a key in front of its field; one that is
named by a number is refused. -/
theorem completed_or_refused_person :
    (∃ m, normalize (namedPerson (.str "person")) = .ok m ∧
      Completed (namedPerson (.str "person")) m) ∧
    (∃ f, normalize (namedPerson (.int 7)) = .error f ∧ f.isFailure = true) := by
  have hwritten : ¬StopsAtName (namedPerson (.int 7)) := by
    rintro ⟨before, v, after, hgiven, -, hunwritable⟩
    refine hunwritable.noFields ?_
    have hmem : v ∈ before ++ v :: after := List.mem_append_right _ List.mem_cons_self
    rw [← Value.list.inj (Option.some.inj hgiven)] at hmem
    rw [List.mem_singleton.mp hmem]
    exact ⟨_, rfl⟩
  constructor
  · rcases completed_or_refused (namedPerson (.str "person")) (by decide) with h | h
    · exact h
    · obtain ⟨f, hf, -⟩ := h
      cases hf
  · rcases completed_or_refused (namedPerson (.int 7)) (by decide) with h | h
    · obtain ⟨m, hm, -⟩ := h
      cases hm
    · obtain ⟨f, hf, -, hfailure⟩ := h
      exact ⟨f, hf, hfailure.mpr hwritten⟩

/-- An entity without fields whose name is a number of too many digits is refused without a failure:
the message cannot be written. -/
theorem refused_without_failure :
    ∃ raw f, raw.isJson = true ∧ normalize raw = .error f ∧ f.isFailure = false :=
  ⟨.obj [("entities", .list [.obj [("name", .int (Nat.pow 10 4300))]])], _, rfl, rfl,
    by decide +kernel⟩

end Model

end Schemata
