import Schemata.MetaSchema.Check
import Schemata.Proofs.Writing
/-!
# What a dialect accepts

The check of a schema document runs on fuel.  Here the fuel is seen to be enough for every value of
JSON (`violationsOf_eq`), so that what a dialect accepts can be said without it: `Obeys` for a rule
and `Accepts` for a schema.

* `Rule.height` is the fuel that a rule needs besides that for the levels of a value.
* `Asks` relates a rule at a value to the schemas that it asks of parts of it.
* `obeys_nested_iff`: a rule about parts is obeyed exactly if all that it asks is accepted.
-/

namespace Schemata

/-! ## 1. Values of JSON -/

namespace Value

mutual

/-- Nothing inside a value of JSON stands for a collection further out. -/
theorem fill_of_isJson (whole : Value) (depth : Nat) : ∀ {v : Value}, v.isJson = true →
    fill whole depth v = v
  | .atom s, _ => by rw [fill] <;> simp
  | .list items, h => by
    rw [isJson] at h
    rw [fill, fillItems_of_areJson whole (depth + 1) h]
  | .map entries, h => by
    rw [isJson] at h
    rw [fill, fillEntries_of_membersAreJson whole (depth + 1) h]
  | .set _, h | .pair .., h | .outer .., h => by cases h

theorem fillItems_of_areJson (whole : Value) (depth : Nat) : ∀ {items : List Value},
    areJson items = true → fillItems whole depth items = items
  | [], _ => by rw [fillItems]
  | v :: rest, h => by
    rw [areJson, Bool.and_eq_true] at h
    rw [fillItems, fill_of_isJson whole depth h.1, fillItems_of_areJson whole depth h.2]

theorem fillEntries_of_membersAreJson (whole : Value) (depth : Nat) :
    ∀ {entries : List (Scalar × Value)}, membersAreJson entries = true →
      fillEntries whole depth entries = entries
  | [], _ => by rw [fillEntries]
  | (k, v) :: rest, h => by
    rw [membersAreJson, Bool.and_eq_true, Bool.and_eq_true] at h
    rw [fillEntries, fill_of_isJson whole depth h.1.2,
      fillEntries_of_membersAreJson whole depth h.2]

end

theorem unrolledEntries_of_isJson {entries : List (Scalar × Value)}
    (h : (map entries).isJson = true) : (map entries).unrolledEntries = entries := by
  rw [isJson] at h
  exact fillEntries_of_membersAreJson _ _ h

theorem unrolledItems_of_isJson {items : List Value} (h : (list items).isJson = true) :
    (list items).unrolledItems = items := by
  rw [isJson] at h
  exact fillItems_of_areJson _ _ h

theorem depth_le_depths {v : Value} : ∀ {items : List Value}, v ∈ items → v.depth ≤ depths items
  | w :: rest, h => by
    have hstep : depths (w :: rest) = max w.depth (depths rest) := rfl
    rw [hstep]
    rcases List.mem_cons.mp h with rfl | hrest
    · exact Nat.le_max_left _ _
    · exact (depth_le_depths hrest).trans (Nat.le_max_right _ _)

theorem depth_le_memberDepths {p : Scalar × Value} : ∀ {entries : List (Scalar × Value)},
    p ∈ entries → p.2.depth ≤ memberDepths entries
  | (k, v) :: rest, h => by
    have hstep : memberDepths ((k, v) :: rest) = max v.depth (memberDepths rest) := rfl
    rw [hstep]
    rcases List.mem_cons.mp h with rfl | hrest
    · exact Nat.le_max_left _ _
    · exact (depth_le_memberDepths hrest).trans (Nat.le_max_right _ _)

theorem depth_lt_of_mem_items {v : Value} {items : List Value} (h : v ∈ items) :
    v.depth < (list items).depth :=
  Nat.lt_succ_of_le (depth_le_depths h)

theorem depth_lt_of_mem_entries {p : Scalar × Value} {entries : List (Scalar × Value)}
    (h : p ∈ entries) : p.2.depth < (map entries).depth :=
  Nat.lt_succ_of_le (depth_le_memberDepths h)

end Value

namespace MetaSchema

/-! ## 2. The fuel of a rule -/

mutual

/-- The fuel that a rule needs besides `rulesPerLevel` for every level of a value.  What is asked of
the parts of a value has one level less to care for. -/
def Rule.height : Rule → Nat
  | .properties schemas => propertyHeight schemas - rulesPerLevel + 1
  | .everyProperty schema | .propertyNames schema | .items schema =>
    schemaHeight schema - rulesPerLevel + 1
  | .all schemas | .any schemas => choiceHeight schemas + 1
  | .whole _ => 3
  | _ => 1

def schemaHeight : List Rule → Nat
  | [] => 0
  | r :: rest => max r.height (schemaHeight rest)

def choiceHeight : List (List Rule) → Nat
  | [] => 0
  | schema :: rest => max (schemaHeight schema) (choiceHeight rest)

def propertyHeight : List (String × List Rule) → Nat
  | [] => 0
  | (_, schema) :: rest => max (schemaHeight schema) (propertyHeight rest)

end

theorem height_le_schemaHeight {r : Rule} : ∀ {schema : Schema}, r ∈ schema →
    r.height ≤ schemaHeight schema
  | s :: rest, h => by
    have hstep : schemaHeight (s :: rest) = max s.height (schemaHeight rest) := rfl
    rw [hstep]
    rcases List.mem_cons.mp h with rfl | hrest
    · exact Nat.le_max_left _ _
    · exact (height_le_schemaHeight hrest).trans (Nat.le_max_right _ _)

theorem schemaHeight_le_choiceHeight {schema : Schema} : ∀ {schemas : List Schema},
    schema ∈ schemas → schemaHeight schema ≤ choiceHeight schemas
  | s :: rest, h => by
    have hstep : choiceHeight (s :: rest) = max (schemaHeight s) (choiceHeight rest) := rfl
    rw [hstep]
    rcases List.mem_cons.mp h with rfl | hrest
    · exact Nat.le_max_left _ _
    · exact (schemaHeight_le_choiceHeight hrest).trans (Nat.le_max_right _ _)

theorem schemaHeight_le_propertyHeight {p : String × Schema} :
    ∀ {schemas : List (String × Schema)}, p ∈ schemas → schemaHeight p.2 ≤ propertyHeight schemas
  | (name, s) :: rest, h => by
    have hstep : propertyHeight ((name, s) :: rest) = max (schemaHeight s) (propertyHeight rest) :=
      rfl
    rw [hstep]
    rcases List.mem_cons.mp h with rfl | hrest
    · exact Nat.le_max_left _ _
    · exact (schemaHeight_le_propertyHeight hrest).trans (Nat.le_max_right _ _)

theorem height_pos (r : Rule) : 0 < r.height := by
  cases r <;> exact Nat.succ_pos _

/-- No dialect needs more fuel than asking for it once more is counted with. -/
theorem schemaHeight_dialect (d : Dialect) : schemaHeight d.schema ≤ 2 := by
  cases d <;> decide +kernel

/-! ## 3. What a rule asks of parts -/

/-- The violations of a rule, from a check of schemas. -/
def stepViolations (d : Dialect) (check : Schema → Value → List Violation) (r : Rule) (v : Value) :
    List Violation :=
  match r, v with
  | .properties schemas, .map _ =>
    schemas.flatMap fun (name, schema) =>
      match Value.member? name v.unrolledEntries with
      | some u => (check schema u).map fun x => (x.inside name).under [r.keyword, name]
      | none => []
  | .everyProperty schema, .map _ =>
    v.unrolledEntries.flatMap fun (key, u) =>
      (insideKey key (check schema u)).map (·.under [r.keyword])
  | .propertyNames schema, .map es =>
    es.flatMap fun (key, _) => (check schema (.atom key)).map (·.under [r.keyword])
  | .items schema, .list _ =>
    (indexed v.unrolledItems).flatMap fun (i, u) =>
      (check schema u).map fun x => (x.inside i).under [r.keyword]
  | .all schemas, v =>
    (indexed schemas).flatMap fun (i, schema) => (check schema v).map (·.under [r.keyword, i])
  | .any schemas, v =>
    choose (broken r v " is not valid under any of the given schemas")
      (schemas.map fun schema => check schema v)
  | .whole isDynamic, v =>
    (check d.schema v).map (·.under (if isDynamic then [r.keyword] else []))
  | r, v => flatViolations d.wholeNumbersAreIntegers r v

theorem violationsOf_succ (d : Dialect) (fuel : Nat) (r : Rule) (v : Value) :
    violationsOf d (fuel + 1) r v
      = stepViolations d (fun schema u => schema.flatMap fun r => violationsOf d fuel r u) r v :=
  rfl

/-- The schemas that a rule at a value asks of which parts of it. -/
inductive Asks (d : Dialect) : Rule → Value → Schema → Value → Prop
  | property {schemas : List (String × Schema)} {es : List (Scalar × Value)} {p : String × Schema}
      {u : Value} (hp : p ∈ schemas) (hu : Value.member? p.1 es = some u) :
      Asks d (.properties schemas) (.map es) p.2 u
  | everyProperty {schema : Schema} {es : List (Scalar × Value)} {p : Scalar × Value}
      (hp : p ∈ es) : Asks d (.everyProperty schema) (.map es) schema p.2
  | propertyName {schema : Schema} {es : List (Scalar × Value)} {p : Scalar × Value}
      (hp : p ∈ es) : Asks d (.propertyNames schema) (.map es) schema (.atom p.1)
  | item {schema : Schema} {items : List Value} {u : Value} (hu : u ∈ items) :
      Asks d (.items schema) (.list items) schema u
  | all {schemas : List Schema} {schema : Schema} {v : Value} (hs : schema ∈ schemas) :
      Asks d (.all schemas) v schema v
  | any {schemas : List Schema} {schema : Schema} {v : Value} (hs : schema ∈ schemas) :
      Asks d (.any schemas) v schema v
  | whole {isDynamic : Bool} {v : Value} : Asks d (.whole isDynamic) v d.schema v

theorem isJson_of_asks {d : Dialect} {r : Rule} {v u : Value} {schema : Schema}
    (hv : v.isJson = true) (h : Asks d r v schema u) : u.isJson = true := by
  cases h with
  | property hp hu => exact Value.hereditary_isJson.member hv hu
  | everyProperty hp => exact Value.hereditary_isJson.entry hv hp
  | propertyName hp =>
    rename_i p
    rw [Value.isJson] at hv
    have hkind := (Value.membersAreJson_iff.mp hv _ hp).1
    rw [Value.isJson]
    cases hk : p.1 with
    | str s => rfl
    | _ => rw [hk] at hkind; cases hkind
  | item hu => exact Value.hereditary_isJson.item hv hu
  | all hs => exact hv
  | any hs => exact hv
  | whole => exact hv

/-- What is asked of parts needs less fuel. -/
theorem enough_of_asks {d : Dialect} {r : Rule} {v u : Value} {schema : Schema} {fuel : Nat}
    (h : Asks d r v schema u) (hfuel : r.height + rulesPerLevel * v.depth ≤ fuel + 1) :
    schemaHeight schema + rulesPerLevel * u.depth ≤ fuel := by
  have hlevels : rulesPerLevel = 8 := rfl
  rw [hlevels] at hfuel ⊢
  cases h with
  | @property schemas es p u hp hu =>
    have hrule : (Rule.properties schemas).height = propertyHeight schemas - 8 + 1 := rfl
    have hheight := schemaHeight_le_propertyHeight hp
    have hdepth : u.depth < _ := Value.depth_lt_of_mem_entries (Entries.mem_of_lookup hu)
    omega
  | @everyProperty schema es p hp =>
    have hrule : (Rule.everyProperty schema).height = schemaHeight schema - 8 + 1 := rfl
    have hdepth := Value.depth_lt_of_mem_entries hp
    omega
  | @propertyName schema es p hp =>
    have hrule : (Rule.propertyNames schema).height = schemaHeight schema - 8 + 1 := rfl
    have hkey : (Value.atom p.1).depth = 0 := rfl
    have hdepth := Value.depth_lt_of_mem_entries hp
    omega
  | @item schema items u hu =>
    have hrule : (Rule.items schema).height = schemaHeight schema - 8 + 1 := rfl
    have hdepth := Value.depth_lt_of_mem_items hu
    omega
  | @all schemas schema v hs =>
    have hrule : (Rule.all schemas).height = choiceHeight schemas + 1 := rfl
    have hheight := schemaHeight_le_choiceHeight hs
    omega
  | @any schemas schema v hs =>
    have hrule : (Rule.any schemas).height = choiceHeight schemas + 1 := rfl
    have hheight := schemaHeight_le_choiceHeight hs
    omega
  | @whole isDynamic v =>
    have hrule : (Rule.whole isDynamic).height = 3 := rfl
    have hheight := schemaHeight_dialect d
    omega

theorem mem_of_mem_indexed {α : Type} {items : List α} {p : String × α} (h : p ∈ indexed items) :
    p.2 ∈ items := by
  obtain ⟨q, hq, rfl⟩ := List.mem_map.mp h
  exact List.fst_mem_of_mem_zipIdx hq

theorem exists_mem_indexed {α : Type} {items : List α} {a : α} (h : a ∈ items) :
    ∃ i, (i, a) ∈ indexed items := by
  obtain ⟨n, hn, rfl⟩ := List.mem_iff_getElem.mp h
  exact ⟨toString n,
    List.mem_map.mpr ⟨(items[n], n), by simp [List.mk_mem_zipIdx_iff_getElem?], rfl⟩⟩

section Steps

variable {d : Dialect} {check : Schema → Value → List Violation} {es : List (Scalar × Value)}
  {schemas : List (String × Schema)} {schema : Schema} {v : Value}

theorem step_properties (hv : (Value.map es).isJson = true) :
    stepViolations d check (.properties schemas) (.map es)
      = schemas.flatMap fun p => match Value.member? p.1 es with
        | some u => (check p.2 u).map fun x => (x.inside p.1).under ["properties", p.1]
        | none => [] := by
  conv_rhs => rw [← Value.unrolledEntries_of_isJson hv]
  rfl

theorem step_everyProperty (hv : (Value.map es).isJson = true) :
    stepViolations d check (.everyProperty schema) (.map es)
      = es.flatMap fun p =>
        (insideKey p.1 (check schema p.2)).map (·.under ["additionalProperties"]) := by
  conv_rhs => rw [← Value.unrolledEntries_of_isJson hv]
  rfl

theorem step_propertyNames :
    stepViolations d check (.propertyNames schema) (.map es)
      = es.flatMap fun p => (check schema (.atom p.1)).map (·.under ["propertyNames"]) := rfl

theorem step_items {items : List Value} (hv : (Value.list items).isJson = true) :
    stepViolations d check (.items schema) (.list items)
      = (indexed items).flatMap fun p =>
        (check schema p.2).map fun x => (x.inside p.1).under ["items"] := by
  conv_rhs => rw [← Value.unrolledItems_of_isJson hv]
  rfl

theorem step_all {schemas : List Schema} :
    stepViolations d check (.all schemas) v
      = (indexed schemas).flatMap fun p => (check p.2 v).map (·.under ["allOf", p.1]) := rfl

theorem step_any {schemas : List Schema} :
    stepViolations d check (.any schemas) v
      = choose (broken (.any schemas) v " is not valid under any of the given schemas")
        (schemas.map fun schema => check schema v) := rfl

theorem step_whole {isDynamic : Bool} :
    stepViolations d check (.whole isDynamic) v
      = (check d.schema v).map (·.under (if isDynamic then ["$dynamicRef"] else [])) := by
  cases isDynamic <;> rfl

end Steps

/-- The violations of a rule depend only on what it asks. -/
theorem stepViolations_congr {d : Dialect} {check check' : Schema → Value → List Violation}
    {r : Rule} {v : Value} (hv : v.isJson = true)
    (h : ∀ schema u, Asks d r v schema u → check schema u = check' schema u) :
    stepViolations d check r v = stepViolations d check' r v := by
  cases r with
  | properties schemas =>
    cases v with
    | map es =>
      rw [step_properties hv, step_properties hv]
      refine List.flatMap_congr fun p hp => ?_
      cases hu : Value.member? p.1 es with
      | none => rfl
      | some u => simp only [h p.2 u (.property hp hu)]
    | _ => rfl
  | everyProperty schema =>
    cases v with
    | map es =>
      rw [step_everyProperty hv, step_everyProperty hv]
      refine List.flatMap_congr fun p hp => ?_
      rw [h schema p.2 (.everyProperty hp)]
    | _ => rfl
  | propertyNames schema =>
    cases v with
    | map es =>
      rw [step_propertyNames, step_propertyNames]
      refine List.flatMap_congr fun p hp => ?_
      rw [h schema (.atom p.1) (.propertyName hp)]
    | _ => rfl
  | items schema =>
    cases v with
    | list items =>
      rw [step_items hv, step_items hv]
      refine List.flatMap_congr fun p hp => ?_
      rw [h schema p.2 (.item (mem_of_mem_indexed hp))]
    | _ => rfl
  | all schemas =>
    rw [step_all, step_all]
    refine List.flatMap_congr fun p hp => ?_
    rw [h p.2 v (.all (mem_of_mem_indexed hp))]
  | any schemas =>
    rw [step_any, step_any, List.map_congr_left fun schema hs => h schema v (.any hs)]
  | whole isDynamic =>
    rw [step_whole, step_whole, h d.schema v .whole]
  | _ => rfl

/-- **Enough fuel is enough**: more of it changes nothing. -/
theorem violationsOf_eq {d : Dialect} : ∀ {fuel fuel' : Nat} {r : Rule} {v : Value},
    v.isJson = true → r.height + rulesPerLevel * v.depth ≤ fuel →
    r.height + rulesPerLevel * v.depth ≤ fuel' → violationsOf d fuel r v = violationsOf d fuel' r v
  | 0, _, r, _, _, h, _ | _, 0, r, _, _, _, h => by
    have hpos := height_pos r
    omega
  | fuel + 1, fuel' + 1, r, v, hv, h, h' => by
    rw [violationsOf_succ, violationsOf_succ]
    refine stepViolations_congr hv fun schema u hasks => List.flatMap_congr fun s hs => ?_
    have hheight := height_le_schemaHeight hs
    have henough := enough_of_asks hasks h
    have henough' := enough_of_asks hasks h'
    exact violationsOf_eq (isJson_of_asks hv hasks) (by omega) (by omega)

/-! ## 4. Rules without fuel -/

/-- Whether a value obeys a rule of a dialect. -/
def Obeys (d : Dialect) (r : Rule) (v : Value) : Prop :=
  violationsOf d (r.height + rulesPerLevel * v.depth) r v = []

/-- Whether a value obeys all rules of a schema. -/
def Accepts (d : Dialect) (schema : Schema) (v : Value) : Prop := ∀ r ∈ schema, Obeys d r v

theorem accepts_cons {d : Dialect} {r : Rule} {rest : Schema} {v : Value} :
    Accepts d (r :: rest) v ↔ Obeys d r v ∧ Accepts d rest v := List.forall_mem_cons

theorem accepts_singleton {d : Dialect} {r : Rule} {v : Value} :
    Accepts d [r] v ↔ Obeys d r v := List.forall_mem_singleton

theorem obeys_iff_of_enough {d : Dialect} {fuel : Nat} {r : Rule} {v : Value} (hv : v.isJson = true)
    (h : r.height + rulesPerLevel * v.depth ≤ fuel) :
    Obeys d r v ↔ violationsOf d fuel r v = [] := by
  rw [Obeys, violationsOf_eq hv le_rfl h]

theorem flatMap_eq_nil_iff_accepts {d : Dialect} {fuel : Nat} {schema : Schema} {v : Value}
    (hv : v.isJson = true) (h : schemaHeight schema + rulesPerLevel * v.depth ≤ fuel) :
    (schema.flatMap fun r => violationsOf d fuel r v) = [] ↔ Accepts d schema v := by
  rw [List.flatMap_eq_nil_iff]
  refine forall₂_congr fun r hr => ?_
  have hheight := height_le_schemaHeight hr
  exact (obeys_iff_of_enough hv (by omega)).symm

/-- **A document has no violations** exactly if its dialect accepts it. -/
theorem violations_eq_nil_iff {d : Dialect} {v : Value} (hv : v.isJson = true) :
    violations d v = [] ↔ Accepts d d.schema v := by
  have hheight := schemaHeight_dialect d
  have hlevels : rulesPerLevel = 8 := rfl
  refine flatMap_eq_nil_iff_accepts hv ?_
  rw [hlevels]
  omega

/-! ## 5. Rule by rule -/

/-- Whether a rule asks something of parts, all of which has to be accepted. -/
def Rule.isNested : Rule → Bool
  | .properties _ | .everyProperty _ | .propertyNames _ | .items _ | .all _ | .whole _ => true
  | _ => false

theorem insideKey_eq_nil {key : Scalar} {found : List Violation} :
    insideKey key found = [] ↔ found = [] := by
  unfold insideKey
  cases found with
  | nil => simp
  | cons x rest => cases key.isWritable <;> simp

theorem stepViolations_eq_nil {d : Dialect} {check : Schema → Value → List Violation} {r : Rule}
    {v : Value} (hv : v.isJson = true) (hr : r.isNested = true) :
    stepViolations d check r v = [] ↔ ∀ schema u, Asks d r v schema u → check schema u = [] := by
  constructor
  · intro h schema u hasks
    cases hasks with
    | property hp hu =>
      rw [step_properties hv, List.flatMap_eq_nil_iff] at h
      have hfound := h _ hp
      rw [hu] at hfound
      exact List.map_eq_nil_iff.mp hfound
    | everyProperty hp =>
      rw [step_everyProperty hv, List.flatMap_eq_nil_iff] at h
      exact insideKey_eq_nil.mp (List.map_eq_nil_iff.mp (h _ hp))
    | propertyName hp =>
      rw [step_propertyNames, List.flatMap_eq_nil_iff] at h
      exact List.map_eq_nil_iff.mp (h _ hp)
    | item hu =>
      rw [step_items hv, List.flatMap_eq_nil_iff] at h
      obtain ⟨i, hi⟩ := exists_mem_indexed hu
      exact List.map_eq_nil_iff.mp (h _ hi)
    | all hs =>
      rw [step_all, List.flatMap_eq_nil_iff] at h
      obtain ⟨i, hi⟩ := exists_mem_indexed hs
      exact List.map_eq_nil_iff.mp (h _ hi)
    | any hs => cases hr
    | whole =>
      rw [step_whole] at h
      exact List.map_eq_nil_iff.mp h
  · intro h
    -- A check that finds nothing anywhere gives the same violations, which are none.
    have hsame : stepViolations d check r v = stepViolations d (fun _ _ => []) r v :=
      stepViolations_congr hv h
    rw [hsame]
    cases r with
    | properties schemas =>
      cases v with
      | map es =>
        rw [step_properties hv, List.flatMap_eq_nil_iff]
        intro p _
        split <;> rfl
      | _ => rfl
    | everyProperty schema =>
      cases v with
      | map es =>
        rw [step_everyProperty hv, List.flatMap_eq_nil_iff]
        exact fun _ _ => rfl
      | _ => rfl
    | propertyNames schema =>
      cases v with
      | map es => exact List.flatMap_eq_nil_iff.mpr fun _ _ => rfl
      | _ => rfl
    | items schema =>
      cases v with
      | list items =>
        rw [step_items hv, List.flatMap_eq_nil_iff]
        exact fun _ _ => rfl
      | _ => rfl
    | all schemas => exact List.flatMap_eq_nil_iff.mpr fun _ _ => rfl
    | whole isDynamic => rfl
    | _ => cases hr

variable {d : Dialect} {v : Value}

/-- **A rule about parts** is obeyed exactly if all that it asks of them is accepted. -/
theorem obeys_nested_iff {r : Rule} (hv : v.isJson = true) (hr : r.isNested = true) :
    Obeys d r v ↔ ∀ schema u, Asks d r v schema u → Accepts d schema u := by
  obtain ⟨fuel, hfuel⟩ : ∃ fuel, r.height + rulesPerLevel * v.depth = fuel + 1 :=
    Nat.exists_eq_add_one.mpr (Nat.add_pos_left (height_pos r) _)
  rw [Obeys, hfuel, violationsOf_succ, stepViolations_eq_nil hv hr]
  refine forall₃_congr fun schema u hasks => ?_
  exact flatMap_eq_nil_iff_accepts (isJson_of_asks hv hasks) (enough_of_asks hasks hfuel.le)

theorem obeys_properties_iff {schemas : List (String × Schema)} {es : List (Scalar × Value)}
    (hv : (Value.map es).isJson = true) :
    Obeys d (.properties schemas) (.map es) ↔
      ∀ p ∈ schemas, ∀ u, Value.member? p.1 es = some u → Accepts d p.2 u := by
  rw [obeys_nested_iff hv rfl]
  constructor
  · intro h p hp u hu
    exact h p.2 u (.property hp hu)
  · intro h schema u hasks
    cases hasks with
    | property hp hu => exact h _ hp _ hu

theorem obeys_everyProperty_iff {schema : Schema} {es : List (Scalar × Value)}
    (hv : (Value.map es).isJson = true) :
    Obeys d (.everyProperty schema) (.map es) ↔ ∀ p ∈ es, Accepts d schema p.2 := by
  rw [obeys_nested_iff hv rfl]
  constructor
  · intro h p hp
    exact h schema p.2 (.everyProperty hp)
  · intro h schema' u hasks
    cases hasks with
    | everyProperty hp => exact h _ hp

theorem obeys_items_iff {schema : Schema} {items : List Value}
    (hv : (Value.list items).isJson = true) :
    Obeys d (.items schema) (.list items) ↔ ∀ u ∈ items, Accepts d schema u := by
  rw [obeys_nested_iff hv rfl]
  constructor
  · intro h u hu
    exact h schema u (.item hu)
  · intro h schema' u hasks
    cases hasks with
    | item hu => exact h _ hu

theorem obeys_all_iff {schemas : List Schema} (hv : v.isJson = true) :
    Obeys d (.all schemas) v ↔ ∀ schema ∈ schemas, Accepts d schema v := by
  rw [obeys_nested_iff hv rfl]
  constructor
  · intro h schema hs
    exact h schema v (.all hs)
  · intro h schema u hasks
    cases hasks with
    | all hs => exact h _ hs

theorem obeys_whole_iff {isDynamic : Bool} (hv : v.isJson = true) :
    Obeys d (.whole isDynamic) v ↔ Accepts d d.schema v := by
  rw [obeys_nested_iff hv rfl]
  constructor
  · intro h
    exact h d.schema v .whole
  · intro h schema u hasks
    cases hasks
    exact h

/-- A choice whose first schema is accepted. -/
theorem obeys_any_of_first {schema : Schema} {rest : List Schema} (hv : v.isJson = true)
    (h : Accepts d schema v) : Obeys d (.any (schema :: rest)) v := by
  obtain ⟨fuel, hfuel⟩ : ∃ fuel, (Rule.any (schema :: rest)).height + rulesPerLevel * v.depth
      = fuel + 1 := Nat.exists_eq_add_one.mpr (Nat.add_pos_left (height_pos _) _)
  have hasks : Asks d (.any (schema :: rest)) v schema v := .any List.mem_cons_self
  have hfirst := (flatMap_eq_nil_iff_accepts hv (enough_of_asks hasks hfuel.le)).mpr h
  rw [Obeys, hfuel, violationsOf_succ, step_any, List.map_cons, hfirst]
  rfl

/-- Whether a rule looks at nothing inside of a value. -/
def Rule.isFlat : Rule → Bool
  | .any _ => false
  | r => !r.isNested

theorem obeys_flat_iff {r : Rule} (hr : r.isFlat = true) :
    Obeys d r v ↔ flatViolations d.wholeNumbersAreIntegers r v = [] := by
  obtain ⟨fuel, hfuel⟩ : ∃ fuel, r.height + rulesPerLevel * v.depth = fuel + 1 :=
    Nat.exists_eq_add_one.mpr (Nat.add_pos_left (height_pos r) _)
  rw [Obeys, hfuel, violationsOf_succ]
  cases r <;> first | rfl | cases hr

theorem brokenIf_eq_nil {condition : Bool} {r : Rule} {text : String} :
    brokenIf condition r v text = [] ↔ condition = false := by
  unfold brokenIf broken
  cases condition <;> cases v.isWritable <;> simp

theorem brokenIf_not_eq_nil {condition : Bool} {r : Rule} {text : String} :
    brokenIf (!condition) r v text = [] ↔ condition = true := by
  rw [brokenIf_eq_nil, Bool.not_eq_false']

theorem obeys_types_iff {names : List TypeName} :
    Obeys d (.types names) v ↔ names.any (fun t => t.holds d.wholeNumbersAreIntegers v) = true :=
  (obeys_flat_iff rfl).trans brokenIf_not_eq_nil

theorem obeys_choices_iff {names : List String} :
    Obeys d (.choices names) v ↔ names.any (fun n => (Value.str n).agrees v) = true :=
  (obeys_flat_iff rfl).trans brokenIf_not_eq_nil

theorem obeys_least_iff {bound : Int} {isExclusive : Bool} :
    Obeys d (.least bound isExclusive) v ↔ isBelow bound isExclusive v = false :=
  (obeys_flat_iff rfl).trans brokenIf_eq_nil

theorem obeys_form_iff {f : Form} {s : String} :
    Obeys d (.form f) (.str s) ↔ f.holds s = true :=
  (obeys_flat_iff rfl).trans brokenIf_not_eq_nil

theorem obeys_distinct_iff {items : List Value} :
    Obeys d .distinct (.list items) ↔ Value.countAsDistinct items = true :=
  (obeys_flat_iff rfl).trans brokenIf_not_eq_nil

end MetaSchema

end Schemata
