import Schemata.Proofs.Linting
import Schemata.Proofs.Retrying
import Schemata.Proofs.Tables
/-!
# Constraints that a type ignores

Some keywords of a constraint map mean something for some types only.  The schema of a field goes
without those that its type does not take, and the lint is there to say so.  Both decide it with
conditions of their own: the schema by the type, with the keywords that it takes, the lint by the
keywords, in three groups, with the types that take them.  No group has the pattern.

* `get?_keyword`: the schema of a field has a keyword if and only if its type takes it.
* `Lint.mem_constraints`: the issues of a model's constraints are those of its fields.
* `Lint.ignored_mem_iff`: what the lint says to be ignored.
* `Lint.reported_rejected`: what could not be read is reported.
* `Lint.kept_or_reported`: a constraint is in the schema or reported, but for a pattern.
* `Lint.dropped_pattern`: a pattern that is neither.
-/

namespace Schemata

open Lint (Aspect Issue Place)

/-! ## 1. Keywords -/

/-- The keywords that only some types take. -/
inductive Keyword
  | maxLength | minLength | pattern | minimum | maximum | items
  deriving DecidableEq, Repr

namespace Keyword

/-- The known key of a keyword. -/
def key : Keyword → ConstraintKey
  | maxLength => .maxLength
  | minLength => .minLength
  | pattern => .pattern
  | minimum => .minimum
  | maximum => .maximum
  | items => .items

/-- What constraints give for a keyword. -/
def value? (c : Constraints) : Keyword → Option Value
  | maxLength => c.maxLength.map .int
  | minLength => c.minLength.map .int
  | pattern => c.pattern.map .str
  | minimum => c.minimum.map Number.toValue
  | maximum => c.maximum.map Number.toValue
  | items => c.items.map .obj

/-- Whether a type takes a keyword. -/
def isTakenBy (t : FieldType) : Keyword → Bool
  | maxLength | minLength | pattern => t.isText
  | minimum | maximum => t.isNumeric
  | items => t = .array

/-- The group of keywords under which the lint looks at one. -/
def aspect? : Keyword → Option Aspect
  | maxLength | minLength => some .lengths
  | minimum | maximum => some .bounds
  | items => some .items
  | pattern => none

theorem exists_iff {P : Keyword → Prop} :
    (∃ k, P k) ↔
      P maxLength ∨ P minLength ∨ P pattern ∨ P minimum ∨ P maximum ∨ P items := by
  constructor
  · rintro ⟨k, hk⟩
    cases k <;> simp [hk]
  · rintro (h | h | h | h | h | h) <;> exact ⟨_, h⟩

theorem aspect?_eq_none {k : Keyword} : k.aspect? = none ↔ k = .pattern := by
  cases k <;> decide

end Keyword

theorem FieldType.isText_eq_false {t : FieldType} :
    t.isText = false ↔ t ≠ .string ∧ t ≠ .text := by
  cases t <;> decide

/-- **The schema of a field has a keyword** if its constraints give it and its type takes it. -/
theorem get?_keyword (f : Field) (k : Keyword) :
    (JsonSchema.property f).get? k.key.wireName
      = if k.isTakenBy f.kind then k.value? f.rules else none := by
  rw [Convert.property_eq, Value.get?_obj]
  have hlimits : (Convert.propertyEntries f).lookup k.key.wireName
      = (JsonSchema.limits f).lookup k.key.wireName := by
    cases k <;>
      simp [Convert.propertyEntries, List.lookup_append, List.lookup_cons, Convert.lookup_ofEntry,
        Keyword.key, ConstraintKey.wireName]
  rw [hlimits, JsonSchema.limits]
  cases f.kind <;> cases k <;>
    simp [List.lookup_append, Convert.lookup_ofEntry, Keyword.key, ConstraintKey.wireName,
      Keyword.isTakenBy, Keyword.value?, FieldType.isText, FieldType.isNumeric]

namespace Lint

/-- A keyword that the constraints of a field give and its type does not take, of a group that the
lint looks at. -/
def Ignores (f : Field) (a : Aspect) : Prop :=
  ∃ k : Keyword, k.aspect? = some a ∧ k.value? f.rules ≠ none ∧ k.isTakenBy f.kind = false

/-! ## 2. Issues of a field -/

@[simp] theorem mem_when {condition : Bool} {i issue : Issue} :
    i ∈ when condition issue ↔ condition = true ∧ i = issue := by
  cases condition <;> simp [when]

theorem mem_reversed {α : Type} {least most : Option α} {gt : α → α → Bool} {issue : α → α → Issue}
    {i : Issue} (h : i ∈ reversed least most gt issue) : ∃ a b, i = issue a b := by
  unfold reversed at h
  split at h
  · exact ⟨_, _, (mem_when.mp h).2⟩
  · cases h

theorem mem_patternIssues {p : Place} {pattern : Option String} {patterns : List Issue}
    (hpatterns : patternIssues p pattern = .ok patterns) {i : Issue} (h : i ∈ patterns) :
    ∃ text fault, i = .badPattern p text fault := by
  unfold patternIssues at hpatterns
  split at hpatterns
  · cases hpatterns
    cases h
  · split at hpatterns
    · cases hpatterns
      cases h
    · cases hpatterns
      exact ⟨_, _, List.mem_singleton.mp h⟩
    · cases hpatterns

theorem mem_mismatches {p : Place} {f : Field} {c : Constraints} (hc : f.constraints = some c)
    {a : Aspect} {q : Place} {t : String} :
    .ignored a q t ∈ mismatches p f c ↔ q = p ∧ t = f.type ∧ Ignores f a := by
  have hrules : f.rules = c := by rw [Field.rules, hc, Option.getD_some]
  rw [Ignores, Keyword.exists_iff, hrules]
  cases a <;>
    simp [mismatches, Keyword.aspect?, Keyword.value?, Keyword.isTakenBy,
      FieldType.isText_eq_false, Option.isSome_iff_ne_none] <;>
    grind

/-- **What the lint says to be ignored** of a field's constraints. -/
theorem ignored_mem_constraintsOf {p : Place} {f : Field} {c : Constraints} {here : List Issue}
    (hc : f.constraints = some c) (h : constraintsOf p f c = .ok here) {a : Aspect} {q : Place}
    {t : String} : .ignored a q t ∈ here ↔ q = p ∧ t = f.type ∧ Ignores f a := by
  obtain ⟨patterns, hpatterns, hhere⟩ := bind_eq_ok.mp h
  cases hhere
  rw [← mem_mismatches hc]
  constructor
  · intro hmem
    simp only [List.mem_append, List.mem_map, mem_when] at hmem
    obtain ((((⟨_, -, hi⟩ | hi) | hi) | hi) | hi) | ⟨-, hi⟩ := hmem
    · cases hi
    · exact hi
    · obtain ⟨_, _, hi⟩ := mem_reversed hi
      cases hi
    · obtain ⟨_, _, hi⟩ := mem_reversed hi
      cases hi
    · obtain ⟨_, _, hi⟩ := mem_patternIssues hpatterns hi
      cases hi
    · cases hi
  · intro hmem
    simp [hmem]

/-- What could not be read of a field's constraints is among its issues. -/
theorem unreadable_mem_constraintsOf {p : Place} {f : Field} {c : Constraints} {here : List Issue}
    (h : constraintsOf p f c = .ok here) {name : String} (hname : name ∈ c.rejected) :
    .unreadableConstraint p name ∈ here := by
  obtain ⟨patterns, -, hhere⟩ := bind_eq_ok.mp h
  cases hhere
  simp [hname]

/-! ## 3. Issues of a model -/

theorem constraintsOfFields_cons {entity : String} {f : Field} {rest : List Field}
    {issues : List Issue} (h : constraintsOfFields entity (f :: rest) = .ok issues) :
    ∃ here later, f.constraints.elim (.ok []) (constraintsOf ⟨entity, f.name⟩ f) = .ok here ∧
      constraintsOfFields entity rest = .ok later ∧ here ++ later = issues := by
  rw [constraintsOfFields] at h
  cases hc : f.constraints
  all_goals
    rw [hc] at h
    obtain ⟨here, hhere, h⟩ := bind_eq_ok.mp h
    obtain ⟨later, hlater, h⟩ := bind_eq_ok.mp h
    cases h
    exact ⟨here, later, hhere, hlater, rfl⟩

theorem mem_constraintsOfFields {entity : String} {i : Issue} : ∀ {fs : List Field}
    {issues : List Issue}, constraintsOfFields entity fs = .ok issues →
    (i ∈ issues ↔ ∃ f ∈ fs, ∃ c here, f.constraints = some c ∧
      constraintsOf ⟨entity, f.name⟩ f c = .ok here ∧ i ∈ here)
  | [], issues, h => by
    cases h
    simp
  | f :: rest, issues, h => by
    obtain ⟨here, later, hhere, hlater, rfl⟩ := constraintsOfFields_cons h
    rw [List.mem_append, mem_constraintsOfFields hlater, List.exists_mem_cons_iff]
    refine or_congr_left ?_
    cases hc : f.constraints with
    | none =>
      rw [hc] at hhere
      cases hhere
      simp
    | some c =>
      rw [hc, Option.elim_some] at hhere
      simp [hhere]

theorem mem_constraintsOfEntities {i : Issue} : ∀ {es : List Entity} {issues : List Issue},
    constraintsOfEntities es = .ok issues →
    (i ∈ issues ↔ ∃ e ∈ es, ∃ f ∈ e.fields, ∃ c here, f.constraints = some c ∧
      constraintsOf ⟨e.name, f.name⟩ f c = .ok here ∧ i ∈ here)
  | [], issues, h => by
    cases h
    simp
  | e :: rest, issues, h => by
    rw [constraintsOfEntities] at h
    obtain ⟨here, hhere, h⟩ := bind_eq_ok.mp h
    obtain ⟨later, hlater, h⟩ := bind_eq_ok.mp h
    cases h
    rw [List.mem_append, mem_constraintsOfFields hhere, mem_constraintsOfEntities hlater,
      List.exists_mem_cons_iff]

theorem mem_constraints {m : Model} {issues : List Issue} (h : constraints m = .ok issues)
    {i : Issue} :
    i ∈ issues ↔ ∃ e ∈ m.entities, ∃ f ∈ e.fields, ∃ c here, f.constraints = some c ∧
      constraintsOf ⟨e.name, f.name⟩ f c = .ok here ∧ i ∈ here :=
  mem_constraintsOfEntities h

/-- The issues of every field with constraints are made. -/
theorem exists_constraintsOf {m : Model} {issues : List Issue} (h : constraints m = .ok issues)
    {e : Entity} (he : e ∈ m.entities) {f : Field} (hf : f ∈ e.fields) {c : Constraints}
    (hc : f.constraints = some c) : ∃ here, constraintsOf ⟨e.name, f.name⟩ f c = .ok here := by
  have hlimit : m.limit? = none := by
    rw [Model.limit?, ← fault?_constraintsOfEntities, fault?_eq_none]
    exact ⟨issues, h⟩
  rw [← fault?_eq_none, fault?_constraintsOf]
  have hfield := Model.limit?_eq_none.mp hlimit e he f hf
  rwa [Field.limit?, Field.rules, hc, Option.getD_some] at hfield

/-- **What the lint says to be ignored** of a model's constraints. -/
theorem ignored_mem_iff {m : Model} {issues : List Issue} (h : constraints m = .ok issues)
    {a : Aspect} {p : Place} {t : String} :
    .ignored a p t ∈ issues ↔ ∃ e ∈ m.entities, ∃ f ∈ e.fields,
      ⟨e.name, f.name⟩ = p ∧ f.type = t ∧ Ignores f a := by
  rw [mem_constraints h]
  constructor
  · rintro ⟨e, he, f, hf, c, here, hc, hhere, hmem⟩
    obtain ⟨rfl, rfl, hignores⟩ := (ignored_mem_constraintsOf hc hhere).mp hmem
    exact ⟨e, he, f, hf, rfl, rfl, hignores⟩
  · rintro ⟨e, he, f, hf, rfl, rfl, hignores⟩
    cases hc : f.constraints with
    | none =>
      obtain ⟨k, -, hv, -⟩ := hignores
      rw [Field.rules, hc] at hv
      exact absurd (by cases k <;> rfl) hv
    | some c =>
      obtain ⟨here, hhere⟩ := exists_constraintsOf h he hf hc
      exact ⟨e, he, f, hf, c, here, hc, hhere,
        (ignored_mem_constraintsOf hc hhere).mpr ⟨rfl, rfl, hignores⟩⟩

/-! ## 4. Findings -/

theorem Place.context_inj {p q : Place} : p.context = q.context ↔ p = q := by
  cases p
  cases q
  simp [Place.context]

/-- A warning of a code about some data is among the findings of issues. -/
def Warns (issues : List Issue) (code : String) (context : Entries String Value) : Prop :=
  ∃ g ∈ findings issues, g.severity = .warning ∧ g.code = code ∧ g.context = context

theorem warns_mismatch_iff {issues : List Issue} {p : Place} :
    Warns issues "CONSTRAINT_TYPE_MISMATCH" p.context ↔ ∃ a t, .ignored a p t ∈ issues := by
  constructor
  · rintro ⟨g, hg, -, hcode, hcontext⟩
    obtain ⟨i, hi, rfl⟩ := List.mem_map.mp hg
    cases i with
    | ignored a q t =>
      rw [Place.context_inj.mp hcontext] at hi
      exact ⟨a, t, hi⟩
    | _ => simp [Issue.finding, Issue.code] at hcode
  · rintro ⟨a, t, hi⟩
    exact ⟨_, List.mem_map_of_mem hi, rfl, rfl, rfl⟩

/-- Something in a place is given and ignored, in a group that the lint looks at. -/
def IgnoresAt (m : Model) (p : Place) : Prop :=
  ∃ e ∈ m.entities, ∃ f ∈ e.fields, ⟨e.name, f.name⟩ = p ∧ ∃ a, Ignores f a

theorem warns_mismatch_iff_ignoresAt {m : Model} {issues : List Issue}
    (h : constraints m = .ok issues) {p : Place} :
    Warns issues "CONSTRAINT_TYPE_MISMATCH" p.context ↔ IgnoresAt m p := by
  simp only [warns_mismatch_iff, ignored_mem_iff h, IgnoresAt]
  constructor
  · rintro ⟨a, t, e, he, f, hf, hp, -, hignores⟩
    exact ⟨e, he, f, hf, hp, a, hignores⟩
  · rintro ⟨e, he, f, hf, hp, a, hignores⟩
    exact ⟨a, f.type, e, he, f, hf, hp, rfl, hignores⟩

theorem optional_eq_ok_none {α : Type} {read : Value → Checked α} {v : Value} :
    Coercion.optional read v = .ok none ↔ v = .null := by
  unfold Coercion.optional
  split
  · simp
  · rename_i hnull
    cases read v <;> simpa [Checked.map] using hnull

/-- A known key gives nothing for null, a default aside, and for what cannot be read. -/
theorem coerce_ne_ok {k : ConstraintKey} {v : Value} (hnull : v ≠ .null)
    (hnone : (k.coerce v).toOption.join = none) : ∀ a, k.coerce v ≠ .ok a := by
  rintro a ha
  rw [ha] at hnone
  obtain rfl : a = none := hnone
  cases k with
  | default => cases ha
  | primary | unique | autoIncrement | maxLength | minLength | minimum | maximum | choices | pattern
  | items => exact hnull (optional_eq_ok_none.mp ha)

/-- **What could not be read is reported**, whatever else is given. -/
theorem reported_rejected {m : Model} {issues : List Issue} (h : constraints m = .ok issues)
    {e : Entity} (he : e ∈ m.entities) {f : Field} (hf : f ∈ e.fields)
    {given : List (Scalar × Value)} {c : Constraints} (hc : f.constraints = some c)
    (hread : Constraints.read (.map given) = .ok c) {k : ConstraintKey} {v : Value}
    (hv : Constraints.supplied? given k = some v) (hnull : v ≠ .null)
    (hnone : c.accessor k = none) :
    Warns issues "INVALID_CONSTRAINT_VALUE"
      (Place.context ⟨e.name, f.name⟩ ++ [("constraint", .str k.wireName)]) := by
  obtain ⟨_, hgiven, -, hentries⟩ := Constraints.read_eq_ok.mp hread
  cases hgiven
  have hrejected : k.wireName ∈ c.rejected := by
    rw [hentries, Constraints.accessor_ofEntries, Constraints.part?, hv] at hnone
    rw [hentries]
    exact Constraints.mem_rejectedNames.mpr ⟨k, v, rfl, hv, coerce_ne_ok hnull hnone⟩
  obtain ⟨here, hhere⟩ := exists_constraintsOf h he hf hc
  have hissue : .unreadableConstraint ⟨e.name, f.name⟩ k.wireName ∈ issues :=
    (mem_constraints h).mpr
      ⟨e, he, f, hf, c, here, hc, hhere, unreadable_mem_constraintsOf hhere hrejected⟩
  exact ⟨_, List.mem_map_of_mem hissue, rfl, rfl, rfl⟩

/-- **Constraints are kept or reported, but for patterns.**  The lint of a model's constraints ends
if no pattern is beyond a limit.  Then what the constraints of a field give for a keyword that only
some types take is in the schema of the field, or a warning says that something of the field is
ignored, unless it is the pattern of a field that is no text and nothing else in the field's place
is ignored.  And every known key that is given something other than null and gives nothing is
reported. -/
theorem kept_or_reported (m : Model) :
    ((∃ issues, constraints m = .ok issues) ↔ m.limit? = none) ∧
    ∀ issues, constraints m = .ok issues → ∀ e ∈ m.entities, ∀ f ∈ e.fields,
      (∀ (k : Keyword) (v : Value), k.value? f.rules = some v →
        ((JsonSchema.property f).get? k.key.wireName = some v ∨
            Warns issues "CONSTRAINT_TYPE_MISMATCH" (Place.context ⟨e.name, f.name⟩) ↔
          (k = .pattern → f.kind.isText = true ∨ IgnoresAt m ⟨e.name, f.name⟩))) ∧
      ∀ (given : List (Scalar × Value)) (c : Constraints), f.constraints = some c →
        Constraints.read (.map given) = .ok c → ∀ (k : ConstraintKey) (v : Value),
        Constraints.supplied? given k = some v → v ≠ .null → c.accessor k = none →
          Warns issues "INVALID_CONSTRAINT_VALUE"
            (Place.context ⟨e.name, f.name⟩ ++ [("constraint", .str k.wireName)]) := by
  constructor
  · rw [← fault?_eq_none, constraints, fault?_constraintsOfEntities]
    rfl
  · intro issues h e he f hf
    constructor
    · intro k v hv
      have hkept : (JsonSchema.property f).get? k.key.wireName = some v ↔ k.isTakenBy f.kind := by
        rw [get?_keyword, hv]
        simp
      rw [hkept, warns_mismatch_iff_ignoresAt h]
      by_cases hk : k = .pattern
      · subst hk
        simp [Keyword.isTakenBy]
      · -- A keyword of a group is ignored in the place of its own field if it is not taken.
        obtain ⟨a, ha⟩ := Option.ne_none_iff_exists'.mp (mt Keyword.aspect?_eq_none.mp hk)
        refine iff_of_true ?_ fun hpattern => absurd hpattern hk
        cases htaken : k.isTakenBy f.kind with
        | true => exact .inl rfl
        | false => exact .inr ⟨e, he, f, hf, rfl, a, k, ha, by simp [hv], htaken⟩
    · intro given c hc hread k v hv hnull hnone
      exact reported_rejected h he hf hc hread hv hnull hnone

/-- A user whose identifier, an integer, is under some constraints. -/
def numberedUser (given : Entries String Value) : Value :=
  .obj [("entities", .list [.obj [("name", .str "user"), ("fields", .list [.obj
    [("name", .str "id"), ("type", .str "int"), ("constraints", .obj given)]])]])]

/-- The field of `numberedUser`. -/
def idField (given : Entries String Value) : Field :=
  ⟨"id", "int", false, none, some (.ofEntries (Value.textMembers given))⟩

/-- The normal form of `numberedUser`. -/
def numberedModel (given : Entries String Value) : Model :=
  .of [⟨"user", "users", some "", [idField given]⟩] []

/-- A length of an integer and a bound that is a word: one is ignored, the other cannot be read, and
both are reported. -/
theorem kept_or_reported_length :
    ∃ given issues, Model.normalize (numberedUser given) = .ok (numberedModel given) ∧
      constraints (numberedModel given) = .ok issues ∧
      Entries.keys given = ["maxLength", "minimum"] ∧
      Warns issues "CONSTRAINT_TYPE_MISMATCH" (Place.context ⟨"user", "id"⟩) ∧
      Warns issues "INVALID_CONSTRAINT_VALUE"
        (Place.context ⟨"user", "id"⟩ ++ [("constraint", .str "minimum")]) := by
  let given : Entries String Value := [("maxLength", .int 3), ("minimum", .str "low")]
  obtain ⟨hends, hreported⟩ := kept_or_reported (numberedModel given)
  obtain ⟨issues, hissues⟩ := hends.mpr rfl
  obtain ⟨hkept, hrejected⟩ := hreported issues hissues _ List.mem_cons_self _ List.mem_cons_self
  refine ⟨given, issues, rfl, hissues, rfl, ?_, ?_⟩
  · refine ((hkept .maxLength (.int 3) rfl).mpr nofun).resolve_left fun h => ?_
    rw [get?_keyword, if_neg (by decide)] at h
    cases h
  · exact hrejected _ _ rfl (Constraints.read_obj given) .minimum (.str "low") rfl nofun
      (by decide +kernel)

/-- The pattern of an integer is neither kept nor reported. -/
theorem dropped_pattern :
    ∃ given, Model.normalize (numberedUser given) = .ok (numberedModel given) ∧
      constraints (numberedModel given) = .ok [] ∧
      Keyword.pattern.value? (idField given).rules = some (.str "^[0-9]+$") ∧
      (JsonSchema.property (idField given)).get? "pattern" = none ∧
      ¬ Warns [] "CONSTRAINT_TYPE_MISMATCH" (Place.context ⟨"user", "id"⟩) := by
  obtain ⟨issues, hissues, hnone⟩ := any_toOption.mp
    (show (constraints (numberedModel [("pattern", .str "^[0-9]+$")])).toOption.any
      (fun issues => issues.length = 0) = true by decide +kernel)
  obtain rfl := List.eq_nil_of_length_eq_zero hnone
  exact ⟨[("pattern", .str "^[0-9]+$")], rfl, hissues, rfl, get?_keyword _ .pattern, nofun⟩

end Lint

end Schemata
