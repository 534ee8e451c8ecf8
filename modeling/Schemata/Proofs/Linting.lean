import Schemata.Proofs.Outcome
import Schemata.Proofs.Tasks
/-!
# The lint beside generation

The lint runs before the documents are made and its findings go into the report alone.  One thing
stops it, and generation with it: a pattern beyond a limit, which is no finding.

* `fault?_everything`: the lint stops at the first field with such a pattern, and nowhere else.
* `lint_stops_iff`: generation with the lint stops exactly there, and gives the bundle that it gives
  without the lint, but for what the report says of it, everywhere else.
-/

namespace Schemata

/-! ## 1. Where the lint stops -/

/-- The limit that a pattern is beyond. -/
def Pattern.limit? (pattern : String) : Option Pattern.Limit :=
  match Pattern.verdict pattern with
  | .beyond limit => some limit
  | _ => none

/-- The limit that the pattern of a field is beyond. -/
def Field.limit? (f : Field) : Option Pattern.Limit := f.rules.pattern.bind Pattern.limit?

/-- The limit that the first pattern beyond one is beyond. -/
def Model.limit? (m : Model) : Option Pattern.Limit :=
  m.entities.findSome? fun e => e.fields.findSome? Field.limit?

theorem Model.limit?_eq_none {m : Model} :
    m.limit? = none ↔ ∀ e ∈ m.entities, ∀ f ∈ e.fields, f.limit? = none := by
  simp only [Model.limit?, List.findSome?_eq_none_iff]

namespace Lint

theorem fault?_patternIssues (p : Place) (pattern : Option String) :
    fault? (patternIssues p pattern) = pattern.bind Pattern.limit? := by
  cases pattern with
  | none => rfl
  | some text =>
    rw [Option.bind_some, Pattern.limit?, patternIssues]
    cases Pattern.verdict text <;> rfl

theorem fault?_constraintsOf (p : Place) (f : Field) (c : Constraints) :
    fault? (constraintsOf p f c) = c.pattern.bind Pattern.limit? := by
  rw [constraintsOf, fault?_bind_pure, fault?_patternIssues]

theorem fault?_constraintsOfFields (entity : String) : ∀ fs : List Field,
    fault? (constraintsOfFields entity fs) = fs.findSome? Field.limit?
  | [] => rfl
  | f :: rest => by
    have hrest : ∀ here : List Issue,
        fault? (constraintsOfFields entity rest >>= fun later => pure (here ++ later))
          = rest.findSome? Field.limit? := fun here => by
      rw [fault?_bind_pure, fault?_constraintsOfFields entity rest]
    rw [constraintsOfFields, findSome?_cons_eq_or, Field.limit?, Field.rules]
    cases f.constraints with
    | none => exact hrest []
    | some c =>
      rw [Option.getD_some, ← fault?_constraintsOf ⟨entity, f.name⟩ f c]
      exact fault?_bind fun here _ => hrest here

theorem fault?_constraintsOfEntities : ∀ es : List Entity,
    fault? (constraintsOfEntities es) = es.findSome? fun e => e.fields.findSome? Field.limit?
  | [] => rfl
  | e :: rest => by
    rw [constraintsOfEntities, findSome?_cons_eq_or, ← fault?_constraintsOfFields e.name,
      ← fault?_constraintsOfEntities rest]
    refine fault?_bind fun here _ => ?_
    rw [fault?_bind_pure]

/-- **The lint stops at the first pattern beyond a limit**, and nowhere else. -/
theorem fault?_everything (m : Model) (config : Config) :
    fault? (everything m config) = m.limit? := by
  have hmodel : fault? (model m) = m.limit? := by
    rw [model, fault?_bind_pure]
    exact fault?_constraintsOfEntities m.entities
  rw [everything, fault?_bind_pure, hmodel]

end Lint

/-! ## 2. Bundles with and without the lint -/

namespace Bundle

/-- Two bundles of the same documents, with the same failures. -/
structure Alike (b b' : Bundle) : Prop where
  artifacts : ∀ a, b.artifact? a = b'.artifact? a
  failures : b.report.failures = b'.report.failures
  success : b.report.success = b'.report.success

/-- Findings go into the report alone. -/
theorem alike_ofTasks (source : String) (m : Model) (findings findings' : Option Findings)
    (tasks : List Task) :
    Alike (ofTasks source m findings tasks) (ofTasks source m findings' tasks) where
  artifacts a := by cases a <;> rfl
  failures := rfl
  success := rfl

variable (config : Config) (clock : Clock) (source : String) {raw : Value} {m : Model}
  {order : List Artifact}

theorem generateIn_plain (hm : Model.normalize raw = .ok m) (h : ∀ a, a ∈ order) :
    generateIn order config clock false source raw
      = .ok (ofTasks source m none (Task.run config clock m Artifact.all)) := by
  rw [generateIn, hm]
  exact congrArg Except.ok (ofTasks_run config clock m source none h)

theorem generateIn_lint (hm : Model.normalize raw = .ok m) (h : ∀ a, a ∈ order) :
    generateIn order config clock true source raw
      = (Lint.everything m config).map fun issues =>
          ofTasks source m (some (Lint.findings issues))
            (Task.run config clock m Artifact.all) := by
  simp only [generateIn, hm, ↓reduceIte]
  cases Lint.everything m config with
  | error limit => rfl
  | ok issues => exact congrArg Except.ok (ofTasks_run config clock m source _ h)

/-- With the lint, generation stops where the lint does. -/
theorem fault?_generateIn (hm : Model.normalize raw = .ok m) (h : ∀ a, a ∈ order) :
    fault? (generateIn order config clock true source raw) = m.limit? := by
  rw [generateIn_lint config clock source hm h, fault?_map, Lint.fault?_everything]

/-- Where it does not stop, the findings change no document and no failure. -/
theorem alike_of_generateIn (hm : Model.normalize raw = .ok m) (h : ∀ a, a ∈ order)
    {linted : Bundle} (hl : generateIn order config clock true source raw = .ok linted) :
    Alike linted (ofTasks source m none (Task.run config clock m Artifact.all)) := by
  rw [generateIn_lint config clock source hm h] at hl
  cases heverything : Lint.everything m config with
  | error limit =>
    rw [heverything] at hl
    cases hl
  | ok issues =>
    rw [heverything] at hl
    cases hl
    exact alike_ofTasks source m _ none _

/-- **When the lint blocks generation.**  Without the lint a normalized model gives a bundle,
whatever the order in which the tasks end.  With it generation stops if and only if a pattern is
beyond a limit, at the first that is; otherwise it gives the same documents and the same failures,
whatever the findings. -/
theorem lint_stops_iff (hm : Model.normalize raw = .ok m) {order' : List Artifact}
    (h : ∀ a, a ∈ order) (h' : ∀ a, a ∈ order') :
    ∃ plain, generateIn order config clock false source raw = .ok plain ∧
      ((∃ linted, generateIn order' config clock true source raw = .ok linted ∧
          Alike linted plain) ↔ ∀ e ∈ m.entities, ∀ f ∈ e.fields, f.limit? = none) ∧
      (∀ linted, generateIn order' config clock true source raw = .ok linted →
        Alike linted plain) ∧
      ∀ limit, generateIn order' config clock true source raw = .error limit ↔
        m.limit? = some limit := by
  have hfault := fault?_generateIn config clock source hm h'
  refine ⟨_, generateIn_plain config clock source hm h, ?_,
    fun _ => alike_of_generateIn config clock source hm h', ?_⟩
  · rw [← Model.limit?_eq_none, ← hfault, fault?_eq_none]
    constructor
    · rintro ⟨linted, hl, -⟩
      exact ⟨linted, hl⟩
    · rintro ⟨linted, hl⟩
      exact ⟨linted, hl, alike_of_generateIn config clock source hm h' hl⟩
  · intro limit
    rw [← hfault, fault?_eq_some]

/-- A model of one field, with a pattern. -/
def patterned (pattern : String) : Value :=
  .obj [("entities", .list [.obj [("name", .str "user"), ("fields", .list [.obj
    [("name", .str "code"), ("type", .str "string"),
      ("constraints", .obj [("pattern", .str pattern)])]])]])]

/-- A pattern that does not compile is a finding. -/
theorem lint_stops_iff_openGroup :
    ∃ plain linted, generateIn Artifact.all {} .standard false "" (patterned "(") = .ok plain ∧
      generateIn Artifact.all.reverse {} .standard true "" (patterned "(") = .ok linted ∧
      Alike linted plain ∧ linted.report.lintErrors.length = 1 := by
  obtain ⟨m, hm, -⟩ := any_toOption.mp
    (show (Model.normalize (patterned "(")).toOption.any (fun _ => True) = true by decide +kernel)
  obtain ⟨linted, hl, herrors⟩ := any_toOption.mp
    (show (generateIn Artifact.all.reverse {} .standard true "" (patterned "(")).toOption.any
      (fun b => b.report.lintErrors.length = 1) = true by decide +kernel)
  obtain ⟨plain, hp, -, halike, -⟩ := lint_stops_iff {} .standard "" hm
    (fun a => (by cases a <;> decide : a ∈ Artifact.all))
    (fun a => (by cases a <;> decide : a ∈ Artifact.all.reverse))
  exact ⟨plain, linted, hp, hl, halike linted hl, herrors⟩

/-- A pattern that repeats too often to be compiled is no finding: it takes away three documents
that can be made. -/
theorem lint_stops_vast_repetition :
    ∃ m plain, Model.normalize (patterned "a\x7b4294967295\x7d") = .ok m ∧
      generate {} .standard false "" (patterned "a\x7b4294967295\x7d") = .ok plain ∧
      plain.report.success = true ∧
      generate {} .standard true "" (patterned "a\x7b4294967295\x7d") = .error .repetition := by
  obtain ⟨m, hm, -⟩ := any_toOption.mp
    (show (Model.normalize (patterned "a\x7b4294967295\x7d")).toOption.any (fun _ => True) = true
      by decide +kernel)
  obtain ⟨plain, hp, hsuccess⟩ := any_toOption.mp
    (show (generate {} .standard false "" (patterned "a\x7b4294967295\x7d")).toOption.any
      (fun b => b.report.success = true) = true by decide +kernel)
  have hfault : fault? (generate {} .standard true "" (patterned "a\x7b4294967295\x7d"))
      = some .repetition := by decide +kernel
  exact ⟨m, plain, hm, hp, hsuccess, fault?_eq_some.mp hfault⟩

end Bundle

end Schemata
