import Mathlib.Data.List.Perm.Basic
import Schemata.Generation.Pool
import Schemata.Proofs.Entries
import Schemata.Proofs.Outcome
import Schemata.Proofs.Tasks
/-!
# Bundles made by a pool

Whatever the workers of a pool do first, the bundle they leave is the one that is left when the
tasks are done one after the other, and its report tells of every document that is missing.  The one
exception is a clock that refuses: it names a stage itself, and that stage alone is reported.

* `Artifact.stage_of_make`: a document that cannot be made fails at its own stage.
* `Bundle.consistent_sequential`: what a report says of the tasks is so, and nothing is left out.
* `Bundle.failures_refusing`: of a clock that refuses, one failure is reported for three documents.
* `Pool.sound_of_step`, `Pool.sound_of_reaches`: no event of a pool loses a task or changes what
  comes of one.
* `Pool.progress`, `Pool.work_of_step`: a pool with a worker goes on until nothing is left to be
  done, and it ends.
* `Pool.reaches_run`: with a worker for every task, the tasks may end in any order.
-/

namespace Schemata

/-! ## 1. Where a document fails -/

/-- Whether a clock leaves it to the documents to say at which stage they fail. -/
def Clock.IsPlain : Clock → Prop
  | .at _ | .broken _ => True
  | .refusing _ => False

theorem Clock.stage_failure {clock : Clock} (hclock : clock.IsPlain) {fault : Clock.Fault}
    (h : clock.stamp = .error fault) (stage : Stage) : (fault.failure stage).stage = stage := by
  unfold stamp at h
  split at h
  · split at h
    · cases h
    · obtain rfl := Except.error.inj h
      simp only [Fault.failure]
  · obtain rfl := Except.error.inj h
    simp only [Fault.failure]
  · exact hclock.elim

/-- A description that cannot be made fails at its own stage, under a clock that names none. -/
theorem OpenApi.stage_of_build {config : Config} {clock : Clock} (hclock : clock.IsPlain)
    (m : Model) : ∀ fault, build config clock m = .error fault → fault.failure.stage = .api := by
  refine forall_error_bind (fun fault h => ?_) fun stamp =>
    forall_error_bind (forall_error_mapError fun _ => rfl) fun urls =>
    forall_error_bind (forall_error_mapError fun _ => rfl) nofun
  cases hstamp : clock.stamp with
  | ok stamp =>
    rw [hstamp] at h
    cases h
  | error fault' =>
    rw [hstamp] at h
    cases h
    exact Clock.stage_failure hclock hstamp .api

namespace Artifact

/-- **A document that cannot be made fails at its own stage**, under a clock that names none. -/
theorem stage_of_make {config : Config} {clock : Clock} (hclock : clock.IsPlain) {m : Model}
    {a : Artifact} {f : Failure} (h : a.make config clock m = .error f) : f.stage = a.stage := by
  cases a with
  | schema =>
    simp only [make, JsonSchema.document] at h
    split at h
    · cases h
    · rename_i hstamp
      cases h
      exact Clock.stage_failure hclock hstamp .schema
  | api =>
    simp only [make, OpenApi.generate] at h
    cases hbuild : OpenApi.build config clock m with
    | error fault =>
      rw [hbuild] at h
      cases h
      exact OpenApi.stage_of_build hclock m fault hbuild
    | ok api =>
      rw [hbuild] at h
      cases h
  | diagrams =>
    simp only [make, Diagram.generate] at h
    split at h
    · rename_i hstamp
      cases h
      exact Clock.stage_failure hclock hstamp .diagram
    · split at h
      · cases h
      · cases h
        rfl

/-- A clock that refuses lets no document be made, and each fails as the clock says. -/
theorem make_refusing (config : Config) (f : Failure) (m : Model) (a : Artifact) :
    a.make config (.refusing f) m = .error f := by
  cases a <;> rfl

/-- The name under which the failure of an artifact is reported. -/
def stageName (a : Artifact) : String := a.stage.name

theorem stageName_injective : Function.Injective stageName := by
  intro a b h
  cases a <;> cases b <;> first | rfl | exact absurd h (by decide)

theorem mem_all (a : Artifact) : a ∈ all := by
  cases a <;> decide

theorem all_nodup : all.Nodup := by decide

/-- Why an artifact cannot be made. -/
def reason? (config : Config) (clock : Clock) (m : Model) (a : Artifact) : Option String :=
  (fault? (a.make config clock m)).map Failure.message

end Artifact

/-! ## 2. Reports on tasks -/

namespace Task

variable (config : Config) {clock : Clock} (hclock : clock.IsPlain) (m : Model)

include hclock

theorem failure?_make (a : Artifact) :
    failure? (a, a.make config clock m)
      = (a.reason? config clock m).map (a.stageName, ·) := by
  unfold Artifact.reason? Artifact.stageName
  cases h : a.make config clock m with
  | ok v => rfl
  | error f =>
    rw [← Artifact.stage_of_make hclock h]
    rfl

/-- The failures that are reported: one for every artifact that cannot be made, in order. -/
theorem failures_run : (run config clock m Artifact.all).filterMap failure?
    = Artifact.all.filterMap fun a => (a.reason? config clock m).map (a.stageName, ·) := by
  rw [run, List.filterMap_map]
  exact List.filterMap_congr fun a _ => failure?_make config hclock m a

end Task

namespace Bundle

/-- What a report says of the tasks of a bundle is so, and nothing is left out.  `before` are the
steps that come before the tasks. -/
structure Consistent (config : Config) (clock : Clock) (m : Model) (before : List Report.Step)
    (b : Bundle) : Prop where
  /-- A document is missing if and only if a failure is reported under its stage. -/
  missing : ∀ a : Artifact, b.artifact? a = none ↔ a.stageName ∈ b.report.failures.keys
  /-- A document that is there is the one that is made of the model alone. -/
  alone : ∀ (a : Artifact) (v : Value), b.artifact? a = some v ↔ a.make config clock m = .ok v
  /-- The failure reported under the stage of a document is the one of making it alone. -/
  reason : ∀ a : Artifact, b.report.failures.lookup a.stageName = a.reason? config clock m
  /-- No other failure is reported, none twice, and they are in order. -/
  only : b.report.failures.keys.Sublist (Artifact.all.map Artifact.stageName)
  /-- The steps of the tasks are in order; each says whether a failure is reported. -/
  steps : b.report.steps = before ++ Artifact.all.map fun a =>
    { name := "Generate " ++ a.title
      success := !Entries.contains a.stageName b.report.failures
      detail := (b.report.failures.lookup a.stageName).getD "ok" }
  success : b.report.success = true ↔ b.report.failures = []

variable (config : Config) (clock : Clock) (m : Model) (source : String)
  (findings : Option Findings)

/-- The steps before the tasks. -/
def stepsBefore (m : Model) (findings : Option Findings) : List Report.Step :=
  normalStep (.ok m) :: findings.toList.map lintStep

/-- The bundle of tasks done one after the other. -/
def sequential : Bundle := ofTasks source m findings (Task.run config clock m Artifact.all)

theorem artifact?_sequential (a : Artifact) :
    (sequential config clock m source findings).artifact? a
      = (a.make config clock m).toOption := by
  rw [← outcome?_run config clock m Artifact.mem_all a]
  cases a <;> rfl

theorem failures_sequential (hclock : clock.IsPlain) :
    (sequential config clock m source findings).report.failures
      = Artifact.all.filterMap fun a => (a.reason? config clock m).map (a.stageName, ·) := by
  simp only [sequential, ofTasks, Task.reported_run config clock m Artifact.mem_all,
    Task.failures_run config hclock m]
  exact Entries.ofList_of_nodup
    (Entries.keys_filterMap_nodup Artifact.stageName_injective _ Artifact.all_nodup)

theorem lookup_failures_sequential (hclock : clock.IsPlain) (a : Artifact) :
    (sequential config clock m source findings).report.failures.lookup a.stageName
      = a.reason? config clock m := by
  rw [failures_sequential config clock m source findings hclock]
  exact Entries.lookup_filterMap Artifact.stageName_injective _ Artifact.all_nodup a.mem_all

theorem step_make (a : Artifact) :
    Task.step (a, a.make config clock m)
      = { name := "Generate " ++ a.title
          success := !(a.reason? config clock m).isSome
          detail := (a.reason? config clock m).getD "ok" } := by
  unfold Artifact.reason? Task.step
  cases a.make config clock m <;> rfl

/-- **Reports are consistent**, under a clock that names no stage itself. -/
theorem consistent_sequential (hclock : clock.IsPlain) :
    Consistent config clock m (stepsBefore m findings)
      (sequential config clock m source findings) := by
  have hlookup := lookup_failures_sequential config clock m source findings hclock
  have hreason : ∀ a : Artifact,
      (a.reason? config clock m).isSome = (a.make config clock m).toOption.isNone := fun a => by
    unfold Artifact.reason?
    cases a.make config clock m <;> rfl
  refine ⟨fun a => ?_, fun a v => ?_, hlookup, ?_, ?_, ?_⟩
  · rw [artifact?_sequential, ← Entries.lookup_isSome_iff, hlookup, hreason,
      Option.isNone_iff_eq_none]
  · rw [artifact?_sequential]
    cases a.make config clock m <;> simp [Except.toOption]
  · rw [failures_sequential config clock m source findings hclock, Entries.keys_filterMap]
    exact List.filter_sublist.map _
  · have hcontains : ∀ a : Artifact, Entries.contains a.stageName
        (sequential config clock m source findings).report.failures
          = (a.reason? config clock m).isSome := fun a => by
      rw [Bool.eq_iff_iff, Entries.contains_iff, ← Entries.lookup_isSome_iff, hlookup]
    simp only [hcontains, hlookup, ← step_make config clock m]
    simp only [sequential, ofTasks, Task.reported_run config clock m Artifact.mem_all]
    rfl
  · exact List.isEmpty_iff

/-- **Of a clock that refuses one failure is reported**, at the stage that it names, though none of
three documents is there. -/
theorem failures_refusing (f : Failure) :
    (sequential config (.refusing f) m source findings).report.failures
      = [(f.stage.name, f.message)] := by
  have hthrice : (Task.run config (.refusing f) m Artifact.all).filterMap Task.failure?
      = List.replicate 3 (f.stage.name, f.message) := by
    simp only [Task.run, Artifact.make_refusing]
    rfl
  simp only [sequential, ofTasks, Task.reported_run config _ m Artifact.mem_all, hthrice]
  simp [Entries.ofList, Entries.put, List.replicate]

/-- Such a report is not consistent: no stage is that of two documents. -/
theorem not_consistent_refusing (f : Failure) (before : List Report.Step) :
    ¬ Consistent config (.refusing f) m before
      (sequential config (.refusing f) m source findings) := by
  intro h
  have hstage : ∀ a : Artifact, a.stageName = f.stage.name := by
    intro a
    have hmissing : (sequential config (.refusing f) m source findings).artifact? a = none := by
      rw [artifact?_sequential, Artifact.make_refusing]
      rfl
    rw [h.missing, failures_refusing] at hmissing
    simpa [Entries.keys] using hmissing
  have hsame : Artifact.schema = Artifact.api :=
    Artifact.stageName_injective ((hstage .schema).trans (hstage .api).symm)
  cases hsame

end Bundle

/-! ## 3. What an event of a pool keeps -/

namespace Pool

variable {config : Config} {clock : Clock} {m : Model} {p q : Pool}

/-- The artifacts whose tasks have ended, in the order in which they did. -/
def order (p : Pool) : List Artifact := p.ended.map Prod.fst

/-- Every task is in one place of the pool, once; what has ended gave what it gives alone; and no
more tasks are being worked at than there are workers. -/
structure Sound (config : Config) (clock : Clock) (m : Model) (p : Pool) : Prop where
  tasks : (p.order ++ (p.running ++ p.waiting)).Perm Artifact.all
  outcomes : p.ended = Task.run config clock m p.order
  busy : (p.running.length : Int) ≤ max 0 (workers config)

theorem sound_full : Sound config clock m full where
  tasks := List.Perm.refl _
  outcomes := rfl
  busy := Int.le_max_left 0 _

theorem sound_of_step (hs : Step config clock m p q) (h : Sound config clock m p) :
    Sound config clock m q := by
  obtain ⟨htasks, houtcomes, hbusy⟩ := h
  cases hs with
  | @takeUp a waiting running ended free =>
    refine ⟨htasks.symm.trans ?_ |>.symm, houtcomes, ?_⟩
    · exact List.perm_middle.append_left _
    · simp only [List.length_cons]
      omega
  | @finish a waiting running ended at_work =>
    have hrunning : running.Perm (a :: running.erase a) := List.perm_cons_erase at_work
    refine ⟨htasks.symm.trans ?_ |>.symm, ?_, ?_⟩
    · simp only [order, List.map_append, List.map_cons, List.map_nil, List.append_assoc]
      exact (hrunning.append_right waiting).append_left _
    · simp only [order, Task.run] at houtcomes
      simp only [order, Task.run, List.map_append, List.map_cons, List.map_nil]
      rw [← houtcomes]
    · have hlength := hrunning.length_eq
      simp only [List.length_cons] at hlength hbusy ⊢
      omega

/-- **No run of a pool loses a task**, and what has ended gave what it gives alone. -/
theorem sound_of_reaches (h : Reaches config clock m p) : Sound config clock m p := by
  induction h with
  | refl => exact sound_full
  | tail _ hs ih => exact sound_of_step hs ih

/-- The outcomes that a pool leaves are those of all tasks in some order. -/
theorem Sound.ended_eq (h : Sound config clock m p) (hrest : p.AtRest) :
    p.order.Perm Artifact.all ∧ p.ended = Task.run config clock m p.order := by
  refine ⟨?_, h.outcomes⟩
  have htasks := h.tasks
  rwa [hrest.1, hrest.2, List.append_nil, List.append_nil] at htasks

/-! ## 4. Pools come to rest -/

/-- What is left to be done: a task that waits has to be taken up and ended. -/
def work (p : Pool) : Nat := 2 * p.waiting.length + p.running.length

/-- Every event leaves less to be done. -/
theorem work_of_step (hs : Step config clock m p q) : q.work + 1 = p.work := by
  cases hs with
  | takeUp free =>
    simp only [work, List.length_cons]
    omega
  | @finish a waiting running ended at_work =>
    have hlength := (List.perm_cons_erase at_work).length_eq
    simp only [work, List.length_cons] at hlength ⊢
    omega

/-- **A pool with a worker goes on** until nothing is left to be done. -/
theorem progress (hworkers : 1 ≤ config.maxWorkers) (clock : Clock) (m : Model) (p : Pool) :
    p.AtRest ∨ ∃ q, Step config clock m p q := by
  obtain ⟨waiting, running, ended⟩ := p
  cases running with
  | cons a running => exact Or.inr ⟨_, .finish List.mem_cons_self⟩
  | nil =>
    cases waiting with
    | nil => exact Or.inl ⟨rfl, rfl⟩
    | cons a waiting =>
      have hfree : (([] : List Artifact).length : Int) < workers config := by
        simp only [workers, Artifact.all, List.length_cons, List.length_nil]
        omega
      exact Or.inr ⟨_, .takeUp hfree⟩

/-- Tasks that are being worked at may end in any order. -/
theorem finish_all (config : Config) (clock : Clock) (m : Model) :
    ∀ {order running : List Artifact} {ended : List Task}, running.Perm order →
    Relation.ReflTransGen (Step config clock m) ⟨[], running, ended⟩
      ⟨[], [], ended ++ Task.run config clock m order⟩
  | [], running, ended, h => by
    rw [h.eq_nil, Task.run, List.map_nil, List.append_nil]
  | a :: order, running, ended, h => by
    have hmem : a ∈ running := h.symm.subset List.mem_cons_self
    have hrest : (running.erase a).Perm order := by
      simpa using h.erase a
    have htail : Relation.ReflTransGen (Step config clock m)
        ⟨[], running.erase a, ended ++ [(a, a.make config clock m)]⟩
        ⟨[], [], ended ++ Task.run config clock m (a :: order)⟩ := by
      have hended : ended ++ Task.run config clock m (a :: order)
          = (ended ++ [(a, a.make config clock m)]) ++ Task.run config clock m order := by
        rw [List.append_assoc]
        rfl
      rw [hended]
      exact finish_all config clock m hrest
    exact Relation.ReflTransGen.head (.finish hmem) htail

/-- **Every order is that of some run**, if there is a worker for every task. -/
theorem reaches_run (hworkers : Artifact.all.length ≤ config.maxWorkers) (clock : Clock)
    (m : Model) {order : List Artifact} (h : order.Perm Artifact.all) :
    Reaches config clock m ⟨[], [], Task.run config clock m order⟩ := by
  have hfree : ∀ {k : Nat}, k < Artifact.all.length → (k : Int) < workers config := fun hk => by
    unfold workers
    omega
  have hbusy : Reaches config clock m ⟨[], [.diagrams, .api, .schema], []⟩ :=
    ((Relation.ReflTransGen.refl.tail (.takeUp (hfree (by decide)))).tail
      (.takeUp (hfree (by decide)))).tail (.takeUp (hfree (by decide)))
  have hperm : [Artifact.diagrams, .api, .schema].Perm order :=
    List.Perm.trans (by decide) h.symm
  exact hbusy.trans (finish_all config clock m hperm)

end Pool

/-! ## 5. Bundles -/

theorem Config.readWorkers_eq_ok {v : Value} {n : Int} (h : readWorkers v = .ok n) :
    1 ≤ n ∧ n ≤ 32 := by
  obtain ⟨k, -, hk⟩ := Checked.bind_eq_ok.mp h
  split at hk
  · cases hk
  · split at hk
    · cases hk
    · cases hk
      omega

/-- Settings that are accepted have between 1 and 32 workers. -/
theorem Config.maxWorkers_of_read {v : Value} {config : Config} (h : read v = .ok config) :
    1 ≤ config.maxWorkers ∧ config.maxWorkers ≤ 32 := by
  obtain ⟨es, -, hread⟩ := record_eq_ok.mp h
  obtain ⟨g, n, hg, hn, hconfig⟩ := Checked.and_eq_ok.mp (Checked.withMore_eq_ok.mp hread).1
  have hlast : (g n).maxWorkers = n := by
    -- Every reader before the last only hands on the rest of the constructor.
    clear hconfig
    revert hg
    revert g
    iterate 14 refine Checked.forall_ok_and ?_
    rintro _ ⟨⟩
    intros
    rfl
  rw [← hconfig, hlast]
  rcases optionalField_eq_ok.mp hn with ⟨-, rfl⟩ | ⟨w, -, hw⟩
  · decide
  · exact readWorkers_eq_ok hw

namespace Pool

open Schemata.Bundle (Consistent ofTasks sequential stepsBefore)

/-- **Bundles made by a pool.**  Under any settings that are accepted a pool goes on until nothing
is left to be done.  The bundle it then leaves is the one of tasks done one after the other,
whatever the clock, whichever documents cannot be made, and in whichever order the tasks ended; and
its report is consistent if and only if the clock names no stage at which it fails. -/
theorem bundle_of_pool {settings : Value} {config : Config} {clock : Clock} {m : Model} {p : Pool}
    (hconfig : Config.read settings = .ok config) (h : Reaches config clock m p) (source : String)
    (findings : Option Findings) :
    (p.AtRest ∨ ∃ q, Step config clock m p q) ∧
    (p.AtRest →
      ofTasks source m findings p.ended = sequential config clock m source findings ∧
      (Consistent config clock m (stepsBefore m findings) (ofTasks source m findings p.ended) ↔
        clock.IsPlain)) := by
  refine ⟨progress (Config.maxWorkers_of_read hconfig).1 clock m p, fun hrest => ?_⟩
  obtain ⟨hperm, hended⟩ := (sound_of_reaches h).ended_eq hrest
  have hall : ∀ a, a ∈ p.order := fun a => hperm.symm.subset a.mem_all
  have hsame : ofTasks source m findings p.ended = sequential config clock m source findings := by
    rw [hended, Bundle.ofTasks_run config clock m source findings hall]
    rfl
  refine ⟨hsame, ?_⟩
  rw [hsame]
  refine ⟨fun hconsistent => ?_, Bundle.consistent_sequential config clock m source findings⟩
  cases clock with
  | «at» t => exact trivial
  | broken message => exact trivial
  | refusing f =>
    exact Bundle.not_consistent_refusing config m source findings f _ hconsistent

/-- Settings for two workers, with a URL that cannot be split. -/
def twoWorkers : Value :=
  .obj [("parallel", .bool true), ("max_workers", .int 2),
    ("code_example_base_url", .str "http://[bad")]

/-- A model of one entity without fields. -/
def lone : Model := .of [⟨"user", "users", none, []⟩] []

/-- The interface fails first, while the schema, taken up before it, ends last. -/
theorem bundle_of_pool_twoWorkers :
    ∃ config p, Config.read twoWorkers = .ok config ∧ Reaches config .standard lone p ∧
      p.AtRest ∧ p.order = [.api, .diagrams, .schema] ∧
      (ofTasks "" lone none p.ended).report.failures = [("api", "Invalid IPv6 URL")] ∧
      (ofTasks "" lone none p.ended).artifact? .api = none ∧
      (ofTasks "" lone none p.ended).artifact? .schema ≠ none ∧
      (ofTasks "" lone none p.ended).artifact? .diagrams ≠ none ∧
      (ofTasks "" lone none p.ended).report.success = false := by
  let config : Config := { exampleBaseUrl := "http://[bad", parallel := true, maxWorkers := 2 }
  have hconfig : Config.read twoWorkers = .ok config := rfl
  have hrun : Reaches config .standard lone
      ⟨[], [], Task.run config .standard lone [.api, .diagrams, .schema]⟩ :=
    (((((Relation.ReflTransGen.refl.tail (.takeUp (by decide))).tail
      (.takeUp (by decide))).tail (.finish (a := .api) (by decide))).tail
      (.takeUp (by decide))).tail (.finish (a := .diagrams) (by decide))).tail
      (.finish (a := .schema) (by decide))
  obtain ⟨-, hbundle⟩ := bundle_of_pool hconfig hrun "" none
  obtain ⟨hsame, hplain⟩ := hbundle ⟨rfl, rfl⟩
  have hconsistent := hplain.mpr trivial
  have hfailures : (sequential config .standard lone "" none).report.failures
      = [("api", "Invalid IPv6 URL")] := by decide +kernel
  rw [← hsame] at hfailures
  refine ⟨config, _, hconfig, hrun, ⟨rfl, rfl⟩, rfl, hfailures, ?_, ?_, ?_, ?_⟩
  · rw [hconsistent.missing, hfailures]
    decide
  · rw [Ne, hconsistent.missing, hfailures]
    decide
  · rw [Ne, hconsistent.missing, hfailures]
    decide
  · rw [Bool.eq_false_iff, Ne, hconsistent.success, hfailures]
    decide

/-- A clock that refuses as a conversion does. -/
def refusal : Clock := .refusing ⟨.conversion, "no time"⟩

/-- The bundle that is made with it holds no document, and its report has one failure, which is that
of no document. -/
theorem bundle_of_pool_refusal :
    ∃ p, Config.read (.obj [("parallel", .bool true)]) = .ok { parallel := true } ∧
      Reaches { parallel := true } refusal lone p ∧ p.AtRest ∧
      (∀ a, (ofTasks "" lone none p.ended).artifact? a = none) ∧
      (ofTasks "" lone none p.ended).report.failures = [("conversion", "no time")] ∧
      ∀ a : Artifact, a.stageName ≠ "conversion" := by
  refine ⟨⟨[], [], Task.run { parallel := true } refusal lone Artifact.all⟩, rfl,
    reaches_run (by decide) refusal lone (List.Perm.refl _), ⟨rfl, rfl⟩, ?_, ?_, ?_⟩
  · exact fun a => by cases a <;> rfl
  · exact Bundle.failures_refusing _ lone "" none _
  · exact fun a => by cases a <;> decide

end Pool

end Schemata
