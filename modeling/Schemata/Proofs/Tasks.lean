import Schemata.Generation.Bundle
/-!
# Tasks in any order

The tasks that make the documents of a model are looked up by artifact, so that it does not matter
which of them ends first.

* `Task.lookup_run`: the outcome of an artifact among tasks is that of making it.
* `Bundle.ofTasks_run`: the bundle is that of tasks done one after the other.
-/

namespace Schemata

namespace Task

variable (config : Config) (clock : Clock) (m : Model)

theorem lookup_run (a : Artifact) : ∀ {order : List Artifact}, a ∈ order →
    (run config clock m order).lookup a = some (a.make config clock m)
  | [], h => absurd h List.not_mem_nil
  | b :: order, h => by
    rw [run, List.map_cons, List.lookup_cons]
    cases hab : a == b with
    | true => rw [beq_iff_eq.mp hab]
    | false =>
      have hrest := (List.mem_cons.mp h).resolve_left (beq_eq_false_iff_ne.mp hab)
      exact lookup_run a hrest

/-- Reports list tasks by artifact. -/
theorem reported_run {order : List Artifact} (h : ∀ a, a ∈ order) :
    reported (run config clock m order) = run config clock m Artifact.all := by
  have hlookup := fun a => lookup_run config clock m a (h a)
  simp only [reported, hlookup, Option.map_some]
  rfl

end Task

namespace Bundle

theorem outcome?_run (config : Config) (clock : Clock) (m : Model) {order : List Artifact}
    (h : ∀ a, a ∈ order) (a : Artifact) :
    outcome? (Task.run config clock m order) a = (a.make config clock m).toOption := by
  rw [outcome?, Task.lookup_run config clock m a (h a), Option.bind_some]

/-- **The order of tasks does not matter.** -/
theorem ofTasks_run (config : Config) (clock : Clock) (m : Model) (source : String)
    (findings : Option Findings) {order : List Artifact} (h : ∀ a, a ∈ order) :
    ofTasks source m findings (Task.run config clock m order)
      = ofTasks source m findings (Task.run config clock m Artifact.all) := by
  have hall : ∀ a, a ∈ Artifact.all := by
    intro a
    cases a <;> decide
  simp only [ofTasks, Task.reported_run config clock m h, Task.reported_run config clock m hall,
    outcome?_run config clock m h, outcome?_run config clock m hall]

end Bundle

end Schemata
