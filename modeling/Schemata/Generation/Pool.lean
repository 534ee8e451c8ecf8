import Mathlib.Logic.Relation
import Schemata.Generation.Bundle
/-!
# The pool of workers

Settings may ask for the documents of a model to be made at once.  A `Pool` is a moment of that:
tasks wait in the order in which they were handed in until a worker is free, and end in any order.

* `Pool.Step`: a worker takes up the next task, or ends the one it is at.
* `Pool.Reaches`: what comes of a pool to which every task was handed in.

Only the order in which tasks end is left open.  What a task gives depends on nothing that another
one does.
-/

namespace Schemata

/-- Tasks that wait, tasks that workers are at, and the outcomes so far in the order in which they
came. -/
structure Pool where
  waiting : List Artifact
  running : List Artifact
  ended : List Task

namespace Pool

/-- The pool to which every task was handed in. -/
def full : Pool := ⟨Artifact.all, [], []⟩

/-- The number of workers: as many as the settings allow, and no more than there are tasks. -/
def workers (config : Config) : Int := min config.maxWorkers Artifact.all.length

/-- One event of a pool. -/
inductive Step (config : Config) (clock : Clock) (m : Model) : Pool → Pool → Prop
  /-- A free worker takes up the task that has waited longest. -/
  | takeUp {a : Artifact} {waiting running : List Artifact} {ended : List Task}
      (free : (running.length : Int) < workers config) :
      Step config clock m ⟨a :: waiting, running, ended⟩ ⟨waiting, a :: running, ended⟩
  /-- A worker ends any of the tasks that are being worked at. -/
  | finish {a : Artifact} {waiting running : List Artifact} {ended : List Task}
      (at_work : a ∈ running) :
      Step config clock m ⟨waiting, running, ended⟩
        ⟨waiting, running.erase a, ended ++ [(a, a.make config clock m)]⟩

/-- What comes of a pool to which every task was handed in. -/
def Reaches (config : Config) (clock : Clock) (m : Model) (p : Pool) : Prop :=
  Relation.ReflTransGen (Step config clock m) full p

/-- Nothing is left to be done. -/
def AtRest (p : Pool) : Prop := p.waiting = [] ∧ p.running = []

end Pool

end Schemata
