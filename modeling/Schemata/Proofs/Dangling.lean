import Schemata.Diagram.Document
import Schemata.OpenApi.Document
import Schemata.Proofs.Document
import Schemata.Proofs.Resolution
/-!
# Relationships that lead nowhere

A relationship dangles when one of its ends names no entity.  Documents are made from the entities
of a model and from its links, and a dangling relationship has no link, so that it can be deleted
without a trace: no number moves up, no heading appears, no path is taken.  Only the reports count
relationships as such.

* `resolved_withoutDangling`: deleting what dangles leaves the links as they are, in their order.
* `OpenApi.generate_congr`, `Diagram.notations_congr`: what is made from entities and links alone.
* `Diagram.report_eq`: the one place of the report that depends on anything else.
* `dangling_invisible`: the documents with and without the dangling relationships.
-/

namespace Schemata

/-! ## 1. Deleting what dangles -/

/-- Whether both ends of a relationship are among some names. -/
def Relationship.joins (names : List String) (r : Relationship) : Bool :=
  names.contains r.source && names.contains r.target

namespace Model

/-- The names that relationships can refer to. -/
def knownNames (m : Model) : List String := m.index.keys

/-- The model without the relationships of which an end names no entity. -/
def withoutDangling (m : Model) : Model :=
  { m with relationships := m.relationships.filter (Relationship.joins m.knownNames) }

theorem isSome_entity? (m : Model) (name : String) :
    (m.entity? name).isSome = m.knownNames.contains name := by
  rw [Bool.eq_iff_iff, entity?, Entries.lookup_isSome_iff, List.contains_iff_mem, knownNames]

/-- A relationship has a link exactly if both of its ends are known names. -/
theorem isSome_link? (m : Model) (r : Relationship) :
    (m.link? r).isSome = r.joins m.knownNames := by
  rw [Relationship.joins, ← isSome_entity?, ← isSome_entity?, link?, resolve]
  cases m.entity? r.source <;> cases m.entity? r.target <;> rfl

/-- Names are looked up in the same entities after the deletion. -/
theorem link?_withoutDangling (m : Model) : m.withoutDangling.link? = m.link? := rfl

/-- **Links are kept.**  What is deleted has no link, and what has one is not deleted. -/
theorem resolved_withoutDangling (m : Model) : m.withoutDangling.resolved = m.resolved := by
  rw [resolved_eq, link?_withoutDangling, withoutDangling, List.filterMap_filter, resolved_eq]
  refine List.filterMap_congr fun r _ => ?_
  rw [← isSome_link?]
  cases m.link? r <;> rfl

end Model

/-! ## 2. What is made from entities and links -/

theorem OpenApi.generate_congr {m m' : Model} (hentities : m'.entities = m.entities)
    (hlinks : m'.resolved = m.resolved) (config : Config) (clock : Clock) :
    OpenApi.generate config clock m' = OpenApi.generate config clock m := by
  have hpaths : paths config m' = paths config m := by
    simp only [paths, hentities, hlinks]
  have hdocument (stamp : String) : document config m' stamp = document config m stamp := by
    simp only [document, schemas, hentities, hpaths]
  have hsummary (stamp : String) : summary config m' stamp = summary config m stamp := by
    simp only [summary, schemas, Model.entityNames, hentities, hpaths]
  simp only [OpenApi.generate, build, hdocument, hsummary, hentities]

namespace Diagram

theorem notations_congr {m m' : Model} (hentities : m'.entities = m.entities)
    (hlinks : m'.resolved = m.resolved) :
    mermaid m' = mermaid m ∧ plantUml m' = plantUml m ∧ alternatives m' = alternatives m := by
  refine ⟨?_, ?_, ?_⟩
  · unfold mermaid
    rw [hentities, hlinks]
  · unfold plantUml
    rw [hentities, hlinks]
  · unfold alternatives boxes classes mindMap
    rw [hentities, hlinks]

/-- The report up to the line with the number of relationships. -/
def reportHead (m : Model) : String :=
  "Database Schema Description\n============================\n\nEntities:\n---------\n" ++
    String.join ((numbered m.entities).map fun (n, e) => reportEntity n e) ++
    reportLinks m.resolved ++
    "Summary:\n--------\n" ++ "Total Entities: " ++ toString m.entities.length

/-- The line with the number of relationships, and the line break before it. -/
def countLine (count : Nat) : String := "\nTotal Relationships: " ++ toString count ++ "\n"

/-- The report behind the line with the number of relationships. -/
def reportTail (stamp : String) : String := "Generated: " ++ stamp ++ "\n"

theorem report_eq (m : Model) (stamp : String) :
    report m stamp = reportHead m ++ countLine m.relationships.length ++ reportTail stamp := by
  have hbreak : "\nTotal Relationships: " = "\n" ++ "Total Relationships: " := rfl
  unfold report reportHead countLine reportTail
  simp only [hbreak, String.append_assoc]

theorem reportHead_congr {m m' : Model} (hentities : m'.entities = m.entities)
    (hlinks : m'.resolved = m.resolved) : reportHead m' = reportHead m := by
  unfold reportHead
  rw [hentities, hlinks]

/-- What two sets of diagrams have in common when only the number of relationships differs: all
diagrams are the same, and so is the report but for its line with that number. -/
structure DifferInCount (count count' : Nat) (d d' : Value) : Prop where
  mermaid : d.at? ["mermaid"] = d'.at? ["mermaid"]
  plantUml : d.at? ["plantUML"] = d'.at? ["plantUML"]
  alternatives : d.at? ["alternatives"] = d'.at? ["alternatives"]
  report : ∃ head tail,
    d.at? ["textual"] = some (.str (head ++ countLine count ++ tail)) ∧
      d'.at? ["textual"] = some (.str (head ++ countLine count' ++ tail))

theorem at?_mermaid (config : Config) (m : Model) (stamp : String) :
    (generateAt config m stamp).at? ["mermaid"] = some (.str (mermaid m)) := rfl

theorem at?_plantUml (config : Config) (m : Model) (stamp : String) :
    (generateAt config m stamp).at? ["plantUML"] = some (.str (plantUml m)) := rfl

theorem at?_report (config : Config) (m : Model) (stamp : String) :
    (generateAt config m stamp).at? ["textual"] = some (.str (report m stamp)) := rfl

theorem at?_alternatives (config : Config) (m : Model) (stamp : String) :
    (generateAt config m stamp).at? ["alternatives"]
      = if config.includeAlternatives then some (alternatives m) else none := by
  unfold generateAt
  cases config.includeAlternatives <;> rfl

/-- The diagrams of two models with the same entities and links, made at one time. -/
theorem differInCount {m m' : Model} (hentities : m'.entities = m.entities)
    (hlinks : m'.resolved = m.resolved) (config : Config) (stamp : String) :
    DifferInCount m.relationships.length m'.relationships.length
      (generateAt config m stamp) (generateAt config m' stamp) := by
  obtain ⟨hmermaid, hplantUml, halternatives⟩ := notations_congr hentities hlinks
  refine ⟨?_, ?_, ?_, reportHead m, reportTail stamp, ?_, ?_⟩
  · rw [at?_mermaid, at?_mermaid, hmermaid]
  · rw [at?_plantUml, at?_plantUml, hplantUml]
  · rw [at?_alternatives, at?_alternatives, halternatives]
  · rw [at?_report, report_eq]
  · rw [at?_report, report_eq, reportHead_congr hentities hlinks]

end Diagram

/-! ## 3. With and without what dangles -/

/-- **What dangles is invisible.**  Deleting all relationships of which an end names no entity
changes neither the description of the interface nor any diagram, whether they are made or fail; of
the report it changes at most the number on the line that counts relationships. -/
theorem dangling_invisible (m : Model) (config : Config) (clock : Clock) :
    OpenApi.generate config clock m.withoutDangling = OpenApi.generate config clock m ∧
    Diagram.alternatives m.withoutDangling = Diagram.alternatives m ∧
    ((∃ f, Diagram.generate config clock m = .error f ∧
        Diagram.generate config clock m.withoutDangling = .error f) ∨
      ∃ d d', Diagram.generate config clock m = .ok d ∧
        Diagram.generate config clock m.withoutDangling = .ok d' ∧
        Diagram.DifferInCount m.relationships.length
          (m.relationships.filter (Relationship.joins m.knownNames)).length d d') := by
  have hentities : m.withoutDangling.entities = m.entities := rfl
  have hlinks := m.resolved_withoutDangling
  refine ⟨OpenApi.generate_congr hentities hlinks config clock,
    (Diagram.notations_congr hentities hlinks).2.2, ?_⟩
  have hwritable : Diagram.isWritable m.withoutDangling = Diagram.isWritable m := rfl
  simp only [Diagram.generate, hwritable]
  cases clock.stamp with
  | error fault => exact Or.inl ⟨_, rfl, rfl⟩
  | ok stamp =>
    cases Diagram.isWritable m with
    | false => exact Or.inl ⟨_, rfl, rfl⟩
    | true => exact Or.inr ⟨_, _, rfl, rfl, Diagram.differInCount hentities hlinks config stamp⟩

end Schemata
