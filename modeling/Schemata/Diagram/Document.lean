import Schemata.Clock
import Schemata.Config
import Schemata.Diagram.Render
import Schemata.Failure
/-!
# All diagrams of a model

`Diagram.generate` gathers the diagrams of a model with some numbers about it.
-/

namespace Schemata.Diagram

/-- The alternative diagrams. -/
def alternatives (m : Model) : Value :=
  .obj [("simple", .str (boxes m)), ("detailed", .str (classes m)),
    ("conceptual", .str (mindMap m))]

/-- The diagrams of a model, made at a time. -/
def generateAt (config : Config) (m : Model) (stamp : String) : Value :=
  .obj ([("mermaid", .str (mermaid m)), ("plantUML", .str (plantUml m)),
    ("textual", .str (report m stamp)),
    ("metadata", .obj [("totalEntities", .nat m.entities.length),
      ("totalRelationships", .nat m.relationships.length), ("generatedAt", .str stamp),
      ("diagramType", .str config.diagramType)])] ++
    (if config.includeAlternatives then [("alternatives", alternatives m)] else []))

/-- Whether all constraints of a model have a text. -/
def isWritable (m : Model) : Bool :=
  m.entities.all fun e => e.fields.all fun f => f.constraints.all Constraints.isWritable

/-- The diagrams of a model; they fail when the clock does, or where a constraint has no text. -/
def generate (config : Config) (clock : Clock) (m : Model) : Except Failure Value :=
  match clock.stamp with
  | .error fault => .error (fault.failure .diagram)
  | .ok stamp =>
    if isWritable m then .ok (generateAt config m stamp)
    else .error ⟨.diagram, Written.limitMessage ""⟩

end Schemata.Diagram
