import Schemata.Diagram.Marks
import Schemata.Text.Casing
/-!
# Diagrams as text

A model in several notations: an entity-relationship diagram (`mermaid`), a class diagram with
entity blocks (`plantUml`), a report in plain language (`report`), and the alternatives: boxes and
arrows, classes with visibility, and a mind map.  A relationship without both of its entities is
left out everywhere.
-/

namespace Schemata.Diagram

/-! ## 1. Entity-relationship diagram -/

/-- The line of a field. -/
def erField (f : Field) : String :=
  "        " ++ f.kind.erName ++ " " ++ f.name ++
    (if tagText f = "" then "" else " \"" ++ tagText f ++ "\"") ++ "\n"

/-- The block of an entity. -/
def erEntity (e : Entity) : String :=
  "\n    " ++ Text.upper e.tableName ++ " \x7b\n" ++ String.join (e.fields.map erField) ++
    "    \x7d\n"

/-- The line of a relationship. -/
def erLink (l : Model.Link) : String :=
  "    " ++ Text.upper l.source.tableName ++ " " ++ l.relationship.cardinality.edge ++ " " ++
    Text.upper l.target.tableName ++ " : \"" ++ l.relationship.label ++ "\"\n"

/-- The relationships under their heading, if there are any. -/
def erLinks (links : List Model.Link) : String :=
  if links.isEmpty then ""
  else "\n    %% Relationships\n" ++ String.join (links.map erLink)

/-- A model as an entity-relationship diagram. -/
def mermaid (m : Model) : String :=
  "erDiagram\n" ++ String.join (m.entities.map erEntity) ++ erLinks m.resolved

/-! ## 2. Entity blocks -/

/-- The line of a field. -/
def umlField (f : Field) : String :=
  "  " ++ keyMark f ++ f.name ++ " : " ++ f.kind.umlName ++ "\n"

/-- The block of an entity. -/
def umlEntity (e : Entity) : String :=
  "entity \"" ++ e.tableName ++ "\" as " ++ e.name ++ " \x7b\n" ++
    String.join (e.fields.map umlField) ++ "\x7d\n\n"

/-- The line of a relationship. -/
def umlLink (l : Model.Link) : String :=
  let r := l.relationship
  r.source ++ " " ++ r.cardinality.edge ++ " " ++ r.target ++ " : " ++ r.label ++ "\n"

/-- A model as a class diagram with entity blocks. -/
def plantUml (m : Model) : String :=
  "@startuml\n!define RECTANGLE class\n\n" ++ String.join (m.entities.map umlEntity) ++
    String.join (m.resolved.map umlLink) ++ "\n@enduml"

/-! ## 3. Report in plain language -/

/-- Items with their numbers, counted from one. -/
def numbered {α : Type} (items : List α) : List (Nat × α) :=
  (List.range items.length).map (· + 1) |>.zip items

/-- What stands for a missing description. -/
def noDescription : String := "No description provided"

/-- The lines of a field. -/
def reportField (f : Field) : String :=
  "   - " ++ f.name ++ ": " ++ f.type ++ " (" ++ (if f.required then "Required" else "Optional") ++
    ")\n" ++ "     " ++ f.description.getD "" ++ describeConstraints f.constraints ++ "\n"

/-- The lines of an entity. -/
def reportEntity (n : Nat) (e : Entity) : String :=
  toString n ++ ". " ++ Text.upper e.name ++ " (Table: " ++ e.tableName ++ ")\n" ++
    "   Description: " ++ Entity.describedAs e.description noDescription ++ "\n" ++
    "   Fields:\n" ++ String.join (e.fields.map reportField) ++ "\n"

/-- The lines of a relationship. -/
def reportLink (n : Nat) (l : Model.Link) : String :=
  let r := l.relationship
  toString n ++ ". " ++ r.source ++ " " ++ r.cardinality.verb ++ " " ++ r.target ++ "\n" ++
    "   " ++ Entity.describedAs r.description noDescription ++ "\n\n"

/-- The relationships under their heading, if there are any. -/
def reportLinks (links : List Model.Link) : String :=
  if links.isEmpty then ""
  else "Relationships:\n-------------\n" ++
    String.join ((numbered links).map fun (n, l) => reportLink n l)

/-- A model as a report in plain language. -/
def report (m : Model) (stamp : String) : String :=
  "Database Schema Description\n============================\n\nEntities:\n---------\n" ++
    String.join ((numbered m.entities).map fun (n, e) => reportEntity n e) ++
    reportLinks m.resolved ++
    "Summary:\n--------\n" ++ "Total Entities: " ++ toString m.entities.length ++ "\n" ++
    "Total Relationships: " ++ toString m.relationships.length ++ "\n" ++
    "Generated: " ++ stamp ++ "\n"

/-! ## 4. Alternatives -/

/-- A model as boxes and arrows. -/
def boxes (m : Model) : String :=
  "graph TD\n" ++
    String.join (m.entities.map fun e => "    " ++ e.name ++ "[" ++ e.name ++ "]\n") ++
    String.join (m.resolved.map fun l =>
      "    " ++ l.relationship.source ++ " --> " ++ l.relationship.target ++ "\n")

/-- A class of a class diagram. -/
def classBlock (e : Entity) : String :=
  "    class " ++ e.name ++ " \x7b\n" ++
    String.join (e.fields.map fun f =>
      "        " ++ visibility f ++ f.type ++ " " ++ f.name ++ "\n") ++ "    \x7d\n"

/-- A model as classes with visibility. -/
def classes (m : Model) : String :=
  "classDiagram\n" ++ String.join (m.entities.map classBlock) ++
    String.join (m.resolved.map fun l =>
      let r := l.relationship
      "    " ++ r.source ++ " " ++ r.cardinality.multiplicity ++ " " ++ r.target ++ " : " ++
        r.label ++ "\n")

/-- The number of fields that a mind map shows of an entity. -/
def mindMapFields : Nat := 3

/-- The first of an entity's primary or required fields. -/
def keyFields (e : Entity) : List Field :=
  (e.fields.filter fun f => f.isPrimary || f.required).take mindMapFields

/-- A model as a mind map. -/
def mindMap (m : Model) : String :=
  "mindmap\n  root((Database))\n" ++
    String.join (m.entities.map fun e =>
      "    " ++ e.name ++ "\n" ++
        String.join ((keyFields e).map fun f => "      " ++ f.name ++ "\n"))

end Schemata.Diagram
