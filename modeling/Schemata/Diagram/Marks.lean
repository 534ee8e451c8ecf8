import Schemata.Model.Basic
/-!
# Marks of fields in diagrams

The key flags of a field as an entity-relationship diagram, a class diagram and a table of keys
show them.
-/

namespace Schemata.Diagram

/-- The tags of a field: primary key, unique key, not null, counting up. -/
def tags (f : Field) : List String :=
  (if f.isPrimary then ["PK"] else []) ++ (if f.isUnique then ["UK"] else []) ++
    (if f.required then ["NOT NULL"] else []) ++
    (if f.isAutoIncrement then ["AUTO_INCREMENT"] else [])

/-- The tags of a field in one text. -/
def tagText (f : Field) : String := ", ".intercalate (tags f)

/-- The mark in front of an attribute; the strongest flag counts. -/
def keyMark (f : Field) : String :=
  if f.isPrimary then "* "
  else if f.isUnique then "+ "
  else if f.required then "- "
  else "  "

/-- The constraints of a field for a reader. -/
def describeConstraints (c : Option Constraints) : String :=
  match c with
  | some c => c.describe
  | none => ""

/-- The sign of visibility in a class diagram. -/
def visibility (f : Field) : String :=
  if f.isPrimary then "+" else if f.required then "#" else "-"

end Schemata.Diagram
