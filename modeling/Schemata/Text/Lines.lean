/-!
# Lines

`lineCount` counts the lines of a text, the last of which need not end in a line feed;
`unifiedBreaks` turns every line break of a text file into a line feed.
-/

namespace Schemata.Text

/-- The number of lines. -/
def lineCount (s : String) : Nat :=
  match s.toList.getLast? with
  | none => 0
  | some c => s.toList.count '\n' + (if c = '\n' then 0 else 1)

/-- Carriage returns, alone or before a line feed, read as line feeds. -/
def unifyBreaks : List Char → List Char
  | '\r' :: '\n' :: rest => '\n' :: unifyBreaks rest
  | '\r' :: rest => '\n' :: unifyBreaks rest
  | c :: rest => c :: unifyBreaks rest
  | [] => []

/-- A text with line feeds for its line breaks. -/
def unifiedBreaks (s : String) : String := String.ofList (unifyBreaks s.toList)

end Schemata.Text
