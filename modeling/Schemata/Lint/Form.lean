import Schemata.Text.Blank
/-!
# The forms of names, versions and addresses

What counts as a well-formed identifier, version and web address.  All three forms allow one line
break at the very end.
-/

namespace Schemata.Lint

/-- A text without one line break at its end. -/
def withoutFinalBreak (cs : List Char) : List Char :=
  if cs.getLast? = some '\n' then cs.dropLast else cs

/-- Characters that start an identifier. -/
def startsIdentifier (c : Char) : Bool := c.isAlpha || c = '_'

/-- Characters inside an identifier. -/
def continuesIdentifier (c : Char) : Bool := c.isAlphanum || c = '_'

/-- An identifier: ASCII letters, digits and low lines, no digit first. -/
def isIdentifier (s : String) : Bool :=
  match withoutFinalBreak s.toList with
  | [] => false
  | c :: rest => startsIdentifier c && rest.all continuesIdentifier

/-- Characters after the third number of a version. -/
def isVersionSuffix (c : Char) : Bool := c.isAlphanum || c = '.' || c = '-'

/-- What follows a number of at least one digit. -/
def afterNumber (cs : List Char) : Option (List Char) :=
  if (cs.takeWhile Text.isDecimal).isEmpty then none else some (cs.dropWhile Text.isDecimal)

/-- What follows a number and a point. -/
def afterNumberAndPoint (cs : List Char) : Option (List Char) :=
  match afterNumber cs with
  | some ('.' :: rest) => some rest
  | _ => none

/-- A version: three numbers with points between them, and perhaps a suffix. -/
def isVersion (s : String) : Bool :=
  match (afterNumberAndPoint (withoutFinalBreak s.toList)).bind afterNumberAndPoint with
  | some rest =>
    match afterNumber rest with
    | some suffix => suffix.all isVersionSuffix
    | none => false
  | none => false

/-- What follows the scheme of a web address. -/
def afterScheme (cs : List Char) : Option (List Char) :=
  if "http://".toList.isPrefixOf cs then some (cs.drop 7)
  else if "https://".toList.isPrefixOf cs then some (cs.drop 8)
  else none

/-- A web address: its scheme and at least one more character, without blanks. -/
def isWebAddress (s : String) : Bool :=
  match afterScheme (withoutFinalBreak s.toList) with
  | some rest => !rest.isEmpty && rest.all fun c => !Text.isBlank c
  | none => false

end Schemata.Lint
