import Schemata.Text.Casing
/-!
# Plurals

`plural` forms the plural of an English noun from its ending; a few nouns have a plural of their
own.  It names the table of an entity that has no table name.
-/

namespace Schemata.Text

/-- Nouns with a plural of their own. -/
def irregularPlurals : List (String × String) :=
  [("person", "people"), ("child", "children"), ("man", "men"), ("woman", "women"),
   ("mouse", "mice"), ("datum", "data"), ("index", "indices"), ("matrix", "matrices"),
   ("analysis", "analyses"), ("status", "statuses"), ("address", "addresses")]

/-- Whether a letter is a vowel. -/
def isVowel (c : Char) : Bool := c = 'a' || c = 'e' || c = 'i' || c = 'o' || c = 'u'

/-- The plural of a noun that follows the rules, read from its end: `reversed` holds its letters
backwards and in lower case. -/
def regularPlural (cs reversed : List Char) : List Char :=
  let without (n : Nat) := cs.take (cs.length - n)
  match reversed with
  | 's' :: 's' :: _ => cs ++ ['e', 's']
  | 's' :: _ => cs
  | 'h' :: 's' :: _ | 'h' :: 'c' :: _ | 'x' :: _ | 'z' :: _ => cs ++ ['e', 's']
  | 'y' :: c :: _ => if isVowel c then cs ++ ['s'] else without 1 ++ ['i', 'e', 's']
  | 'e' :: 'f' :: _ => without 2 ++ ['v', 'e', 's']
  | 'f' :: _ => without 1 ++ ['v', 'e', 's']
  | _ => cs ++ ['s']

/-- The plural of a noun. -/
def plural (name : String) : String :=
  match name.toList with
  | [] => ""
  | c :: rest =>
    match irregularPlurals.lookup (lowerAscii name) with
    | some noun => if c.isUpper then capitalizeFirst noun else noun
    | none =>
      let cs := c :: rest
      String.ofList (regularPlural cs (cs.reverse.map Char.toLower))

end Schemata.Text
