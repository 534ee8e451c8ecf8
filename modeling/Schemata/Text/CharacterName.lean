import Schemata.Text.CharacterName.Aliases
import Schemata.Text.CharacterName.Alphabets
import Schemata.Text.CharacterName.Forms
import Schemata.Text.CharacterName.Histories
import Schemata.Text.CharacterName.Pictures
import Schemata.Text.CharacterName.Scripts
import Schemata.Text.CharacterName.Syllables
import Schemata.Text.CharacterName.Symbols
import Schemata.Text.Ranges
/-!
# Names of characters

The names by which the Unicode standard, as of version 14, calls characters.

* `characterNamed?` finds a character by its name.  Syllables of Hangul are named by their letters,
  unified ideographs by their code points; these names are in upper case, all others in any case.
* Characters of some other scripts are named by their code points or by numbers as well.
-/

namespace Schemata.Text

/-! ## 1. Names with numbers -/

/-- What follows a text. -/
def afterStem? (stem : String) (name : List Char) : Option (List Char) :=
  if stem.toList.isPrefixOf name then some (name.drop stem.length) else none

/-- The value of a hexadecimal digit in upper case. -/
def capitalHex? (c : Char) : Option Nat :=
  if c.isDigit then some (c.toNat - '0'.toNat)
  else if 'A' ≤ c ∧ c ≤ 'F' then some (c.toNat - 'A'.toNat + 10)
  else none

/-- The number of four or five hexadecimal digits. -/
def codePoint? (digits : List Char) : Option Nat :=
  if digits.length = 4 || digits.length = 5 then
    digits.foldlM (fun n c => (capitalHex? c).map (16 * n + ·)) 0
  else none

/-- The starts of names that end in the character's code point, with the characters. -/
def codedNames : List (String × Ranges) := [
  ("CJK COMPATIBILITY IDEOGRAPH-", [(0xF900, 0xFA6D), (0xFA70, 0xFAD9), (0x2F800, 0x2FA1D)]),
  ("KHITAN SMALL SCRIPT CHARACTER-", [(0x18B00, 0x18CD5)]),
  ("NUSHU CHARACTER-", [(0x1B170, 0x1B2FB)])]

/-- Names that end in a number: their start, the least count of digits, the first and the last
number, and the character of the first. -/
structure NumberedNames where
  stem : String
  width : Nat
  first : Nat
  last : Nat
  code : Nat
  deriving Repr

/-- The names that end in a number. -/
def numberedNames : List NumberedNames := [
  ⟨"TANGUT COMPONENT-", 3, 1, 768, 0x18800⟩,
  ⟨"VARIATION SELECTOR-", 1, 1, 16, 0xFE00⟩, ⟨"VARIATION SELECTOR-", 1, 17, 256, 0xE0100⟩,
  ⟨"VS", 1, 1, 16, 0xFE00⟩, ⟨"VS", 1, 17, 256, 0xE0100⟩]

/-- The character among some that hexadecimal digits give. -/
def coded? (ranges : Ranges) (digits : List Char) : Option Nat :=
  (codePoint? digits).filter fun n => ranges.any fun r => decide (r.1 ≤ n ∧ n ≤ r.2)

/-- The character of a name that ends in its code point, which has no zero in front. -/
def codedNamed? (name : List Char) (stem : String) (ranges : Ranges) : Option Nat :=
  (afterStem? stem name).bind fun digits =>
    if digits.head? = some '0' then none else coded? ranges digits

/-- The character of a name that ends in a number. -/
def NumberedNames.find? (names : NumberedNames) (name : List Char) : Option Nat :=
  (afterStem? names.stem name).bind fun digits =>
    let isPadded := digits.length = names.width ||
      (names.width < digits.length && digits.head? ≠ some '0')
    let n := digits.foldl (fun n c => 10 * n + (c.toNat - '0'.toNat)) 0
    if isPadded && digits.all Char.isDigit && names.first ≤ n && n ≤ names.last then
      some (names.code + (n - names.first))
    else none

/-! ## 2. Ideographs and syllables -/

/-- The start of the names that unified ideographs have by their code points. -/
def ideographStem : String := "CJK UNIFIED IDEOGRAPH-"

/-- The unified ideographs. -/
def ideographRanges : Ranges := [
  (0x3400, 0x4DBF), (0x4E00, 0x9FFF), (0x20000, 0x2A6DF), (0x2A700, 0x2B738), (0x2B740, 0x2B81D),
  (0x2B820, 0x2CEA1), (0x2CEB0, 0x2EBE0), (0x30000, 0x3134A)]

/-- The start of the names of syllables of Hangul. -/
def syllableStem : String := "HANGUL SYLLABLE "

/-- The first syllable of Hangul. -/
def firstSyllable : Nat := 0xAC00

/-- The letters that start a syllable of Hangul, that stand in its middle, and that end it; one
that is not heard has no name. -/
def syllableLetters : List (List String) := [
  ["G", "GG", "N", "D", "DD", "R", "M", "B", "BB", "S", "SS", "", "J", "JJ", "C", "K", "T", "P",
   "H"],
  ["A", "AE", "YA", "YAE", "EO", "E", "YEO", "YE", "O", "WA", "WAE", "OE", "YO", "U", "WEO", "WE",
   "WI", "YU", "EU", "YI", "I"],
  ["", "G", "GG", "GS", "N", "NJ", "NH", "D", "L", "LG", "LM", "LB", "LS", "LT", "LP", "LH", "M",
   "B", "BS", "S", "SS", "NG", "J", "C", "K", "T", "P", "H"]]

/-- The longest of some letters that a text starts with, as its place among them, and the rest. -/
def longestLetter? (letters : List String) (cs : List Char) : Option (Nat × List Char) :=
  let found := letters.zipIdx.filter fun l => l.1.toList.isPrefixOf cs
  (found.foldl (fun (best : Option (String × Nat)) l =>
    match best with
    | some b => if b.1.length < l.1.length then some l else best
    | none => some l) none).map fun l => (l.2, cs.drop l.1.length)

/-- The place of a syllable that a text writes by its letters. -/
def syllable? : Nat → List (List String) → List Char → Option Nat
  | n, [], cs => if cs.isEmpty then some n else none
  | n, letters :: more, cs =>
    (longestLetter? letters cs).bind fun (i, rest) => syllable? (n * letters.length + i) more rest

/-! ## 3. All names -/

/-- The names that are listed. -/
def listedNames : List (List NameRun) :=
  [alphabetNames, scriptNames, symbolNames, syllableNames, formNames, historicNames, pictureNames]

/-- The character of a name in upper case that is listed or ends in a number. -/
def listed? (name : List Char) : Option Nat :=
  (listedNames.findSome? fun runs => runs.findSome? (·.find? name)) <|>
    characterAliases.lookup (String.ofList name) <|>
    (codedNames.findSome? fun e => codedNamed? name e.1 e.2) <|>
    numberedNames.findSome? (·.find? name)

/-- The code point of a character's name. -/
def characterNamed? (name : String) : Option Nat :=
  let cs := name.toList
  match afterStem? syllableStem cs, afterStem? ideographStem cs with
  | some letters, _ => (syllable? 0 syllableLetters letters).map (firstSyllable + ·)
  | none, some digits => coded? ideographRanges digits
  | none, none => listed? (cs.map Char.toUpper)

end Schemata.Text
