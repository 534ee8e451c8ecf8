import Schemata.Model.Coercion
/-!
# Constraints of a field

A constraint map is open.  `Constraints` keeps it as it was supplied (`wire`, with the wire names
of the known keys) beside the typed view of the known keys.  A known key whose value cannot be
read leaves its part of the view empty and is listed in `rejected`; only a key that is no text
makes a map unfit as a whole.

* `Constraints.read` reads a constraint map.
* `Constraints.describe` lists the view for a reader.
-/

namespace Schemata

/-! ## 1. Known keys -/

/-- The constraints with a meaning, in the order in which complaints about them are listed. -/
inductive ConstraintKey
  | primary | unique | autoIncrement | maxLength | minLength | minimum | maximum | default
  | choices | pattern | items
  deriving DecidableEq, Repr

namespace ConstraintKey

/-- All known keys. -/
def all : List ConstraintKey :=
  [primary, unique, autoIncrement, maxLength, minLength, minimum, maximum, default, choices,
   pattern, items]

/-- The name on the wire. -/
def wireName : ConstraintKey → String
  | primary => "primary"
  | unique => "unique"
  | autoIncrement => "autoIncrement"
  | maxLength => "maxLength"
  | minLength => "minLength"
  | minimum => "minimum"
  | maximum => "maximum"
  | default => "default"
  | choices => "enum"
  | pattern => "pattern"
  | items => "items"

/-- The other name under which a key may be given, which may be the same. -/
def fieldName : ConstraintKey → String
  | autoIncrement => "auto_increment"
  | maxLength => "max_length"
  | minLength => "min_length"
  | k => k.wireName

/-- The names of a key, the one that counts first. -/
def names (k : ConstraintKey) : List String :=
  if k.fieldName = k.wireName then [k.wireName] else [k.wireName, k.fieldName]

/-- The wire name of a supplied key. -/
def wireNameOf (key : String) : String :=
  ((all.find? fun k => k.fieldName = key).map wireName).getD key

end ConstraintKey

/-! ## 2. The typed view -/

/-- The constraints of a field: the typed view, the map as supplied, and the wire names of the
supplied keys that the view could not take.  `default` is there, perhaps as null, when the map has
that key. -/
structure Constraints where
  primary : Option Bool
  unique : Option Bool
  autoIncrement : Option Bool
  maxLength : Option Int
  minLength : Option Int
  minimum : Option Number
  maximum : Option Number
  default : Option Value
  choices : Option (List Value)
  pattern : Option String
  items : Option (Entries String Value)
  wire : Entries String Value
  rejected : List String
  deriving Repr

namespace Constraints

open Coercion

/-- No constraints. -/
def empty : Constraints :=
  ⟨none, none, none, none, none, none, none, none, none, none, none, [], []⟩

/-- The value supplied for a known key. -/
def supplied? (entries : List (Scalar × Value)) (k : ConstraintKey) : Option Value :=
  field? entries k.names

/-- The part of the view for a known key: nothing when it was not supplied, is null or cannot be
read. -/
def view? {α : Type} (entries : List (Scalar × Value)) (k : ConstraintKey)
    (read : Value → Checked α) : Option α :=
  (supplied? entries k).bind fun v => ((optional read v).toOption).join

/-- Whether a value can be read for a known key. -/
def accepts : ConstraintKey → Value → Bool
  | .primary, v | .unique, v | .autoIncrement, v => (optional boolean v).toOption.isSome
  | .maxLength, v | .minLength, v => (optional integer v).toOption.isSome
  | .minimum, v | .maximum, v => (optional number v).toOption.isSome
  | .default, _ => true
  | .choices, v => (optional list v).toOption.isSome
  | .pattern, v => (optional text v).toOption.isSome
  | .items, v => (optional dictionary v).toOption.isSome

/-- The wire names of the supplied keys that cannot be read, one for every name under which such a
key was given. -/
def rejectedNames (entries : List (Scalar × Value)) : List String :=
  ConstraintKey.all.flatMap fun k =>
    match supplied? entries k with
    | some v =>
      if accepts k v then []
      else (k.names.filter fun n => (Value.member? n entries).isSome).map fun _ => k.wireName
    | none => []

/-- The map as supplied, under wire names; of two spellings of a key the later value counts. -/
def wireOf (entries : Entries String Value) : Entries String Value :=
  Entries.ofList (entries.map fun (k, v) => (ConstraintKey.wireNameOf k, v))

/-- The constraints that a map with text keys gives. -/
def ofEntries (entries : List (Scalar × Value)) : Constraints where
  primary := view? entries .primary boolean
  unique := view? entries .unique boolean
  autoIncrement := view? entries .autoIncrement boolean
  maxLength := view? entries .maxLength integer
  minLength := view? entries .minLength integer
  minimum := view? entries .minimum number
  maximum := view? entries .maximum number
  default := supplied? entries .default
  choices := view? entries .choices list
  pattern := view? entries .pattern text
  items := view? entries .items dictionary
  wire := wireOf (textEntries entries)
  rejected := rejectedNames entries

/-- The name of the record in complaints. -/
def recordName : String := "FieldConstraints"

/-- Reads a constraint map; only keys that are no texts are complained about. -/
def read (v : Value) : Checked Constraints :=
  record recordName v fun entries =>
    Checked.ok (ofEntries entries) |>.withMore (keyComplaints entries)

/-- Whether a default was supplied, even null. -/
def hasDefault (c : Constraints) : Bool := c.default.isSome

/-! ## 3. For a reader -/

/-- A list of constraints for a reader, from the texts of the parts. -/
def annotations (primary unique autoIncrement : Bool)
    (maxLength minLength minimum maximum default choices : Option String) : List String :=
  let flag (b : Bool) (s : String) := if b then [s] else []
  let part (label : String) (s : Option String) := (s.map (label ++ ·)).toList
  flag primary "Primary Key" ++ flag unique "Unique" ++ flag autoIncrement "Auto Increment" ++
    part "Max Length: " maxLength ++ part "Min Length: " minLength ++
    part "Min Value: " minimum ++ part "Max Value: " maximum ++ part "Default: " default ++
    part "Options: " choices

/-- Annotations in parentheses after a space; nothing when there are none. -/
def parenthesized (parts : List String) : String :=
  if parts.isEmpty then "" else " (" ++ ", ".intercalate parts ++ ")"

/-- The annotations of constraints. -/
def annotationsOf (c : Constraints) : List String :=
  annotations (c.primary.getD false) (c.unique.getD false) (c.autoIncrement.getD false)
    (c.maxLength.map toString) (c.minLength.map toString)
    (c.minimum.map fun n => n.toValue.plain) (c.maximum.map fun n => n.toValue.plain)
    (c.default.map Value.plain) (c.choices.map fun vs => ", ".intercalate (vs.map Value.plain))

/-- Whether everything that a reader is shown has a text. -/
def isWritable (c : Constraints) : Bool :=
  c.maxLength.all Written.isWritable && c.minLength.all Written.isWritable &&
    c.minimum.all (·.toValue.isWritable) && c.maximum.all (·.toValue.isWritable) &&
    c.default.all Value.isWritable && c.choices.all Value.areWritable

/-- Constraints for a reader, such as ` (Primary Key, Max Length: 50)`. -/
def describe (c : Constraints) : String := parenthesized (annotationsOf c)

end Constraints

end Schemata
