import Schemata.Model.Basic
/-!
# Component schemas

The schema of an entity in an interface description, with an example record.  The description
language knows neither a null default nor an empty list of choices, and leaves an empty list of
required fields out.
-/

namespace Schemata.OpenApi

/-! ## 1. Fields -/

/-- An entry that is there when its value is. -/
def given (key : String) : Option Value → Entries String Value
  | some v => [(key, v)]
  | none => []

/-- The constraints that apply to the type of a field; the items of an array are texts. -/
def typeLimits (f : Field) : Entries String Value :=
  let rules := f.rules
  if f.kind.isText then
    given "maxLength" (rules.maxLength.map Value.int) ++
      given "minLength" (rules.minLength.map Value.int) ++
      given "pattern" (rules.pattern.map Value.str)
  else if f.kind.isNumeric then
    given "minimum" (rules.minimum.map Number.toValue) ++
      given "maximum" (rules.maximum.map Number.toValue)
  else if f.kind = .array then [("items", .obj [("type", .str "string")])]
  else []

/-- A default other than null. -/
def usableDefault (f : Field) : Option Value :=
  match f.rules.default with
  | some .null => none
  | v => v

/-- A list of choices that is not empty. -/
def usableChoices (f : Field) : Option (List Value) :=
  match f.rules.choices with
  | some [] => none
  | vs => vs

/-- The schema of a field, but for its default and its choices. -/
def propertyHead (f : Field) : Entries String Value :=
  [("description", .str (f.description.getD "")), ("type", .str f.kind.componentType.name)] ++
    given "format" (f.kind.componentFormat.map Value.str) ++ typeLimits f

/-- The schema of a field. -/
def propertySchema (f : Field) : Value :=
  .obj (propertyHead f ++ given "default" (usableDefault f) ++
    given "enum" ((usableChoices f).map Value.list))

/-! ## 2. Examples -/

/-- A price of `99.99`. -/
def samplePrice : Binary64 := Binary64.ofDecimal false 9999 4 (-2)

/-- An example value of a field by its type. -/
def typeExample (f : Field) (stamp : String) : Value :=
  match f.kind with
  | .string | .text => .str (if f.name = "name" then "John Doe" else "Sample " ++ f.name)
  | .email => .str "user@example.com"
  | .url => .str "https://example.com"
  | .number | .integer | .int => .int (if f.name = "id" then 1 else 100)
  | .float | .decimal | .double => .float samplePrice
  | .boolean | .bool => .bool true
  | .date | .datetime | .timestamp => .str stamp
  | .array => .list [.str "sample"]
  | .json | .object => .obj []
  | .unknown => .str ("sample_" ++ f.name)

/-- An example value of a field: the first of its choices, or one of its type. -/
def exampleValue (f : Field) (stamp : String) : Value :=
  match usableChoices f with
  | some (v :: _) => v
  | _ => typeExample f stamp

/-- An example record; of two fields with one name the later counts. -/
def exampleRecord (e : Entity) (stamp : String) : Entries String Value :=
  Entries.ofList (e.fields.map fun f => (f.name, exampleValue f stamp))

/-! ## 3. Entities -/

/-- The names of the required fields. -/
def requiredNames (e : Entity) : List String := (e.fields.filter Field.required).map Field.name

/-- The entry of the required names; there is none for an empty list. -/
def requiredEntry (e : Entity) : Entries String Value :=
  if (requiredNames e).isEmpty then [] else [("required", .texts (requiredNames e))]

/-- The schema of an entity. -/
def componentSchema (e : Entity) (stamp : String) : Value :=
  .obj ([("type", .str "object"),
      ("properties", .obj (Entries.ofList (e.fields.map fun f => (f.name, propertySchema f))))] ++
    requiredEntry e ++ [("example", .obj (exampleRecord e stamp))])

end Schemata.OpenApi
