import Schemata.Value.Display
/-!
# Rules about schema documents

A schema document is itself checked against a schema, its dialect.  The dialects use few keywords;
a `Rule` is one keyword with what it asks for.

* `Rule.whole` asks for the whole dialect once more, which is how dialects speak of documents
  inside documents.
-/

namespace Schemata.MetaSchema

/-! ## 1. Types -/

/-- The names of types. -/
inductive TypeName
  | array | boolean | integer | null | number | object | string
  deriving DecidableEq, Repr

namespace TypeName

/-- The name of a type in documents. -/
def text : TypeName → String
  | array => "array"
  | boolean => "boolean"
  | integer => "integer"
  | null => "null"
  | number => "number"
  | object => "object"
  | string => "string"

/-- All types, by name. -/
def all : List TypeName := [array, boolean, integer, null, number, object, string]

/-- Whether a value has a type; a number without a fraction is an integer if `whole` says so. -/
def holds (whole : Bool) : TypeName → Value → Bool
  | array, .list _ => true
  | boolean, .bool _ => true
  | integer, .int _ => true
  | integer, .float x => whole && x.toInt?.isSome
  | null, .null => true
  | number, .int _ => true
  | number, .float _ => true
  | object, .map _ => true
  | string, .str _ => true
  | _, _ => false

end TypeName

/-! ## 2. Forms of texts -/

/-- A form that a text can be asked to have. -/
inductive Form
  | reference | anchor
  deriving DecidableEq, Repr

namespace Form

/-- The pattern of a form. -/
def pattern : Form → String
  | reference => "^[^#]*#?$"
  | anchor => "^[A-Za-z_][-A-Za-z0-9._]*$"

/-- A text without one line break at its end. -/
def body (cs : List Char) : List Char := if cs.getLast? = some '\n' then cs.dropLast else cs

/-- Whether a text has a form: a reference has a number sign at most at its end, an anchor is a
name. -/
def holds (f : Form) (s : String) : Bool :=
  let cs := body s.toList
  match f with
  | reference => !(if cs.getLast? = some '#' then cs.dropLast else cs).contains '#'
  | anchor =>
    match cs with
    | [] => false
    | c :: rest =>
      (c.isAlpha || c = '_') && rest.all fun d => d.isAlphanum || d = '-' || d = '.' || d = '_'

end Form

/-! ## 3. Rules -/

/-- A keyword of a dialect with what it asks for. -/
inductive Rule
  | types (names : List TypeName)
  | choices (names : List String)
  | least (bound : Int) (isExclusive : Bool)
  | above (bound : Int)
  | form (f : Form)
  | nonEmpty
  | distinct
  | properties (schemas : List (String × List Rule))
  | everyProperty (schema : List Rule)
  | propertyNames (schema : List Rule)
  | items (schema : List Rule)
  | all (schemas : List (List Rule))
  | any (schemas : List (List Rule))
  | requires (needs : List (String × List String))
  | whole (isDynamic : Bool)
  deriving Repr

/-- A schema as its rules; one without rules asks for nothing. -/
abbrev Schema := List Rule

/-- The keyword of a rule. -/
def Rule.keyword : Rule → String
  | types _ => "type"
  | choices _ => "enum"
  | least .. => "minimum"
  | above _ => "exclusiveMinimum"
  | form _ => "pattern"
  | nonEmpty => "minItems"
  | distinct => "uniqueItems"
  | properties _ => "properties"
  | everyProperty _ => "additionalProperties"
  | propertyNames _ => "propertyNames"
  | items _ => "items"
  | all _ => "allOf"
  | any _ => "anyOf"
  | requires _ => "dependencies"
  | whole true => "$dynamicRef"
  | whole false => "$ref"

end Schemata.MetaSchema
