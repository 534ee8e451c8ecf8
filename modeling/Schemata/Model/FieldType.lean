import Schemata.Text.Casing
/-!
# Types of fields

The abstract types that a model gives its fields, and what each of them is called in every target
notation.  Every table has an entry for `unknown`, so that a token which names no type is shown as
a text.
-/

namespace Schemata

/-! ## 1. Field types -/

/-- An abstract field type. -/
inductive FieldType
  | string | text | email | url
  | number | integer | int | float | decimal | double
  | boolean | bool
  | date | datetime | timestamp
  | array | json | object
  | unknown
  deriving DecidableEq, Repr, Inhabited

/-- The types of JSON. -/
inductive JsonType
  | string | integer | number | boolean | array | object
  deriving DecidableEq, Repr

/-- The name of a JSON type. -/
def JsonType.name : JsonType → String
  | string => "string"
  | integer => "integer"
  | number => "number"
  | boolean => "boolean"
  | array => "array"
  | object => "object"

namespace FieldType

/-- All field types. -/
def all : List FieldType :=
  [string, text, email, url, number, integer, int, float, decimal, double, boolean, bool, date,
   datetime, timestamp, array, json, object, unknown]

/-- The token of a field type. -/
def token : FieldType → String
  | string => "string"
  | text => "text"
  | email => "email"
  | url => "url"
  | number => "number"
  | integer => "integer"
  | int => "int"
  | float => "float"
  | decimal => "decimal"
  | double => "double"
  | boolean => "boolean"
  | bool => "bool"
  | date => "date"
  | datetime => "datetime"
  | timestamp => "timestamp"
  | array => "array"
  | json => "json"
  | object => "object"
  | unknown => "unknown"

/-- The field type of a token in any case; `unknown` when there is none. -/
def parse (s : String) : FieldType :=
  let s := Text.lowerAscii s
  (all.find? fun t => t.token = s).getD unknown

/-- The types that carry a length or a pattern. -/
def isText : FieldType → Bool
  | string | text => true
  | _ => false

/-- The types that carry bounds. -/
def isNumeric : FieldType → Bool
  | number | integer | int | float | decimal | double => true
  | _ => false

/-! ## 2. Names in the targets -/

/-- The JSON type of a field. -/
def jsonType : FieldType → JsonType
  | number | integer | int => .integer
  | float | decimal | double => .number
  | boolean | bool => .boolean
  | array => .array
  | json | object => .object
  | _ => .string

/-- The format that goes with the JSON type. -/
def format : FieldType → Option String
  | email => some "email"
  | url => some "uri"
  | date | datetime | timestamp => some "date-time"
  | _ => none

/-- The type of a field in the description of an interface.  That notation has a table of its own,
so that it can leave the one of JSON Schema. -/
def componentType : FieldType → JsonType
  | number | integer | int => .integer
  | float | decimal | double => .number
  | boolean | bool => .boolean
  | array => .array
  | json | object => .object
  | string | text | email | url | date | datetime | timestamp | unknown => .string

/-- The format that goes with the type in the description of an interface. -/
def componentFormat : FieldType → Option String
  | email => some "email"
  | url => some "uri"
  | date | datetime | timestamp => some "date-time"
  | string | text | number | integer | int | float | decimal | double | boolean | bool | array
  | json | object | unknown => none

/-- The column type in an entity-relationship diagram. -/
def erName : FieldType → String
  | text => "text"
  | number | integer | int => "int"
  | float => "float"
  | decimal => "decimal"
  | double => "double"
  | boolean | bool => "boolean"
  | date => "date"
  | datetime => "datetime"
  | timestamp => "timestamp"
  | array | json | object => "json"
  | _ => "varchar"

/-- The attribute type in a class diagram. -/
def umlName : FieldType → String
  | text => "TEXT"
  | number | integer | int => "INTEGER"
  | float => "FLOAT"
  | decimal => "DECIMAL"
  | double => "DOUBLE"
  | boolean | bool => "BOOLEAN"
  | date => "DATE"
  | datetime => "DATETIME"
  | timestamp => "TIMESTAMP"
  | array | json | object => "JSON"
  | _ => "VARCHAR"

end FieldType

end Schemata
