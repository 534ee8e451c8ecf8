import Schemata.MetaSchema.Rule
import Schemata.Url
/-!
# Dialects

Three dialects of schema documents and the addresses that name them.  Only rules that can be broken
are listed: annotations and formats ask for nothing.

There are more dialects: drafts 3 and 6 and the one of 2019-09 have addresses of their own.  Their
rules are not told here; `MetaSchema.judgeAmong` takes them as given.
-/

namespace Schemata.MetaSchema

/-! ## 1. Shared parts -/

/-- One of some types. -/
def typed (names : List TypeName) : Schema := [.types names]

/-- A text. -/
def text : Schema := typed [.string]

/-- A boolean. -/
def boolean : Schema := typed [.boolean]

/-- A number. -/
def number : Schema := typed [.number]

/-- Any list. -/
def anyList : Schema := typed [.array]

/-- An integer that is not negative. -/
def count : Schema := [.types [.integer], .least 0 false]

/-- A list of distinct texts. -/
def names : Schema := [.types [.array], .items text, .distinct]

/-- A list of at least one document. -/
def documents (whole : Rule) : Schema := [.types [.array], .nonEmpty, .items [whole]]

/-- A map whose values are documents. -/
def documentMap (whole : Rule) : Schema := [.types [.object], .everyProperty [whole]]

/-- The name of a type. -/
def typeName : Schema := [.choices (TypeName.all.map TypeName.text)]

/-- The name of a type, or several. -/
def typeNames : Schema :=
  [.any [typeName, [.types [.array], .items typeName, .nonEmpty, .distinct]]]

/-! ## 2. Draft 2020-12 -/

namespace Draft202012

/-- The whole dialect once more. -/
def whole : Rule := .whole true

/-- A document. -/
def document : Schema := [whole]

/-- The name of an anchor. -/
def anchor : Schema := [.types [.string], .form .anchor]

/-- A vocabulary: rules on the properties of documents. -/
def vocabulary (properties : List (String × Schema)) : Schema :=
  [.types [.object, .boolean], .properties properties]

/-- Identifiers and references. -/
def core : Schema := vocabulary [
  ("$id", [.types [.string], .form .reference]), ("$schema", text), ("$ref", text),
  ("$anchor", anchor), ("$dynamicRef", text), ("$dynamicAnchor", anchor),
  ("$vocabulary", [.types [.object], .propertyNames text, .everyProperty boolean]),
  ("$comment", text), ("$defs", documentMap whole)]

/-- Documents inside documents. -/
def applicator : Schema := vocabulary [
  ("prefixItems", documents whole), ("items", document), ("contains", document),
  ("additionalProperties", document), ("properties", documentMap whole),
  ("patternProperties", documentMap whole), ("dependentSchemas", documentMap whole),
  ("propertyNames", document), ("if", document), ("then", document), ("else", document),
  ("allOf", documents whole), ("anyOf", documents whole), ("oneOf", documents whole),
  ("not", document)]

/-- What is left over by other keywords. -/
def unevaluated : Schema := vocabulary [
  ("unevaluatedItems", document), ("unevaluatedProperties", document)]

/-- Assertions. -/
def validation : Schema := vocabulary [
  ("type", typeNames), ("enum", anyList), ("multipleOf", [.types [.number], .above 0]),
  ("maximum", number), ("exclusiveMaximum", number), ("minimum", number),
  ("exclusiveMinimum", number), ("maxLength", count), ("minLength", count), ("pattern", text),
  ("maxItems", count), ("minItems", count), ("uniqueItems", boolean), ("maxContains", count),
  ("minContains", count), ("maxProperties", count), ("minProperties", count),
  ("required", names), ("dependentRequired", [.types [.object], .everyProperty names])]

/-- Annotations for readers. -/
def annotations : Schema := vocabulary [
  ("title", text), ("description", text), ("deprecated", boolean), ("readOnly", boolean),
  ("writeOnly", boolean), ("examples", anyList)]

/-- Formats. -/
def formats : Schema := vocabulary [("format", text)]

/-- Contents of texts. -/
def contents : Schema := vocabulary [
  ("contentEncoding", text), ("contentMediaType", text), ("contentSchema", document)]

/-- The dialect: all vocabularies and the keywords of earlier drafts. -/
def schema : Schema := [
  .all [core, applicator, unevaluated, validation, annotations, formats, contents],
  .types [.object, .boolean],
  .properties [
    ("definitions", documentMap whole),
    ("dependencies", [.types [.object], .everyProperty [.any [document, names]]]),
    ("$recursiveAnchor", anchor), ("$recursiveRef", text)]]

end Draft202012

/-! ## 3. Draft 7 -/

namespace Draft7

/-- The whole dialect once more. -/
def whole : Rule := .whole false

/-- A document. -/
def document : Schema := [whole]

/-- A count that may be left out. -/
def optionalCount : Schema := [.all [count, []]]

/-- The dialect. -/
def schema : Schema := [
  .types [.object, .boolean],
  .properties [
    ("$id", text), ("$schema", text), ("$ref", text), ("$comment", text), ("title", text),
    ("description", text), ("readOnly", boolean), ("examples", anyList),
    ("multipleOf", [.types [.number], .above 0]), ("maximum", number),
    ("exclusiveMaximum", number), ("minimum", number), ("exclusiveMinimum", number),
    ("maxLength", count), ("minLength", optionalCount), ("pattern", text),
    ("additionalItems", document), ("items", [.any [document, documents whole]]),
    ("maxItems", count), ("minItems", optionalCount), ("uniqueItems", boolean),
    ("contains", document), ("maxProperties", count), ("minProperties", optionalCount),
    ("required", names), ("additionalProperties", document), ("definitions", documentMap whole),
    ("properties", documentMap whole), ("patternProperties", documentMap whole),
    ("dependencies", [.types [.object], .everyProperty [.any [document, names]]]),
    ("propertyNames", document), ("enum", anyList), ("type", typeNames), ("format", text),
    ("contentMediaType", text), ("contentEncoding", text), ("if", document),
    ("then", document), ("else", document), ("allOf", documents whole),
    ("anyOf", documents whole), ("oneOf", documents whole), ("not", document)]]

end Draft7

/-! ## 4. Draft 4 -/

namespace Draft4

/-- The whole dialect once more. -/
def whole : Rule := .whole false

/-- A document. -/
def document : Schema := [whole]

/-- A count that may be left out. -/
def optionalCount : Schema := [.all [count, []]]

/-- A list of at least one text, all distinct. -/
def someNames : Schema := [.types [.array], .items text, .nonEmpty, .distinct]

/-- A boolean or a document. -/
def booleanOrDocument : Schema := [.any [boolean, document]]

/-- The dialect. -/
def schema : Schema := [
  .types [.object],
  .properties [
    ("id", text), ("$schema", text), ("title", text), ("description", text),
    ("multipleOf", [.types [.number], .least 0 true]), ("maximum", number),
    ("exclusiveMaximum", boolean), ("minimum", number), ("exclusiveMinimum", boolean),
    ("maxLength", count), ("minLength", optionalCount), ("pattern", text),
    ("additionalItems", booleanOrDocument), ("items", [.any [document, documents whole]]),
    ("maxItems", count), ("minItems", optionalCount), ("uniqueItems", boolean),
    ("maxProperties", count), ("minProperties", optionalCount), ("required", someNames),
    ("additionalProperties", booleanOrDocument), ("definitions", documentMap whole),
    ("properties", documentMap whole), ("patternProperties", documentMap whole),
    ("dependencies", [.types [.object], .everyProperty [.any [document, someNames]]]),
    ("enum", [.types [.array], .nonEmpty, .distinct]), ("type", typeNames), ("format", text),
    ("allOf", documents whole), ("anyOf", documents whole), ("oneOf", documents whole),
    ("not", document)],
  .requires [("exclusiveMaximum", ["maximum"]), ("exclusiveMinimum", ["minimum"])]]

end Draft4

/-! ## 5. Choosing a dialect -/

/-- The known dialects. -/
inductive Dialect
  | draft202012 | draft7 | draft4
  deriving DecidableEq, Repr

namespace Dialect

/-- The schema of a dialect. -/
def schema : Dialect → Schema
  | draft202012 => Draft202012.schema
  | draft7 => Draft7.schema
  | draft4 => Draft4.schema

/-- Whether numbers without a fraction count as integers. -/
def wholeNumbersAreIntegers : Dialect → Bool
  | draft4 => false
  | _ => true

/-- The dialect that an address names; any other address stands for the newest. -/
def ofAddress (a : Url.Parts) : Dialect :=
  if a = ⟨"http", "json-schema.org", "/draft-07/schema", "", ""⟩ then draft7
  else if a = ⟨"http", "json-schema.org", "/draft-04/schema", "", ""⟩ then draft4
  else draft202012

/-- Why the dialect of a document cannot be found. -/
inductive Obstacle
  | notContainer (kind : Value.Kind)
  | text
  | list
  | address (f : Url.Fault)
  | notAscii (place : Nat) (byte : UInt8)
  | notText (kind : Value.Kind)
  | notKey (kind : Value.Kind)
  deriving DecidableEq, Repr

/-- The text of an obstacle. -/
def Obstacle.message : Obstacle → String
  | notContainer kind => "argument of type '" ++ kind.fullName ++ "' is not iterable"
  | text => "string indices must be integers, not 'str'"
  | list => "list indices must be integers or slices, not str"
  | address f => f.message
  | notAscii place byte =>
    "'ascii' codec can't decode byte 0x" ++ String.ofList (Text.Quoted.hex 2 byte.toNat) ++
      " in position " ++ toString place ++ ": ordinal not in range(128)"
  | notText kind => "'" ++ kind.fullName ++ "' object has no attribute 'decode'"
  | notKey kind => "unhashable type: '" ++ kind.name ++ "'"

/-- The keyword that names a document's dialect. -/
def keyword : String := "$schema"

/-- Whether a text occurs inside another. -/
def occursIn (part : List Char) : List Char → Bool
  | [] => part.isEmpty
  | c :: rest => part.isPrefixOf (c :: rest) || occursIn part rest

/-- Whether a value is the keyword. -/
def isKeyword : Value → Bool
  | .str s => s = keyword
  | _ => false

/-- The text of some bytes, which have to be ASCII. -/
def asciiText (bs : List UInt8) : Except Obstacle String :=
  match bs.findIdx? (0x80 ≤ ·) with
  | some n => .error (.notAscii n (bs.getD n 0))
  | none => .ok (String.ofList (bs.map fun b => Char.ofNat b.toNat))

/-- The dialect that a value of the keyword names; what counts as not given names none, nor do
bytes, which have to be an address all the same. -/
def ofKeyword (v : Value) : Except Obstacle Dialect :=
  match v with
  | .str s => ((Url.split s).map ofAddress).mapError .address
  | .atom (.bytes bs) => do
    let _ ← (Url.split (← asciiText bs)).mapError .address
    return draft202012
  | .atom _ | .pair .. => if v.isTruthy then .error (.notText v.kind) else .ok draft202012
  | _ => .error (.notKey v.kind)

/-- The address by which a document names its dialect. -/
def address? : Value → Option Url.Parts
  | .map es =>
    match Value.member? keyword es with
    | some (.str s) => (Url.split s).toOption
    | _ => none
  | _ => none

/-- The dialect of a document. -/
def ofDocument : Value → Except Obstacle Dialect
  | .bool _ => .ok draft202012
  | .map es => ((Value.member? keyword es).map ofKeyword).getD (.ok draft202012)
  | .list items => if items.any isKeyword then .error .list else .ok draft202012
  | .str s => if occursIn keyword.toList s.toList then .error .text else .ok draft202012
  | .set members =>
    if members.contains (.str keyword) then .error (.notContainer .set) else .ok draft202012
  | .atom s => .error (.notContainer s.kind)
  | .pair .. | .outer .. => .ok draft202012

end Dialect

end Schemata.MetaSchema
