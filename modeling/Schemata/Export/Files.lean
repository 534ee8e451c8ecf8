import Schemata.Generation.Bundle
import Schemata.Yaml.Writer
/-!
# Files of a bundle

`Export.render` gives the files that a bundle is written to: the schema, the description of the
interface with its code examples, and the diagrams.  An artifact that is missing has no files.
-/

namespace Schemata.Export

/-! ## 1. Formats -/

/-- The format of the description of the interface. -/
inductive ApiFormat
  | json | yaml
  deriving DecidableEq, Repr

namespace ApiFormat

/-- All formats. -/
def all : List ApiFormat := [json, yaml]

/-- The name of a format. -/
def name : ApiFormat → String
  | json => "json"
  | yaml => "yaml"

end ApiFormat

/-- Why files cannot be rendered. -/
inductive Fault
  | format (given : Value)
  | json (f : Json.WriteFault)
  | yaml (kind : Value.Kind)
  deriving Repr

namespace Fault

/-- The sort of a fault: a value that is not allowed, or of a type that is not. -/
def label : Fault → String
  | format _ | json .endless | json .tooLong => "ValueError"
  | json _ | yaml _ => "TypeError"

/-- The text of a fault. -/
def message : Fault → String
  | format given =>
    "openapi_format must be one of (" ++
      ", ".intercalate (ApiFormat.all.map fun f => Text.Quoted.literal f.name) ++ "), got " ++
      given.literal
  | json f => f.message
  | yaml kind => "cannot represent an object of type " ++ kind.name

end Fault

/-- The format that a value names. -/
def ApiFormat.parse : Value → Except Fault ApiFormat
  | .str s =>
    match ApiFormat.all.find? fun f => f.name = s with
    | some f => .ok f
    | none => .error (.format (.str s))
  | v => .error (.format v)

/-! ## 2. Texts -/

/-- A value as the text of a JSON file. -/
def jsonText (v : Value) : Except Fault String :=
  match Json.write (.indented 2) v with
  | .ok s => .ok (s ++ "\n")
  | .error f => .error (.json f)

/-- A value as the text of a YAML file. -/
def yamlText (v : Value) : Except Fault String := (Yaml.write v).mapError Fault.yaml

/-- A part of an artifact. -/
def part (key : String) : Value → Value
  | .map entries => (Value.member? key entries).getD .null
  | _ => .null

/-- The text in a part of an artifact. -/
def textPart (key : String) (v : Value) : String := (part key v).display

/-! ## 3. Files -/

/-- Files by their paths, in the order in which they are written. -/
abbrev Files := List (String × String)

/-- The files of the schema. -/
def schemaFiles (v : Value) : Except Fault Files := do
  return [("schema.json", ← jsonText v)]

/-- The files of the interface; `identity` says which places of the description hold one object. -/
def apiFiles (format : ApiFormat) (identity : Yaml.Identity OpenApi.Origin) (v : Value) :
    Except Fault Files := do
  let document := part "openApiSpec" v
  let description ← match format with
    | .json => jsonText document
    | .yaml => (Yaml.writeShared identity document).mapError Fault.yaml
  let examples ← jsonText (part "codeExamples" v)
  return [("openapi." ++ format.name, description), ("code_examples.json", examples)]

/-- The files of the diagrams. -/
def diagramFiles (v : Value) : Files :=
  [("erd.mmd", textPart "mermaid" v), ("erd.puml", textPart "plantUML" v),
    ("description.txt", textPart "textual" v)] ++
  match part "alternatives" v with
  | .map entries => entries.map fun (k, v) => ("alternatives/" ++ k.display ++ ".mmd", v.display)
  | _ => []

/-- The files of a bundle. -/
def render (format : Value) (b : Bundle) : Except Fault Files := do
  let format ← ApiFormat.parse format
  let schema ← match b.schema with
    | some v => schemaFiles v
    | none => pure []
  let api ← match b.api with
    | some v => apiFiles format b.apiIdentity v
    | none => pure []
  return schema ++ api ++ ((b.diagrams.map diagramFiles).getD [])

end Schemata.Export
