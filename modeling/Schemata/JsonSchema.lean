import Schemata.Clock
import Schemata.Config
import Schemata.Model.Normal
/-!
# The JSON Schema document

`JsonSchema.document` describes a model in JSON Schema: one definition for each entity, and the
relationships as they were supplied.  What the types of JSON cannot say (type tokens, constraint
maps, table names) stands beside them under `metadata`.
-/

namespace Schemata.JsonSchema

/-- The dialect of the document. -/
def dialect : String := "https://json-schema.org/draft/2020-12/schema"

/-- An entry that is there when its value is. -/
def entry? (key : String) (v : Option Value) : Entries String Value := (v.map (key, ·)).toList

/-- The constraints that apply to the type of a field. -/
def limits (f : Field) : Entries String Value :=
  let rules := f.rules
  if f.kind.isText then
    entry? "maxLength" (rules.maxLength.map .int) ++
      entry? "minLength" (rules.minLength.map .int) ++
      entry? "pattern" (rules.pattern.map .str)
  else if f.kind.isNumeric then
    entry? "minimum" (rules.minimum.map Number.toValue) ++
      entry? "maximum" (rules.maximum.map Number.toValue)
  else if f.kind = .array then entry? "items" (rules.items.map .obj)
  else []

/-- What a field loses to the types of JSON. -/
def fieldMetadata (f : Field) : Value :=
  .obj [("fieldName", .str f.name), ("originalType", .str f.type),
    ("constraints", f.wireConstraints)]

/-- The schema of a field. -/
def property (f : Field) : Value :=
  .obj ([("description", .str (f.description.getD "")), ("type", .str f.kind.jsonType.name)] ++
    entry? "format" (f.kind.format.map .str) ++ limits f ++
    entry? "default" f.rules.default ++ entry? "enum" (f.rules.choices.map .list) ++
    [("metadata", fieldMetadata f)])

/-- The schema of an entity; of two fields with one name the later counts. -/
def definition (e : Entity) : Value :=
  .obj [("type", .str "object"), ("title", .str e.title),
    ("description", .str ("Schema for " ++ e.name ++ " entity")),
    ("properties", .obj (Entries.ofList (e.fields.map fun f => (f.name, property f)))),
    ("required", .texts ((e.fields.filter Field.required).map Field.name)),
    ("additionalProperties", .bool false),
    ("metadata", .obj [("tableName", .str e.tableName), ("entity", .str e.name)])]

/-- The definitions of a model; of two entities with one name the later counts. -/
def definitions (m : Model) : Entries String Value :=
  Entries.ofList (m.entities.map fun e => (e.name, definition e))

/-- The document of a model, made at a time. -/
def documentAt (config : Config) (m : Model) (stamp : String) : Value :=
  .obj [("$schema", .str dialect), ("$id", .str config.schemaId),
    ("title", .str config.schemaTitle), ("description", .str config.schemaDescription),
    ("type", .str "object"), ("definitions", .obj (definitions m)),
    ("relationships", .list (m.relationships.map Relationship.toWire)),
    ("metadata", .obj [("generatedAt", .str stamp), ("totalEntities", .nat m.entities.length),
      ("totalRelationships", .nat m.relationships.length)])]

/-- The document of a model; it fails when the clock does. -/
def document (config : Config) (clock : Clock) (m : Model) : Except Failure Value :=
  match clock.stamp with
  | .ok stamp => .ok (documentAt config m stamp)
  | .error fault => .error (fault.failure .schema)

end Schemata.JsonSchema
