import Schemata.Config
import Schemata.OpenApi.Component
/-!
# Paths of the interface

Every entity has a path for the collection of its records and one for a single record; every
relationship between two entities has a read-only path from a record of the one to the records of
the other.  A path that is already there is not described again for a relationship.
-/

namespace Schemata.OpenApi

/-! ## 1. Parts of operations -/

/-- A reference to the schema of an entity. -/
def schemaRef (name : String) : Value := .obj [("$ref", .str ("#/components/schemas/" ++ name))]

/-- A reference to a shared response. -/
def responseRef (name : String) : Value :=
  .obj [("$ref", .str ("#/components/responses/" ++ name))]

/-- Content of the JSON media type with a schema. -/
def jsonContent (schema : Value) : Value :=
  .obj [("application/json", .obj [("schema", schema)])]

/-- A schema that only names a type. -/
def typeOnly (t : JsonType) : Value := .obj [("type", .str t.name)]

/-- The parameter that names a record. -/
def idParameter (owner : String) : Value :=
  .obj [("name", .str "id"), ("in", .str "path"), ("required", .bool true),
    ("description", .str (owner ++ " ID")), ("schema", typeOnly .integer)]

/-- An optional parameter of a query. -/
def queryParameter (name description : String) (schema : Value) : Value :=
  .obj [("name", .str name), ("in", .str "query"), ("description", .str description),
    ("required", .bool false), ("schema", schema)]

/-- A response with content. -/
def response (description : String) (schema : Value) : Value :=
  .obj [("description", .str description), ("content", jsonContent schema)]

/-- A request that has to have a record of an entity for its body. -/
def recordBody (name : String) : Value :=
  .obj [("required", .bool true), ("content", jsonContent (schemaRef name))]

/-- The names of the shared responses. -/
def notFound : String := "NotFound"

/-- The name of the shared response to bad input. -/
def validationError : String := "ValidationError"

/-- The responses that operations share. -/
def sharedResponses : Entries String Value :=
  [(notFound, response "Resource not found"
      (.obj [("type", .str "object"),
        ("properties", .obj [("error", typeOnly .string), ("message", typeOnly .string)])])),
   (validationError, response "Validation error"
      (.obj [("type", .str "object"),
        ("properties", .obj [("error", typeOnly .string),
          ("details", .obj [("type", .str "array"), ("items", typeOnly .string)])])]))]

/-! ## 2. Operations on an entity -/

/-- What a page of records says about itself. -/
def pagination : Value :=
  .obj [("type", .str "object"),
    ("properties", .obj [("page", typeOnly .integer), ("limit", typeOnly .integer),
      ("total", typeOnly .integer), ("pages", typeOnly .integer)])]

/-- The operation that lists records. -/
def listOperation (config : Config) (e : Entity) : Value :=
  .obj [("tags", .texts [e.name]), ("summary", .str ("Get all " ++ e.tableName)),
    ("description", .str ("Retrieve a list of all " ++ e.tableName)),
    ("parameters", .list
      [queryParameter "page" "Page number for pagination"
        (.obj [("type", .str "integer"), ("default", .int 1)]),
       queryParameter "limit" "Number of items per page"
        (.obj [("type", .str "integer"), ("default", .int config.defaultPageSize)]),
       queryParameter "sort" "Sort field" (typeOnly .string)]),
    ("responses", .obj [("200", response ("List of " ++ e.tableName)
      (.obj [("type", .str "object"),
        ("properties", .obj [("data", .obj [("type", .str "array"), ("items", schemaRef e.name)]),
          ("pagination", pagination)])]))])]

/-- The operation that creates a record. -/
def createOperation (e : Entity) : Value :=
  .obj [("tags", .texts [e.name]), ("summary", .str ("Create a new " ++ e.name)),
    ("description", .str ("Create a new " ++ e.name ++ " record")),
    ("requestBody", recordBody e.name),
    ("responses", .obj
      [("201", response (e.name ++ " created successfully") (schemaRef e.name)),
       ("400", responseRef validationError)])]

/-- The operation that reads a record. -/
def readOperation (e : Entity) : Value :=
  .obj [("tags", .texts [e.name]), ("summary", .str ("Get " ++ e.name ++ " by ID")),
    ("description", .str ("Retrieve a specific " ++ e.name ++ " by its ID")),
    ("parameters", .list [idParameter e.name]),
    ("responses", .obj [("200", response (e.name ++ " details") (schemaRef e.name)),
      ("404", responseRef notFound)])]

/-- The operation that changes a record. -/
def updateOperation (e : Entity) : Value :=
  .obj [("tags", .texts [e.name]), ("summary", .str ("Update " ++ e.name)),
    ("description", .str ("Update an existing " ++ e.name)),
    ("parameters", .list [idParameter e.name]), ("requestBody", recordBody e.name),
    ("responses", .obj
      [("200", response (e.name ++ " updated successfully") (schemaRef e.name)),
       ("404", responseRef notFound), ("400", responseRef validationError)])]

/-- The operation that deletes a record. -/
def deleteOperation (e : Entity) : Value :=
  .obj [("tags", .texts [e.name]), ("summary", .str ("Delete " ++ e.name)),
    ("description", .str ("Delete a " ++ e.name ++ " by ID")),
    ("parameters", .list [idParameter e.name]),
    ("responses", .obj
      [("204", .obj [("description", .str (e.name ++ " deleted successfully"))]),
       ("404", responseRef notFound)])]

/-! ## 3. Paths -/

/-- The path of a collection. -/
def collectionPath (e : Entity) : String := "/" ++ e.tableName

/-- The path of a record. -/
def recordPath (e : Entity) : String := collectionPath e ++ "/\x7bid\x7d"

/-- The two paths of an entity. -/
def entityPaths (config : Config) (e : Entity) : Entries String Value :=
  Entries.ofList
    [(collectionPath e, .obj [("get", listOperation config e), ("post", createOperation e)]),
     (recordPath e, .obj [("get", readOperation e), ("put", updateOperation e),
       ("delete", deleteOperation e)])]

/-- The path from a record of one entity to the records of another. -/
def linkPath (source target : Entity) : String := recordPath source ++ "/" ++ target.tableName

/-- The operation that reads the records at the other end of a relationship. -/
def linkOperation (l : Model.Link) : Value :=
  let r := l.relationship
  .obj [("tags", .texts [r.source]),
    ("summary", .str ("Get " ++ r.target ++ " related to " ++ r.source)),
    ("description", .str ("Retrieve " ++ l.target.tableName ++ " associated with a specific " ++
      r.source)),
    ("parameters", .list [idParameter r.source]),
    ("responses", .obj
      [("200", response ("Related " ++ l.target.tableName)
        (.obj [("type", .str "array"), ("items", schemaRef r.target)])),
       ("404", responseRef notFound)])]

/-- Adds the path of a relationship unless it is there. -/
def addLink (paths : Entries String Value) (l : Model.Link) : Entries String Value :=
  let path := linkPath l.source l.target
  if Entries.contains path paths then paths
  else paths ++ [(path, .obj [("get", linkOperation l)])]

/-- The paths of a model. -/
def paths (config : Config) (m : Model) : Entries String Value :=
  let ofEntities := m.entities.foldl (fun acc e => Entries.putAll acc (entityPaths config e)) []
  m.resolved.foldl addLink ofEntities

end Schemata.OpenApi
