import Schemata.Clock
import Schemata.Failure
import Schemata.OpenApi.Paths
import Schemata.OpenApi.Snippets
import Schemata.Url
/-!
# The interface description

`OpenApi.generate` describes a model as a REST interface: the document itself with component
schemas, paths and tags, a summary of it, and client snippets.
-/

namespace Schemata.OpenApi

/-- The version of the description language. -/
def version : String := "3.0.3"

/-- The block about the interface as a whole. -/
def info (config : Config) : Value :=
  .obj [("title", .str config.apiTitle), ("description", .str config.apiDescription),
    ("version", .str config.apiVersion),
    ("contact", .obj [("name", .str config.contactName), ("url", .str config.contactUrl)])]

/-- The schemas of the entities; of two entities with one name the later counts. -/
def schemas (m : Model) (stamp : String) : Entries String Value :=
  Entries.ofList (m.entities.map fun e => (e.name, componentSchema e stamp))

/-- The tag of an entity. -/
def tag (e : Entity) : Value :=
  .obj [("name", .str e.name), ("description", .str (e.title ++ " operations"))]

/-- The document of a model. -/
def document (config : Config) (m : Model) (stamp : String) : Value :=
  .obj [("openapi", .str version), ("info", info config),
    ("servers", .list (config.servers.map Server.toValue)),
    ("paths", .obj (paths config m)),
    ("components", .obj [("schemas", .obj (schemas m stamp)),
      ("responses", .obj sharedResponses)]),
    ("tags", .list (m.entities.map tag))]

/-- The summary of a document. -/
def summary (config : Config) (m : Model) (stamp : String) : Value :=
  .obj [("totalEndpoints", .nat (paths config m).length),
    ("totalSchemas", .nat (schemas m stamp).length),
    ("entities", .texts m.entityNames), ("generatedAt", .str stamp)]

/-- Why there is no description. -/
inductive Fault
  | clock (f : Clock.Fault)
  | url (f : Url.Fault)
  | example (f : Json.WriteFault)
  deriving Repr

/-- The text of a fault. -/
def Fault.message : Fault → String
  | clock f => f.message
  | url f => f.message
  | .example f => f.message

/-- The failure of a description; the clock may have named another stage. -/
def Fault.failure : Fault → Failure
  | clock f => f.failure .api
  | f => ⟨.api, f.message⟩

/-- The base URL of snippets, and its path. -/
def bases (config : Config) : Except Url.Fault (String × String) := do
  let base := withoutTrailingSlashes config.exampleBaseUrl
  return (base, withoutTrailingSlashes (← Url.path base))

/-- The description of a model, or why there is none. -/
def build (config : Config) (clock : Clock) (m : Model) : Except Fault Value := do
  let stamp ← clock.stamp.mapError Fault.clock
  let (base, path) ← (bases config).mapError Fault.url
  let examples ← (codeExamples m.entities base path stamp).mapError Fault.example
  return .obj [("openApiSpec", document config m stamp), ("summary", summary config m stamp),
    ("codeExamples", examples)]

/-- The description of a model. -/
def generate (config : Config) (clock : Clock) (m : Model) : Except Failure Value :=
  (build config clock m).mapError Fault.failure

end Schemata.OpenApi
