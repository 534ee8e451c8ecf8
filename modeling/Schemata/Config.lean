import Schemata.Model.Coercion
/-!
# Settings of the generators

`Config` holds the texts and limits that the generated documents take over; every setting has a
default.  `Config.read` refuses settings it does not know.
-/

namespace Schemata

open Coercion

/-! ## 1. Servers -/

/-- A server that offers the described interface. -/
structure Server where
  url : String
  description : String
  deriving DecidableEq, Repr

namespace Server

/-- The name of the record in complaints. -/
def recordName : String := "ServerInfo"

/-- Reads a server. -/
def read (v : Value) : Checked Server :=
  record recordName v fun es =>
    (Checked.ok Server.mk
      |>.and (required es ["url"] nonEmptyText)
      |>.and (optionalField es ["description"] "" text)).withMore
        (extraComplaints es ["url", "description"])

/-- A server as a value. -/
def toValue (s : Server) : Value := .obj [("url", .str s.url), ("description", .str s.description)]

end Server

/-! ## 2. Settings -/

/-- The settings of the generators. -/
structure Config where
  schemaId : String := "generated-schema"
  schemaTitle : String := "Generated Schema"
  schemaDescription : String := "Auto-generated schema from natural language description"
  apiTitle : String := "Generated API"
  apiDescription : String := "Auto-generated REST API from natural language description"
  apiVersion : String := "1.0.0"
  contactName : String := "API Generator"
  contactUrl : String := "https://github.com/your-repo"
  servers : List Server :=
    [⟨"http://localhost:3000/api", "Development server"⟩,
     ⟨"https://your-api.com/api", "Production server"⟩]
  defaultPageSize : Int := 10
  exampleBaseUrl : String := "http://localhost:3000/api"
  diagramType : String := "Entity Relationship Diagram"
  includeAlternatives : Bool := false
  parallel : Bool := false
  maxWorkers : Int := 3
  deriving DecidableEq, Repr

namespace Config

/-- The name of the record in complaints. -/
def recordName : String := "GenerationConfig"

/-- The names of the settings, in order. -/
def settingNames : List String :=
  ["schema_id", "schema_title", "schema_description", "api_title", "api_description",
   "api_version", "contact_name", "contact_url", "servers", "default_page_size",
   "code_example_base_url", "diagram_type", "include_alternative_diagrams", "parallel",
   "max_workers"]

/-- A page holds between 1 and 1000 items. -/
def readPageSize : Value → Checked Int := integerBetween 1 1000

/-- A pool has between 1 and 32 workers. -/
def readWorkers : Value → Checked Int := integerBetween 1 32

/-- Reads settings; one that is left out has its default. -/
def read (v : Value) : Checked Config :=
  let d : Config := {}
  record recordName v fun es =>
    (Checked.ok Config.mk
      |>.and (optionalField es ["schema_id"] d.schemaId text)
      |>.and (optionalField es ["schema_title"] d.schemaTitle text)
      |>.and (optionalField es ["schema_description"] d.schemaDescription text)
      |>.and (optionalField es ["api_title"] d.apiTitle text)
      |>.and (optionalField es ["api_description"] d.apiDescription text)
      |>.and (optionalField es ["api_version"] d.apiVersion text)
      |>.and (optionalField es ["contact_name"] d.contactName text)
      |>.and (optionalField es ["contact_url"] d.contactUrl text)
      |>.and (optionalField es ["servers"] d.servers (listOf Server.read))
      |>.and (optionalField es ["default_page_size"] d.defaultPageSize readPageSize)
      |>.and (optionalField es ["code_example_base_url"] d.exampleBaseUrl text)
      |>.and (optionalField es ["diagram_type"] d.diagramType text)
      |>.and (optionalField es ["include_alternative_diagrams"] d.includeAlternatives boolean)
      |>.and (optionalField es ["parallel"] d.parallel boolean)
      |>.and (optionalField es ["max_workers"] d.maxWorkers readWorkers)).withMore
        (extraComplaints es settingNames)

/-- Settings as a value, in order. -/
def toValue (c : Config) : Value :=
  .obj (settingNames.zip
    [.str c.schemaId, .str c.schemaTitle, .str c.schemaDescription, .str c.apiTitle,
     .str c.apiDescription, .str c.apiVersion, .str c.contactName, .str c.contactUrl,
     .list (c.servers.map Server.toValue), .int c.defaultPageSize, .str c.exampleBaseUrl,
     .str c.diagramType, .bool c.includeAlternatives, .bool c.parallel, .int c.maxWorkers])

end Config

end Schemata
