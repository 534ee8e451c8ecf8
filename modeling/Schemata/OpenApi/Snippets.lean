import Schemata.Config
import Schemata.Json.Writer
import Schemata.OpenApi.Component
import Schemata.Text.Casing
import Schemata.Value.Wrapped
/-!
# Client snippets

Ready-made calls of the operations on an entity, in JavaScript, Python and for `curl`.  The
snippets that create a record embed its example.
-/

namespace Schemata.OpenApi

/-! ## 1. Texts inside snippets -/

/-- A text inside single quotes of a shell: each quote closes them, stands escaped and opens them
again. -/
def shellEscape (s : String) : String :=
  String.ofList (s.toList.flatMap fun c => if c = '\'' then ['\'', '\\', '\'', '\''] else [c])

/-- A text without slashes at its end. -/
def withoutTrailingSlashes (s : String) : String :=
  String.ofList (s.toList.reverse.dropWhile (· = '/')).reverse

/-- Lines of a snippet. -/
def snippet (lines : List String) : Value := .str ("\n".intercalate lines)

/-! ## 2. JavaScript -/

/-- The content type of a request. -/
def scriptHeaders : String := "  headers: \x7b 'Content-Type': 'application/json' \x7d,"

/-- Calls from JavaScript; `base` is the path of the interface and `body` the example record. -/
def javascript (e : Entity) (base body : String) : Entries String Value :=
  let name := e.name
  let table := e.tableName
  let cap := Text.capitalizeFirst name
  let all := base ++ "/" ++ table
  let one := all ++ "/1"
  [("getAll", snippet
      ["// Get all " ++ table,
       "const response = await fetch('" ++ all ++ "');",
       "const data = await response.json();",
       "console.log(data);"]),
   ("getById", snippet
      ["// Get " ++ name ++ " by ID",
       "const response = await fetch('" ++ one ++ "');",
       "const " ++ name ++ " = await response.json();",
       "console.log(" ++ name ++ ");"]),
   ("create", snippet
      ["// Create new " ++ name,
       "const new" ++ cap ++ " = " ++ body ++ ";",
       "",
       "const response = await fetch('" ++ all ++ "', \x7b",
       "  method: 'POST',",
       scriptHeaders,
       "  body: JSON.stringify(new" ++ cap ++ ")",
       "\x7d);",
       "const created" ++ cap ++ " = await response.json();"]),
   ("update", snippet
      ["// Update " ++ name,
       "const updates = \x7b name: 'Updated Name' \x7d;",
       "",
       "const response = await fetch('" ++ one ++ "', \x7b",
       "  method: 'PUT',",
       scriptHeaders,
       "  body: JSON.stringify(updates)",
       "\x7d);",
       "const updated" ++ cap ++ " = await response.json();"]),
   ("delete", snippet
      ["// Delete " ++ name,
       "const response = await fetch('" ++ one ++ "', \x7b",
       "  method: 'DELETE'",
       "\x7d);",
       "console.log('" ++ name ++ " deleted:', response.ok);"])]

/-! ## 3. Python -/

/-- Calls from Python; `base` is the base URL and `body` the example record. -/
def python (e : Entity) (base body : String) : Entries String Value :=
  let name := e.name
  let table := e.tableName
  let all := base ++ "/" ++ table
  [("getAll", snippet
      ["# Get all " ++ table,
       "import requests",
       "",
       "response = requests.get('" ++ all ++ "')",
       "data = response.json()",
       "print(data)"]),
   ("create", snippet
      ["# Create new " ++ name,
       "import requests",
       "",
       "new_" ++ name ++ " = " ++ body,
       "",
       "response = requests.post('" ++ all ++ "', json=new_" ++ name ++ ")",
       "created_" ++ name ++ " = response.json()",
       "print(created_" ++ name ++ ")"])]

/-! ## 4. Command line -/

/-- The header line of a request with a body. -/
def curlHeader : String := "  -H \"Content-Type: application/json\" \\"

/-- Calls by `curl`; `base` is the base URL and `body` the example record. -/
def curl (e : Entity) (base body : String) : Entries String Value :=
  let name := e.name
  let table := e.tableName
  let all := base ++ "/" ++ table
  [("getAll", snippet
      ["# Get all " ++ table,
       "curl -X GET \"" ++ all ++ "\""]),
   ("create", snippet
      ["# Create new " ++ name,
       "curl -X POST \"" ++ all ++ "\" \\",
       curlHeader,
       "  -d '" ++ shellEscape body ++ "'"]),
   ("update", snippet
      ["# Update " ++ name,
       "curl -X PUT \"" ++ all ++ "/1\" \\",
       curlHeader,
       "  -d '\x7b\"name\": \"Updated Name\"\x7d'"]),
   ("delete", snippet
      ["# Delete " ++ name,
       "curl -X DELETE \"" ++ all ++ "/1\""])]

/-! ## 5. All snippets -/

/-- The snippets of an entity in each notation. -/
structure Snippets where
  javascript : Entries String Value
  python : Entries String Value
  curl : Entries String Value

/-- The snippets of an entity; an example that JSON cannot hold has none. -/
def snippetsOf (e : Entity) (base path stamp : String) : Except Json.WriteFault Snippets := do
  let record := Value.obj (exampleRecord e stamp)
  let indented ← Json.write (.indented 2) record
  let compact ← Json.write .compact record
  return ⟨javascript e path indented, python e base record.wrapped, curl e base compact⟩

/-- The snippets of all entities by notation and entity. -/
def codeExamples (entities : List Entity) (base path stamp : String) :
    Except Json.WriteFault Value := do
  let each ← entities.mapM fun e => do return (e.name, ← snippetsOf e base path stamp)
  let by' (part : Snippets → Entries String Value) : Value :=
    .obj (Entries.ofList (each.map fun (name, s) => (name, .obj (part s))))
  return .obj [("javascript", by' Snippets.javascript), ("python", by' Snippets.python),
    ("curl", by' Snippets.curl)]

end Schemata.OpenApi
