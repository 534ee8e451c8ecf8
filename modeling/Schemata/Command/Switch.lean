import Schemata.Convert.Render
import Schemata.Export.Files
import Schemata.Text.Quoted
/-!
# Options of the command

A `Switch` is an option of the command: its spellings, whether it takes a value, and which values
it allows.  `UsageFault` lists what can be wrong with a command line.
-/

namespace Schemata.Command

/-- The name of the command. -/
def commandName : String := "schemagen"

/-! ## 1. Options -/

/-- An option of the command. -/
inductive Switch
  | help | version | input | output | apiFormat | validateOnly | validateSchema | convert
  | apiTitle | apiVersion | baseUrl | pageSize | alternatives | parallel | verbose | quiet
  deriving DecidableEq, Repr

namespace Switch

/-- All options, in the order in which they are searched. -/
def all : List Switch :=
  [help, version, input, output, apiFormat, validateOnly, validateSchema, convert, apiTitle,
   apiVersion, baseUrl, pageSize, alternatives, parallel, verbose, quiet]

/-- The spellings of an option. -/
def spellings : Switch → List String
  | help => ["-h", "--help"]
  | version => ["--version"]
  | input => ["-i", "--input"]
  | output => ["-o", "--output"]
  | apiFormat => ["--openapi-format"]
  | validateOnly => ["--validate-only"]
  | validateSchema => ["--validate-schema"]
  | convert => ["--convert"]
  | apiTitle => ["--api-title"]
  | apiVersion => ["--api-version"]
  | baseUrl => ["--base-url"]
  | pageSize => ["--page-size"]
  | alternatives => ["--alternatives"]
  | parallel => ["--parallel"]
  | verbose => ["-v", "--verbose"]
  | quiet => ["-q", "--quiet"]

/-- An option in messages. -/
def title (s : Switch) : String := "/".intercalate s.spellings

/-- Whether an option takes a value. -/
def takesValue : Switch → Bool
  | input | output | apiFormat | convert | apiTitle | apiVersion | baseUrl | pageSize => true
  | _ => false

/-- The values that an option allows, if it does not allow all. -/
def choices? : Switch → Option (List String)
  | apiFormat => some (Export.ApiFormat.all.map Export.ApiFormat.name)
  | convert => some (Convert.Format.all.map Convert.Format.name)
  | _ => none

/-- The options of which one excludes the others. -/
def modes : List Switch := [validateOnly, validateSchema, convert]

/-- The options that an option excludes. -/
def excludes (s : Switch) : List Switch := if modes.contains s then modes.filter (· ≠ s) else []

/-- All spellings with their options. -/
def table : List (String × Switch) := all.flatMap fun s => s.spellings.map fun name => (name, s)

/-- The option of a spelling. -/
def named? (name : String) : Option Switch := table.lookup name

end Switch

/-! ## 2. Faults -/

/-- What is wrong with a command line. -/
inductive UsageFault
  | ambiguous (given : String) (candidates : List String)
  | valueMissing (s : Switch)
  | valueUnwanted (s : Switch) (value : String)
  | notAllowed (s : Switch) (value : String) (choices : List String)
  | notInteger (s : Switch) (value : String)
  | excluded (s other : Switch)
  | inputMissing
  | unrecognized (words : List String)
  deriving DecidableEq, Repr

namespace UsageFault

/-- What a fault says of an option. -/
def about (s : Switch) (text : String) : String := "argument " ++ s.title ++ ": " ++ text

/-- The text of a fault. -/
def message : UsageFault → String
  | ambiguous given candidates =>
    "ambiguous option: " ++ given ++ " could match " ++ ", ".intercalate candidates
  | valueMissing s => about s "expected one argument"
  | valueUnwanted s value => about s ("ignored explicit argument " ++ Text.Quoted.literal value)
  | notAllowed s value choices =>
    about s ("invalid choice: " ++ Text.Quoted.literal value ++ " (choose from " ++
      ", ".intercalate (choices.map Text.Quoted.literal) ++ ")")
  | notInteger s value => about s ("invalid int value: " ++ Text.Quoted.literal value)
  | excluded s other => about s ("not allowed with argument " ++ other.title)
  | inputMissing => "the following arguments are required: " ++ Switch.input.title
  | unrecognized words => "unrecognized arguments: " ++ " ".intercalate words

/-- A fault as the command reports it. -/
def report (f : UsageFault) : String := commandName ++ ": error: " ++ f.message

end UsageFault

end Schemata.Command
