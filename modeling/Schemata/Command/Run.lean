import Schemata.Command.Outcome
import Schemata.MetaSchema.Verdict
/-!
# Running the command

`Command.run` is the whole command as a function: from a clock, a home directory, the files and the
words of the command line to an `Outcome`.

* `generate` makes the documents of a model and prints or exports them.
* `validateOnly` checks a model by the lint, `validateSchema` a schema document by its
  meta-schema, `convert` shows a schema document in another form.
-/

namespace Schemata.Command

/-! ## 1. Fixed texts -/

/-- What the command says of its version. -/
def versionText : String := "SchemaGen v" ++ Manifest.version ++ "\n"

/-- What the command says of an option. -/
def Switch.summary : Switch → String
  | help => "show this text and exit"
  | version => "show the version and exit"
  | input => "the model, or the schema document, to read (JSON or YAML)"
  | output => "write files to this directory instead of printing a bundle"
  | apiFormat => "the format of the description that is written (json or yaml)"
  | validateOnly => "only check the model"
  | validateSchema => "check the input as a JSON Schema document"
  | convert => "show the input document as typescript, mongoose or sql"
  | apiTitle => "the title of the description"
  | apiVersion => "the version of the description"
  | baseUrl => "the address that code examples use"
  | pageSize => "the number of records on a page"
  | alternatives => "make the alternative diagrams as well"
  | parallel => "make the documents at the same time"
  | verbose => "say more"
  | quiet => "say nothing but the result"

/-- What the command says of its use. -/
def helpText : String :=
  "usage: " ++ commandName ++ " -i PATH [options]\n\n" ++
    String.join (Switch.all.map fun s =>
      "  " ++ Report.padRight 20 (", ".intercalate s.spellings) ++ "  " ++ s.summary ++ "\n")

/-! ## 2. Parts of a run -/

/-- What a run works with. -/
structure Setting where
  clock : Clock
  files : FileTree
  arguments : Arguments
  /-- The place of the input, which is there and is a file. -/
  input : Place

namespace Setting

/-- The path of the input. -/
def path (s : Setting) : Path := .ofPlace s.input

/-- An outcome that leaves the files as they are. -/
def finish (s : Setting) (exit : Exit) (output : String) : Outcome :=
  { exit := exit, output := output, files := s.files }

/-- A message, unless the run is to be quiet. -/
def note (s : Setting) (message : String) : String :=
  if s.arguments.quiet then "" else "ERROR: " ++ message ++ "\n"

/-- The outcome of a run that fails with a message. -/
def fail (s : Setting) (exit : Exit) (message : String) : Outcome :=
  { exit := exit, diagnostics := s.note message, files := s.files }

/-- The settings that the command line gives. -/
def overrides (s : Setting) : Value :=
  let a := s.arguments
  let given (name : String) (v : Option Value) : List (Scalar × Value) :=
    v.toList.map fun v => (.str name, v)
  .map (given "api_title" (a.apiTitle.map Value.str) ++
    given "api_version" (a.apiVersion.map Value.str) ++
    given "code_example_base_url" (a.baseUrl.map Value.str) ++
    given "default_page_size" (a.pageSize.map Value.int) ++
    given "include_alternative_diagrams" (if a.alternatives then some (.bool true) else none) ++
    given "parallel" (if a.parallel then some (.bool true) else none))

/-- The outcome of a fault in the input. -/
def badSource (s : Setting) (what : String) (f : Source.Fault) : Except Crash Outcome :=
  if isReported f then .ok (s.fail .badInput ("Failed to load " ++ what ++ ": " ++ f.message))
  else .error (.source f)

end Setting

/-! ## 3. Checking a model -/

/-- A rule of a check report. -/
def reportRule : String := String.ofList (List.replicate 50 '=')

/-- A titled and counted list in a check report; an empty one is left out. -/
def countedList (title sign : String) (lines : List String) : String :=
  if lines.isEmpty then ""
  else "\n  " ++ title ++ " (" ++ toString lines.length ++ "):\n" ++
    String.join (lines.map fun line => "    " ++ sign ++ " " ++ line ++ "\n")

/-- The report on a check of a model. -/
def checkReport (name : String) (m : Model) (fs : Findings) : String :=
  "\n" ++ reportRule ++ "\n  Model Validation Report\n" ++ reportRule ++ "\n" ++
    "  File:          " ++ name ++ "\n" ++
    "  Entities:      " ++ toString m.entities.length ++ "\n" ++
    "  Relationships: " ++ toString m.relationships.length ++ "\n" ++
    "  Time:          0.000s\n" ++
    "  Valid:         " ++ (if fs.isValid then "Yes" else "No") ++ "\n" ++
    countedList "Errors" "✗" fs.errors.lines ++ countedList "Warnings" "⚠" fs.warnings.lines ++
    (if fs.isValid && fs.warnings.isEmpty then "\n  ✅ All validations passed!\n" else "") ++
    reportRule ++ "\n\n"

/-- Checks a model. -/
def validateOnly (s : Setting) : Except Crash Outcome :=
  match Source.openFile s.files [] s.path s.overrides with
  | .error f => s.badSource "model" f
  | .ok input =>
    match Model.normalize input.model with
    | .error f => .ok (s.fail .badInput ("Failed to load model: " ++ f.report))
    | .ok m =>
      match Lint.everything m input.config with
      | .error l => .error (.limit l)
      | .ok issues =>
        let fs := Lint.findings issues
        .ok (s.finish (if fs.isValid then .success else .invalid)
          (checkReport s.path.name m fs))

/-! ## 4. Schema documents -/

/-- Checks a schema document. -/
def validateSchema (s : Setting) : Except Crash Outcome :=
  match Source.load s.files [] s.path with
  | .error f => s.badSource "schema document" f
  | .ok document => do
    let verdict ← (MetaSchema.judge s.clock document).mapError Crash.clock
    let text ← (Export.jsonText verdict.toValue).mapError Crash.unwritable
    return s.finish (if verdict.valid then .success else .invalid) text

/-- Converts a schema document. -/
def convert (s : Setting) (format : String) : Except Crash Outcome :=
  match Source.load s.files [] s.path with
  | .error f => s.badSource "schema document" f
  | .ok document =>
    match Convert.convert document (.str format) with
    | .error f => .ok (s.fail .generationFailed f.sentence)
    | .ok text => .ok (s.finish .success text)

/-! ## 5. Making documents -/

/-- The exit of a run whose bundle is where it should be. -/
def bundleExit (b : Bundle) : Exit := if b.report.success then .success else .generationFailed

/-- Prints a bundle. -/
def printBundle (s : Setting) (b : Bundle) : Except Crash Outcome := do
  let text ← (Export.jsonText b.toValue).mapError Crash.unwritable
  return { s.finish (bundleExit b) text with
    diagnostics := if 1 ≤ s.arguments.verbosity then b.report.summary ++ "\n" else "" }

/-- Exports a bundle to a directory. -/
def exportBundle (s : Setting) (home : Place) (output : String) (b : Bundle) : Outcome :=
  let place := (Path.ofText output).resolve home
  let directory := (Path.ofPlace place).text
  let x : Exporter :=
    { place := place
      directory := directory
      format := .str s.arguments.apiFormat
      timestamp := s.clock.stamp.toOption.getD "" }
  let (files, result) := x.run s.files b
  let summary := b.report.summary ++ "\n"
  if result.success then
    { exit := bundleExit b
      output := summary ++ "  Wrote " ++ toString result.manifest.records.length ++ " files (" ++
        grouped result.manifest.totalBytes ++ " bytes) to " ++ directory ++ "\n"
      files := files }
  else
    { exit := .exportFailed
      output := summary
      diagnostics := String.join (result.errors.map fun e => s.note ("  ✗ " ++ e))
      files := files }

/-- Makes the documents of a model, and prints or exports them. -/
def generate (s : Setting) (home : Place) : Except Crash Outcome :=
  match Source.openFile s.files [] s.path s.overrides with
  | .error f => s.badSource "model" f
  | .ok input =>
    match Bundle.generate input.config s.clock true s.path.text input.model with
    | .error l =>
      if isReportedLimit l then .ok (s.fail .badInput ("Failed to load model: " ++ l.message))
      else .error (.limit l)
    | .ok b =>
      let b := { b with input := input.objects }
      if b.model.isNone then
        .ok { s.finish .badInput "" with diagnostics := b.report.summary ++ "\n" }
      else
        match s.arguments.output with
        | none => printBundle s b
        | some output => .ok (exportBundle s home output b)

/-! ## 6. The command -/

/-- Whether a path can be the path of anything. -/
def isNameable (path : String) : Bool := !path.toList.contains '\x00'

/-- Does what the arguments ask for with an input that is there. -/
def perform (s : Setting) (home : Place) : Except Crash Outcome :=
  match s.arguments.mode with
  | .generate =>
    if s.arguments.output.all isNameable then generate s home else .error .unnameable
  | .validateOnly => validateOnly s
  | .validateSchema => validateSchema s
  | .convert format => convert s format

/-- Runs the command with its arguments. -/
def runWith (clock : Clock) (home : Place) (files : FileTree) (a : Arguments) :
    Except Crash Outcome :=
  let s : Setting := ⟨clock, files, a, (Path.ofText a.input).resolve home⟩
  if !isNameable a.input then .error .unnameable
  else if files.refuses [] s.path then .error (.source (.tooLong s.path.text))
  else match files.node? s.input with
  | none => .ok (s.fail .badInput ("Input file not found: " ++ s.path.text))
  | some .directory => .ok (s.fail .badInput ("Input path is not a file: " ++ s.path.text))
  | some _ => perform s home

/-- Runs the command. -/
def run (clock : Clock) (home : Place) (files : FileTree) (words : List String) :
    Except Crash Outcome :=
  match Arguments.read words with
  | .error .help => .ok { exit := .success, output := helpText, files := files }
  | .error .version => .ok { exit := .success, output := versionText, files := files }
  | .error (.fault f) =>
    .ok { exit := .badUsage, diagnostics := f.report ++ "\n", files := files }
  | .error .noValue => .error .noValue
  | .ok a => runWith clock home files a

end Schemata.Command
