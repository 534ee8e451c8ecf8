import Schemata.Config
import Schemata.FileTree
import Schemata.Json.Reader
import Schemata.Text.Lines
import Schemata.Text.Utf8
import Schemata.Value.Operation
import Schemata.Yaml.Reader
/-!
# Input documents

An input document is a JSON or YAML file that holds a model, and perhaps settings.

* `Source.load` reads a document from a file, by the ending of its name: JSON, YAML, or first the
  one and then the other.
* `Source.split` separates the model from the settings.
-/

namespace Schemata.Source

/-! ## 1. Faults -/

/-- The format of a file. -/
inductive Format
  | json | yaml
  deriving DecidableEq, Repr

/-- What a file of a format holds. -/
def Format.content : Format → String
  | json => "JSON object"
  | yaml => "YAML mapping"

/-- Why there is no model in an input. -/
inductive Fault
  /-- A path that is too long, or has a part that is. -/
  | tooLong (path : String)
  | missing (path : String)
  | notFile (path : String)
  | notText (f : Text.Utf8.Fault)
  | json (path : String) (f : Json.ReadFault)
  | yaml (path : String) (f : Yaml.Fault)
  | topLevel (format : Format) (kind : Value.Kind)
  | noModel
  | modelNotMap
  | configNotMap
  | overrides (l : Value.Lack)
  | config (complaints : List Complaint)
  deriving Repr

/-- The text of a fault. -/
def Fault.message : Fault → String
  | tooLong path => "[Errno 36] File name too long: " ++ Text.Quoted.literal path
  | missing path => "Input file not found: " ++ path
  | notFile path => "Input path is not a file: " ++ path
  | notText f => f.message
  | json path f =>
    if f.cause.isPlaced then "Invalid JSON in " ++ path ++ ": " ++ f.message else f.message
  | yaml path .malformed => "Invalid YAML in " ++ path
  | yaml _ f => f.message
  | topLevel format kind =>
    "Expected a " ++ format.content ++ " at top level, got " ++ kind.name ++ "."
  | noModel =>
    "Cannot find a model in input. Expected top-level 'entities' or a 'model' section."
  | modelNotMap => "'model' section must be a mapping."
  | configNotMap => "'config' section must be a mapping."
  | overrides l => l.message
  | config _ => "Config validation failed"

/-- Whether a document has half of a character in it, which no text has. -/
def Fault.isHalf : Fault → Bool
  | json _ f => f.cause = .halfCharacter
  | yaml _ f => f = .halfCharacter
  | _ => false

/-! ## 2. Loading -/

/-- A document: the entries of its map, and the objects that it is made of where its format has
such. -/
structure Document where
  entries : List (Scalar × Value)
  objects : Yaml.Objects := #[]
  whole : Yaml.Part := .atom .null

/-- The entries of a document, which has to be a map. -/
def topLevel (format : Format) : Value → Except Fault (List (Scalar × Value))
  | .map es => .ok es
  | v => .error (.topLevel format v.kind)

/-- Reads a JSON document. -/
def readJson (path text : String) : Except Fault Document := do
  let v ← (Json.read text).mapError (Fault.json path)
  return { entries := ← topLevel .json v }

/-- Reads a YAML document. -/
def readYaml (path text : String) : Except Fault Document := do
  let (objects, whole) ← (Yaml.readObjects text).mapError (Fault.yaml path)
  return ⟨← topLevel .yaml (objects.value whole), objects, whole⟩

/-- Reads a document by the ending of its file's name. -/
def read (suffix path text : String) : Except Fault Document :=
  if suffix = ".yaml" || suffix = ".yml" then readYaml path text
  else if suffix = ".json" then readJson path text
  else
    match readJson path text with
    | .ok d => .ok d
    | .error f => if f.isHalf then .error f else readYaml path text

/-- Opens a document in the file that a path leads to from a home; all line breaks in it count as
line feeds. -/
def openDocument (t : FileTree) (home : Place) (p : Path) : Except Fault Document :=
  if t.refuses home p then .error (.tooLong p.text)
  else
    match (t.locate home p).bind t.node? with
    | none => .error (.missing p.text)
    | some .directory => .error (.notFile p.text)
    | some (.file text) => read p.suffix p.text (Text.unifiedBreaks text)
    | some (.binary bytes) => do
      let text ← (Text.Utf8.decode bytes).mapError Fault.notText
      read p.suffix p.text (Text.unifiedBreaks text)

/-- Loads the value of a document. -/
def load (t : FileTree) (home : Place) (p : Path) : Except Fault Value := do
  return .map (← openDocument t home p).entries

/-! ## 3. Models and settings -/

/-- A model that is still to be read, with its settings and the objects that it is made of. -/
structure Input where
  model : Value
  config : Config
  objects : Yaml.Objects × Yaml.Part := (#[], .atom .null)

/-- The model in a document: its `model` section, or else the document without its settings. -/
def modelOf (es : List (Scalar × Value)) : Except Fault Value :=
  match Value.member? "model" es with
  | none | some .null =>
    if (Value.member? "entities" es).isSome then
      .ok (.map (es.filter fun e => e.1 ≠ .str "config"))
    else .error .noModel
  | some (.map model) => .ok (.map model)
  | some _ => .error .modelNotMap

/-- The settings in a document; a section that counts as not given is empty. -/
def configOf (es : List (Scalar × Value)) : Except Fault (List (Scalar × Value)) :=
  match Value.member? "config" es with
  | none => .ok []
  | some (.map config) => .ok config
  | some v => if v.isTruthy then .error .configNotMap else .ok []

/-- Separates the model from the settings; `overrides` take the place of settings of the
document. -/
def split (es : List (Scalar × Value)) (overrides : Value) : Except Fault Input := do
  let model ← modelOf es
  let config ← configOf es
  let overrides ← overrides.mappingOrNone.mapError Fault.overrides
  match Config.read (.map (Entries.putAll config overrides)) with
  | .ok config => return { model, config }
  | .bad complaints => throw (.config complaints)

/-- The part of a document that its model is. -/
def modelPart (d : Document) : Yaml.Part :=
  match d.objects.partAt? d.whole [.name "model"] with
  | some (.object n) => .object n
  | _ => d.whole

/-- Opens a document and separates its model from its settings. -/
def openFile (t : FileTree) (home : Place) (p : Path) (overrides : Value) :
    Except Fault Input := do
  let d ← openDocument t home p
  let input ← split (Value.map d.entries).unrolledEntries overrides
  return { input with objects := (d.objects, modelPart d) }

end Schemata.Source
