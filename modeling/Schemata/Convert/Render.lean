import Schemata.Convert.Types
import Schemata.Failure
/-!
# Conversions of a schema document

`Convert.typescript`, `Convert.mongoose` and `Convert.sql` show the definitions of a JSON Schema
document as interfaces, as schemas of a document store and as tables; `Convert.convert` chooses
among them by the name of a format.
-/

namespace Schemata.Convert

/-! ## 1. TypeScript interfaces -/

/-- The line of a property. -/
def scriptProperty (required : List Value) (p : Scalar × Placed) : Except Fault String := do
  let name ← shownKey p.1
  return "  " ++ name ++ (if isRequired required p.1 then "" else "?") ++ ": " ++
    (← scriptType p.2) ++ ";\n"

/-- The interface of a definition. -/
def scriptDefinition (d : Scalar × Placed) : Except Fault String := do
  let ms ← members d.2
  let required ← requiredOf ms
  let name ← capitalized d.1
  let lines ← (← properties ms).placed.mapM (scriptProperty required)
  return "export interface " ++ name ++ " \x7b\n" ++ String.join lines ++ "\x7d\n\n"

/-- The interfaces of a document. -/
def typescript (document : Value) : Except Fault String := do
  let blocks ← (← definitions document).placed.mapM scriptDefinition
  return "// Auto-generated TypeScript interfaces\n\n" ++ String.join blocks

/-! ## 2. Mongoose schemas -/

/-- The lines of a property. -/
def storeProperty (required : List Value) (p : Scalar × Placed) : Except Fault String := do
  let name ← shownKey p.1
  return "  " ++ name ++ ": \x7b\n" ++ "    type: " ++ (← storeType p.2) ++ ",\n" ++
    (if isRequired required p.1 then "    required: true,\n" else "") ++ "  \x7d,\n"

/-- Whether the store itself takes care of a property. -/
def isStoreKey (k : Scalar) : Bool := k = .str "id"

/-- The schema of a definition. -/
def storeDefinition (d : Scalar × Placed) : Except Fault String := do
  let ms ← members d.2
  let required ← requiredOf ms
  let model ← capitalized d.1
  let name ← shownKey d.1
  let own := (← properties ms).placed.filter fun p => !isStoreKey p.1
  let lines ← own.mapM (storeProperty required)
  return "const " ++ name ++ "Schema = new mongoose.Schema(\x7b\n" ++ String.join lines ++
    "\x7d, \x7b timestamps: true \x7d);\n\n" ++
    "module.exports." ++ model ++ " = mongoose.model('" ++ model ++ "', " ++ name ++
    "Schema);\n\n"

/-- The schemas of a document. -/
def mongoose (document : Value) : Except Fault String := do
  let blocks ← (← definitions document).placed.mapM storeDefinition
  return "// Auto-generated Mongoose schemas\nconst mongoose = require('mongoose');\n\n" ++
    String.join blocks

/-! ## 3. SQL tables -/

/-- A suffix that is there when a constraint counts as given. -/
def keySuffix (constraints : Members) (key suffix : String) : String :=
  if (constraints.given? key).isSome then suffix else ""

/-- The column of a property. -/
def column (required : List Value) (p : Scalar × Placed) : Except Fault String := do
  let schema ← members p.2
  let metadata ← submembers schema "metadata"
  let constraints ← submembers metadata "constraints"
  return "  " ++ (← shownKey p.1) ++ " " ++ (← columnTypeOf schema) ++
    (if isRequired required p.1 then " NOT NULL" else "") ++
    keySuffix constraints "primary" " PRIMARY KEY" ++
    keySuffix constraints "autoIncrement" " AUTO_INCREMENT"

/-- The table of a definition. -/
def table (d : Scalar × Placed) : Except Fault String := do
  let ms ← members d.2
  let metadata ← submembers ms "metadata"
  let name ← match metadata.given? "tableName" with
    | some p => pure p.value
    | none => (shownKey d.1).map fun s => .str (s ++ "s")
  let required ← requiredOf ms
  let columns ← (← properties ms).placed.mapM (column required)
  return "CREATE TABLE " ++ (← shown name) ++ " (\n" ++ ",\n".intercalate columns ++ "\n);\n\n"

/-- The tables of a document. -/
def sql (document : Value) : Except Fault String := do
  let blocks ← (← definitions document).placed.mapM table
  return "-- Auto-generated SQL DDL\n\n" ++ String.join blocks

/-! ## 4. Formats -/

/-- A target notation. -/
inductive Format
  | typescript | mongoose | sql
  deriving DecidableEq, Repr

namespace Format

/-- All formats. -/
def all : List Format := [typescript, mongoose, sql]

/-- The name of a format. -/
def name : Format → String
  | typescript => "typescript"
  | mongoose => "mongoose"
  | sql => "sql"

/-- The format that a text names in any case. -/
def ofName? (s : String) : Option Format := all.find? fun f => f.name = Text.lowerAscii s

/-- The refusal of anything else. -/
def refusal (v : Value) : Failure :=
  ⟨.conversion, "unsupported format " ++ v.literal ++ " (expected one of: " ++
    ", ".intercalate (all.map name) ++ ")"⟩

/-- The format that a value names. -/
def parse (v : Value) : Except Failure Format :=
  match v with
  | .str s =>
    match ofName? s with
    | some f => .ok f
    | none => .error (refusal v)
  | v => .error (refusal v)

end Format

/-- The conversion to a format. -/
def render (format : Format) (document : Value) : Except Fault String :=
  match format with
  | .typescript => typescript document
  | .mongoose => mongoose document
  | .sql => sql document

/-- A document in the format that a value names. -/
def convert (document format : Value) : Except Failure String := do
  let f ← Format.parse format
  (render f document).mapError fun fault => ⟨.conversion, fault.message⟩

end Schemata.Convert
