import Schemata.Clock
import Schemata.MetaSchema.Check
import Schemata.Model.Coercion
/-!
# Verdicts on schema documents

A `Verdict` says whether a document is a valid schema, with all violations and some numbers.

* `MetaSchema.judge` judges a document by the dialect that it names; violations are listed by
  their place in the document, then by their place in the dialect, then by message.
* `MetaSchema.judgeAmong` does so among further dialects.
-/

namespace Schemata.MetaSchema

/-! ## 1. Verdicts -/

/-- The result of a check. -/
structure Verdict where
  valid : Bool
  errors : List (Entries String Value)
  summary : Entries String Value
  deriving Repr

namespace Verdict

open Coercion

/-- The name of the record in complaints. -/
def recordName : String := "SchemaValidationReport"

/-- Reads a verdict. -/
def read (v : Value) : Checked Verdict :=
  record recordName v fun es =>
    (Checked.ok Verdict.mk
      |>.and (required es ["valid"] Coercion.boolean)
      |>.and (optionalField es ["errors"] [] (listOf dictionary))
      |>.and (optionalField es ["summary"] [] dictionary)).withMore
        (extraComplaints es ["valid", "errors", "summary"])

/-- A verdict as a value. -/
def toValue (v : Verdict) : Value :=
  .obj [("valid", .bool v.valid), ("errors", .list (v.errors.map Value.obj)),
    ("summary", .obj v.summary)]

end Verdict

/-! ## 2. Judging -/

namespace Violation

/-- The place in the document. -/
def pathText (v : Violation) : String := "/" ++ "/".intercalate v.path

/-- The place in the dialect. -/
def schemaPathText (v : Violation) : String := "/".intercalate v.schemaPath

/-- A violation as entries. -/
def entries (v : Violation) : Entries String Value :=
  [("message", .str v.message), ("path", .str v.pathText),
    ("schemaPath", .str v.schemaPathText), ("keyword", .str v.keyword)]

/-- Whether a violation is listed before another, or is the same. -/
def listedBefore (v w : Violation) : Bool :=
  (compare v.pathText w.pathText |>.then (compare v.schemaPathText w.schemaPathText)
    |>.then (compare v.message w.message)) != .gt

end Violation

/-- The numbers of definitions and relationships of a document. -/
def counts : Value → Nat × Nat
  | .map es =>
    (match Value.member? "definitions" es with
      | some (.map definitions) => definitions.length
      | _ => 0,
     match Value.member? "relationships" es with
      | some (.list relationships) => relationships.length
      | _ => 0)
  | _ => (0, 0)

/-- The verdict on a document that cannot be checked. -/
def unchecked (message stamp : String) : Verdict :=
  ⟨false, [[("message", .str message)]], [("validatedAt", .str stamp)]⟩

/-- Further dialects by their addresses: what a document breaks of one. -/
abbrev Others := Url.Parts → Option (Value → List Violation)

/-- What a document breaks of the dialect that it names. -/
def violationsAmong (others : Others) (document : Value) :
    Except Dialect.Obstacle (List Violation) := do
  let dialect ← Dialect.ofDocument document
  match (Dialect.address? document).bind others with
  | some check => return check document
  | none => return violations dialect document

/-- The verdict on a document at a time, among further dialects. -/
def judgeAt (others : Others) (document : Value) (stamp : String) : Verdict :=
  match violationsAmong others document with
  | .error obstacle => unchecked obstacle.message stamp
  | .ok found =>
    let found := found.mergeSort Violation.listedBefore
    let (definitions, relationships) := counts document
    match found.find? fun v => !v.isWritten with
    | some v => unchecked v.message stamp
    | none =>
      ⟨found.isEmpty, found.map Violation.entries,
        [("totalDefinitions", .nat definitions), ("totalRelationships", .nat relationships),
          ("validatedAt", .str stamp)]⟩

/-- The verdict on a document among further dialects; there is none when the clock gives no time. -/
def judgeAmong (others : Others) (clock : Clock) (document : Value) : Except Clock.Fault Verdict :=
  clock.stamp.map (judgeAt others document)

/-- The verdict on a document, without further dialects. -/
def judge (clock : Clock) (document : Value) : Except Clock.Fault Verdict :=
  judgeAmong (fun _ => none) clock document

end Schemata.MetaSchema
