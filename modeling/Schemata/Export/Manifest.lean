import Schemata.Digest
import Schemata.Json.Writer
import Schemata.Text.Lines
/-!
# Manifests

A `Manifest` lists the files of an export with their sizes, line counts and digests.  Its totals
are the sums over the list.
-/

namespace Schemata

/-- One file of an export. -/
structure Manifest.Record where
  path : String
  size : Nat
  lines : Nat
  digest : String
  deriving DecidableEq, Repr

/-- The list of files of an export. -/
structure Manifest where
  timestamp : String
  directory : String
  records : List Manifest.Record
  deriving DecidableEq, Repr

namespace Manifest

/-- The record of a file. -/
def Record.ofFile (path text : String) : Record :=
  ⟨path, text.utf8ByteSize, Text.lineCount text, Digest.hexOf text⟩

/-- A record as a value. -/
def Record.toValue (r : Record) : Value :=
  .obj [("relative_path", .str r.path), ("size_bytes", .nat r.size), ("line_count", .nat r.lines),
    ("sha256", .str r.digest)]

/-- The version of the generators. -/
def version : String := "1.0.0"

/-- The number of bytes in all files. -/
def totalBytes (m : Manifest) : Nat := m.records.foldl (fun n r => n + r.size) 0

/-- The number of lines in all files. -/
def totalLines (m : Manifest) : Nat := m.records.foldl (fun n r => n + r.lines) 0

/-- A manifest as a value. -/
def toValue (m : Manifest) : Value :=
  .obj [("generator_version", .str version), ("export_timestamp", .str m.timestamp),
    ("output_directory", .str m.directory), ("total_files", .nat m.records.length),
    ("total_bytes", .nat m.totalBytes), ("total_lines", .nat m.totalLines),
    ("files", .list (m.records.map Record.toValue))]

/-- The name of the file that a manifest is written to. -/
def fileName : String := "manifest.json"

/-- A manifest as the text of its file; all of its values can be written. -/
def text (m : Manifest) : String := (Json.write (.indented 2) m.toValue).toOption.getD ""

end Manifest

end Schemata
