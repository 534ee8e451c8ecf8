import Schemata.Export.Files
import Schemata.Export.Manifest
import Schemata.FileTree
/-!
# Exporting

An `Exporter` writes the files of bundles, and then their manifest, into a directory.

* When the files cannot be rendered nothing is written: there is one fatal error.
* A file that cannot be written is one error, and does not stop those after it.  The directories
  that were made for it stay.
* The result lists the files that were written, the manifest's own included.
* `Exporter.perform` is one export, and `Exporter.session` a run of exports by one exporter, between
  which something else may change the files.  What an exporter remembers of an export is forgotten
  at the next.
-/

namespace Schemata

/-- How and where bundles are written. -/
structure Exporter where
  /-- The directory in the tree. -/
  place : Place
  /-- The directory as manifests name it. -/
  directory : String
  /-- The format of the description, checked when files are rendered. -/
  format : Value := .str "json"
  mode : FileTree.WriteMode := .atomic
  withManifest : Bool := true
  /-- The time of export. -/
  timestamp : String

namespace Exporter

/-! ## 1. One export -/

/-- The files as they are, with what an exporter remembers of the export that it is at. -/
structure Progress where
  tree : FileTree
  records : List Manifest.Record := []
  errors : List String := []

/-- An export starts without the records and errors of the one before. -/
def Progress.restart (p : Progress) : Progress := { tree := p.tree }

/-- What came of an export. -/
structure Result where
  manifest : Manifest
  errors : List String
  deriving Repr

/-- Whether an export had no error. -/
def Result.success (r : Result) : Bool := r.errors.isEmpty

/-- The error of an export whose files cannot be rendered. -/
def fatalError (f : Export.Fault) : String :=
  "Fatal export error: " ++ f.label ++ ": " ++ f.message

/-- The error of a file that cannot be written. -/
def writeError (path : String) (f : FileTree.Fault) : String :=
  "Failed to write " ++ path ++ ": " ++ f.message

/-- The place of a file. -/
def destination (x : Exporter) (path : String) : Place := x.place ++ (Path.ofText path).parts

/-- The manifest of records. -/
def manifestOf (x : Exporter) (records : List Manifest.Record) : Manifest :=
  ⟨x.timestamp, x.directory, records⟩

/-- Writes one file. -/
def writeFile (x : Exporter) (p : Progress) (path text : String) : Progress :=
  match p.tree.attempt x.mode (x.destination path) text with
  | (tree, none) => { p with tree := tree, records := p.records ++ [.ofFile path text] }
  | (tree, some f) => { p with tree := tree, errors := p.errors ++ [writeError path f] }

/-- Writes files in order. -/
def writeFiles (x : Exporter) (p : Progress) (files : Export.Files) : Progress :=
  files.foldl (fun p f => x.writeFile p f.1 f.2) p

/-- Writes the manifest of the files written so far. -/
def writeManifest (x : Exporter) (p : Progress) : Progress :=
  if x.withManifest then x.writeFile p Manifest.fileName (x.manifestOf p.records).text else p

/-- Writes the files of a bundle. -/
def perform (x : Exporter) (p : Progress) (b : Bundle) : Progress :=
  match Export.render x.format b with
  | .error f => { p.restart with errors := [fatalError f] }
  | .ok files => x.writeManifest (x.writeFiles p.restart files)

/-- What an exporter says of the export that it remembers. -/
def result (x : Exporter) (p : Progress) : Result := ⟨x.manifestOf p.records, p.errors⟩

/-- Writes the files of a bundle by an exporter that has written nothing yet. -/
def run (x : Exporter) (tree : FileTree) (b : Bundle) : FileTree × Result :=
  let p := x.perform { tree := tree } b
  (p.tree, x.result p)

/-! ## 2. Sessions -/

/-- What happens while an exporter is in use. -/
inductive Event
  /-- The exporter is given a bundle. -/
  | bundle (b : Bundle)
  /-- Something else changes the files. -/
  | files (t : FileTree)

/-- One export of a session: its bundle, the files before and after it, and its result. -/
structure Exported where
  bundle : Bundle
  before : FileTree
  after : FileTree
  result : Result

/-- The exports of a session, each going on with what the exporter remembers of the last. -/
def session (x : Exporter) (p : Progress) : List Event → List Exported
  | [] => []
  | .files t :: rest => session x { p with tree := t } rest
  | .bundle b :: rest =>
    let next := x.perform p b
    ⟨b, p.tree, next.tree, x.result next⟩ :: session x next rest

end Exporter

end Schemata
