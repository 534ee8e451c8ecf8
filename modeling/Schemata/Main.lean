import Schemata.Command.Run
import Std.Time.DateTime.Timestamp
/-!
# The program

The command on the files of a machine.  The command itself is the function `Command.run` on a tree
of files; here the part of the tree that it depends on is read, and what it changed is written.

* The places that a run changes are known only from a run, so there is a first one without them.
-/

namespace Schemata.Program

open Command

/-- What a file counts as that cannot be read; nothing writes this one. -/
def unreadable : FileNode := .file "\x00"

/-- A file with its contents. -/
def fileOf (bytes : ByteArray) : FileNode :=
  match String.fromUTF8? bytes with
  | some text => .file text
  | none => .binary bytes.toList

/-- What is at a place. -/
def look (p : Place) : IO (Option FileNode) := do
  try
    return some (fileOf (← IO.FS.readBinFile (Path.ofPlace p).text))
  catch
    | .noFileOrDirectory .. => return none
    | .inappropriateType .. => return some .directory
    | _ => return some unreadable

/-- Adds to a tree what is on the way from a place downwards. -/
def lookFrom (t : FileTree) (here : Place) : List String → IO FileTree
  | [] => return t
  | part :: rest => do
    let next := here ++ [part]
    match ← look next with
    | some .directory => lookFrom (t.put next .directory) next rest
    | some n => return t.put next n
    | none => return t

/-- Adds to a tree what is at places and above them. -/
def lookAt (t : FileTree) (places : List Place) : IO FileTree :=
  places.foldlM (fun t p => lookFrom t [] p) t

/-- The place of the input that a command line names. -/
def inputPlaces (home : Place) (words : List String) : List Place :=
  match Arguments.read words with
  | .ok a => [(Path.ofText a.input).resolve home]
  | .error _ => []

/-- The time of day. -/
def now : IO Clock := do
  let t ← Std.Time.Timestamp.now
  return .at (.ofUnixMicroseconds (t.toNanosecondsSinceUnixEpoch.val / 1000))

/-- Writes what a run changed. -/
def store (before after : FileTree) : IO Unit :=
  (before.changes after).forM fun (p, n) =>
    match n with
    | .directory => IO.FS.createDirAll (Path.ofPlace p).text
    | .file text => IO.FS.writeFile (Path.ofPlace p).text text
    | .binary bytes => IO.FS.writeBinFile (Path.ofPlace p).text bytes.toByteArray

/-- Ends with an outcome. -/
def finish (before : FileTree) (o : Outcome) : IO UInt32 := do
  let exit ← try
      store before o.files
      pure o.exit
    catch e =>
      IO.eprintln (toString e)
      pure .exportFailed
  IO.print o.output
  IO.eprint o.diagnostics
  return exit.code.toUInt32

/-- Runs the command. -/
def run (words : List String) : IO UInt32 := do
  let home := (Path.ofText (toString (← IO.currentDir))).parts
  let clock ← now
  let start ← lookAt {} (home :: inputPlaces home words)
  match Command.run clock home start words with
  | .error crash =>
    IO.eprintln crash.message
    return 1
  | .ok first =>
    let files ← lookAt start ((start.changes first.files).map Prod.fst)
    match Command.run clock home files words with
    | .error crash =>
      IO.eprintln crash.message
      return 1
    | .ok o => finish files o

end Schemata.Program

/-- The program. -/
def main (words : List String) : IO UInt32 := Schemata.Program.run words
