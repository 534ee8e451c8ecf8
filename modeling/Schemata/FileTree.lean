import Schemata.Text.Casing
/-!
# File trees

A `FileTree` holds the files and directories under one root.  What a program does to files is a
function on trees.

* `Path.resolve` is the place that a path names by its parts alone, `FileTree.locate` the one that
  it leads to through directories that are there.
* Names and paths have a greatest length.  `FileTree.refuses` tells a path that cannot even be
  looked up from one at which there is nothing.
* `FileTree.makeDirectory` makes a directory and those above it; where a file is in the way, or a
  name is too long, it fails, and leaves the directories that it has made so far.
* `FileTree.attempt` writes a file.  A plain write onto a directory fails.  An atomic write makes a
  scratch file and moves it onto its destination; moved onto a directory, it ends up inside.  There
  is room for the scratch file of every file for which there is room.
-/

namespace Schemata

/-! ## 1. Paths -/

/-- A path: what stands in front of its first part, and its parts. -/
structure Path where
  root : String
  parts : List String
  deriving DecidableEq, Repr

namespace Path

/-- The parts of a text between slashes; empty ones and those of one point mean nothing. -/
def partsOf (cs : List Char) : List String :=
  let pieces := cs.foldr (fun c acc =>
    if c = '/' then [] :: acc
    else match acc with
      | piece :: rest => (c :: piece) :: rest
      | [] => [[c]]) [[]]
  (pieces.map String.ofList).filter fun s => s ≠ "" && s ≠ "."

/-- The root of a path: exactly two slashes are one of their own, more count as one. -/
def rootOf : List Char → String
  | '/' :: '/' :: '/' :: _ => "/"
  | '/' :: '/' :: _ => "//"
  | '/' :: _ => "/"
  | _ => ""

/-- The path that a text writes. -/
def ofText (s : String) : Path := ⟨rootOf s.toList, partsOf s.toList⟩

/-- A path as text; the empty path is a point. -/
def text (p : Path) : String :=
  if p.root = "" && p.parts.isEmpty then "." else p.root ++ "/".intercalate p.parts

/-- The last part of a path. -/
def name (p : Path) : String := p.parts.getLastD ""

/-- The ending of a name from its last point on, in lower case; a point at either end of the name
starts none. -/
def suffixOf (name : List Char) : List Char :=
  let ending := name.reverse.takeWhile (· ≠ '.')
  if ending.isEmpty || name.length ≤ ending.length + 1 then []
  else '.' :: ending.reverse.map Char.toLower

/-- The ending of the last part, in lower case. -/
def suffix (p : Path) : String := String.ofList (suffixOf p.name.toList)

/-- The most bytes that a path has. -/
def limit : Nat := 4095

/-- Whether a path has too many bytes. -/
def isLong (p : Path) : Bool := limit < p.text.utf8ByteSize

/-- The most bytes that one part of a path has. -/
def nameLimit : Nat := 255

/-- Whether a part of a path has too many bytes. -/
def isLongName (name : String) : Bool := nameLimit < name.utf8ByteSize

end Path

/-- The parts of a place below the root. -/
abbrev Place := List String

/-- The directory that a path starts from: the root, or the home of the reader. -/
def Path.base (home : Place) (p : Path) : Place := if p.root = "" then home else []

/-- The place that a path names, read from a home; a part of two points leads up. -/
def Path.resolve (home : Place) (p : Path) : Place :=
  p.parts.foldl (fun here part => if part = ".." then here.dropLast else here ++ [part])
    (p.base home)

/-- The path of a place from the root. -/
def Path.ofPlace (p : Place) : Path := ⟨"/", p⟩

/-! ## 2. Trees -/

/-- A file with its text, a file of bytes that may be no text, or a directory. -/
inductive FileNode
  | file (text : String)
  | binary (bytes : List UInt8)
  | directory
  deriving DecidableEq, Repr

/-- Whether something is a file. -/
def FileNode.isFile : FileNode → Bool
  | file _ | binary _ => true
  | directory => false

/-- The files and directories below a root, which is itself a directory. -/
structure FileTree where
  nodes : List (Place × FileNode) := []
  deriving Repr

namespace FileTree

/-- What is at a place. -/
def node? (t : FileTree) (p : Place) : Option FileNode :=
  if p.isEmpty then some .directory else t.nodes.lookup p

/-- Whether there is a directory at a place. -/
def isDirectory (t : FileTree) (p : Place) : Bool := t.node? p = some .directory

/-- The text of the file at a place. -/
def text? (t : FileTree) (p : Place) : Option String :=
  match t.node? p with
  | some (.file text) => some text
  | _ => none

/-- Puts something at a place. -/
def put (t : FileTree) (p : Place) (n : FileNode) : FileTree :=
  ⟨(t.nodes.filter fun e => e.1 ≠ p) ++ [(p, n)]⟩

/-- A place as text. -/
def placeText (p : Place) : String := "/".intercalate p

/-- The texts of the files below a directory, by their places from there. -/
def filesUnder (t : FileTree) (home : Place) : List (Place × String) :=
  t.nodes.filterMap fun e =>
    match e.2 with
    | .file text => if home.isPrefixOf e.1 then some (e.1.drop home.length, text) else none
    | .binary _ | .directory => none

/-- The places of the files below a directory as texts, in order. -/
def listing (t : FileTree) (home : Place) : List String :=
  let files := t.nodes.filter fun e => e.2.isFile && home.isPrefixOf e.1
  (files.map fun e => placeText (e.1.drop home.length)).mergeSort fun a b => decide (a ≤ b)

/-- The place that parts lead to from a directory; a part of two points leads up. -/
def walk (t : FileTree) : Place → List String → Option Place
  | here, [] => some here
  | here, part :: rest =>
    if !t.isDirectory here then none
    else if part = ".." then walk t here.dropLast rest
    else if (t.node? (here ++ [part])).isSome then walk t (here ++ [part]) rest
    else none

/-- The place that a path leads to from a home. -/
def locate (t : FileTree) (home : Place) (p : Path) : Option Place := t.walk (p.base home) p.parts

/-- Whether the way from a place downwards meets a part that is too long.  It does not get there
where a part before it is no directory. -/
def meetsLongName (t : FileTree) : Place → List String → Bool
  | _, [] => false
  | here, part :: rest =>
    t.isDirectory here &&
      (Path.isLongName part ||
        meetsLongName t (if part = ".." then here.dropLast else here ++ [part]) rest)

/-- Whether a path cannot be looked up from a home. -/
def refuses (t : FileTree) (home : Place) (p : Path) : Bool :=
  p.isLong || t.meetsLongName (p.base home) p.parts

/-! ## 3. Changes -/

/-- Why a change fails. -/
inductive Fault
  | occupied (p : Place)
  | isDirectory (p : Place)
  | missing (p : Place)
  | tooLong (p : Place)
  deriving DecidableEq, Repr

/-- The text of a fault. -/
def Fault.message : Fault → String
  | occupied p => "not a directory: " ++ (Path.ofPlace p).text
  | isDirectory p => "is a directory: " ++ (Path.ofPlace p).text
  | missing p => "no such file or directory: " ++ (Path.ofPlace p).text
  | tooLong p => "file name too long: " ++ (Path.ofPlace p).text

/-- Makes the directories from a place downwards, as far as this goes. -/
def makeFrom (t : FileTree) (here : Place) : List String → FileTree × Option Fault
  | [] => (t, none)
  | part :: rest =>
    let next := here ++ [part]
    match t.node? next with
    | some .directory => makeFrom t next rest
    | some _ => (t, some (.occupied next))
    | none =>
      if Path.isLongName part then (t, some (.tooLong next))
      else makeFrom (t.put next .directory) next rest

/-- Makes a directory and all above it. -/
def makeDirectory (t : FileTree) (p : Place) : FileTree × Option Fault :=
  if (Path.ofPlace p).isLong then (t, some (.tooLong p)) else makeFrom t [] p

/-- How a file is written: straight to its place, or to a scratch file that is then moved. -/
inductive WriteMode
  | plain | atomic
  deriving DecidableEq, Repr

/-- The name of the scratch file for a name, by a number. -/
def scratchName (name : String) (n : Nat) : String := "." ++ name ++ "." ++ toString n ++ ".tmp"

/-- A scratch name that is free in a directory. -/
def freeName (t : FileTree) (directory : Place) (name : String) : String :=
  let isFree (n : Nat) : Bool := (t.node? (directory ++ [scratchName name n])).isNone
  scratchName name (((List.range (t.nodes.length + 1)).find? isFree).getD 0)

/-- Whether there is no room for a file at a place. -/
def lacksRoom (p : Place) : Bool := Path.isLongName (p.getLastD "") || (Path.ofPlace p).isLong

/-- Tries to write a file, making the directory it is in: the tree that this leaves, and the fault
if it fails. -/
def attempt (t : FileTree) (mode : WriteMode) (p : Place) (text : String) :
    FileTree × Option Fault :=
  match t.makeDirectory p.dropLast with
  | (t, some f) => (t, some f)
  | (t, none) =>
    if lacksRoom p then (t, some (.tooLong p))
    else if t.isDirectory p then
      match mode with
      | .plain => (t, some (.isDirectory p))
      | .atomic => (t.put (p ++ [t.freeName p (p.getLastD "")]) (.file text), none)
    else (t.put p (.file text), none)

/-- Writes a file. -/
def write (t : FileTree) (mode : WriteMode) (p : Place) (text : String) : Except Fault FileTree :=
  match t.attempt mode p text with
  | (t, none) => .ok t
  | (_, some f) => .error f

/-- Removes what is at a place, with everything below it. -/
def remove (t : FileTree) (p : Place) : Except Fault FileTree :=
  if (t.node? p).isNone then .error (.missing p)
  else .ok ⟨t.nodes.filter fun e => !p.isPrefixOf e.1⟩

/-- What a tree holds and another did not, in the order in which it was put there. -/
def changes (before after : FileTree) : List (Place × FileNode) :=
  after.nodes.filter fun e => before.node? e.1 ≠ some e.2

/-- A tree with files below a home, given by their paths; one that cannot be put there is left
out. -/
def ofFiles (home : Place) (files : List (String × String)) : FileTree :=
  let start := (({} : FileTree).makeDirectory home).1
  files.foldl (fun t f => ((t.write .plain ((Path.ofText f.1).resolve home) f.2).toOption).getD t)
    start

end FileTree

end Schemata
