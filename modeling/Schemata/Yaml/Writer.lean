import Schemata.Yaml.Page
import Schemata.Yaml.Tree
/-!
# Writing of YAML

`Yaml.write` writes a value in block style: an entry of a list or map on each line, a list not
indented under its key.  A key that is empty, long or of several lines stands after a question
mark.
-/

namespace Schemata.Yaml

namespace Writer

/-- The name of an anchor. -/
def anchorName (n : Nat) : String := "id" ++ Decimal.zeroPadded 3 n

/-- Writes the anchor of a node. -/
def putAnchor (p : Page) : Option Nat → Page
  | some n => p.indicator ("&" ++ anchorName n) true false
  | none => p

/-- The indentation of a scalar's further lines inside an indentation. -/
def scalarIndent (outer : Option Nat) : Nat := outer.getD 0 + 2

/-- The indentation of a map inside an indentation. -/
def innerIndent : Option Nat → Nat
  | none => 0
  | some n => n + 2

/-- The indentation of a list inside an indentation: the entries of a list behind a key stand
under the key. -/
def listIndent (outer : Option Nat) (behindKey : Bool) : Nat :=
  if behindKey then outer.getD 0 else innerIndent outer

mutual

/-- Writes a node; `inMap` says that it is a value of a map. -/
def node (outer : Option Nat) (inMap : Bool) (p : Page) : Tree → Page
  | .reference n => p.indicator ("*" ++ anchorName n) true false
  | .scalar s => p.scalar true (scalarIndent outer) s
  | .list anchor items =>
    let p := putAnchor p anchor
    if items.isEmpty then p.indicator "[]" true false
    else itemsAt (listIndent outer (inMap && !p.onlyIndicators)) p items
  | .map anchor entries =>
    let p := putAnchor p anchor
    if entries.isEmpty then p.indicator "\x7b\x7d" true false
    else entriesAt (innerIndent outer) p entries

def itemsAt (n : Nat) (p : Page) : List Tree → Page
  | [] => p
  | t :: rest => itemsAt n (node (some n) false ((p.indent n).indicator "-" true true) t) rest

def entriesAt (n : Nat) (p : Page) : List (Scalar × Tree) → Page
  | [] => p
  | (k, t) :: rest =>
    let p := p.indent n
    let p :=
      if isSimpleKey k then (p.scalar false (n + 2) k).indicator ":" false false
      else
        let p := (p.indicator "?" true true).scalar true (n + 2) k
        (p.indent n).indicator ":" true true
    entriesAt n (node (some n) true p t) rest

end

/-- Whether a document needs an end mark: a plain scalar that is all of it does. -/
def needsEnd : Tree → Bool
  | .scalar s => Style.ofScalar s = .plain
  | _ => false

/-- A tree as a document. -/
def document (t : Tree) : String :=
  ((node none false {} t).indent 0).text ++ (if needsEnd t then "...\n" else "")

end Writer

/-- A value in which some places hold one object as a YAML document. -/
def writeShared {κ : Type} [BEq κ] (identity : Identity κ) (v : Value) :
    Except Value.Kind String := do
  return Writer.document (← Tree.ofValue identity v)

/-- A value as a YAML document. -/
def write (v : Value) : Except Value.Kind String :=
  writeShared (fun _ => (none : Option Nat)) v

end Schemata.Yaml
