import Schemata.Yaml.Tag
/-!
# Nodes of a YAML document

A `Node` is a scalar, a sequence or a mapping with a tag.  The nodes of a document are numbered in
the order in which they begin, and a collection holds the numbers of its parts: an alias is the
number of the node that its anchor marks, which may be a collection around the alias.
-/

namespace Schemata.Yaml

/-- What a node holds; parts are numbers of nodes. -/
inductive Content
  | scalar (text : String)
  | sequence (items : List Nat)
  | mapping (entries : List (Nat × Nat))
  deriving DecidableEq, Repr, Inhabited

/-- A tagged node. -/
structure Node where
  tag : Tag
  content : Content
  deriving DecidableEq, Repr, Inhabited

/-- The nodes of a document by their numbers. -/
abbrev Graph := Array Node

namespace Graph

/-- The tag of a node. -/
def tag? (g : Graph) (n : Nat) : Option Tag := g[n]?.map Node.tag

/-- The entries of a mapping. -/
def entries? (g : Graph) (n : Nat) : Option (List (Nat × Nat)) :=
  match g[n]? with
  | some ⟨_, .mapping entries⟩ => some entries
  | _ => none

/-- The items of a sequence. -/
def items? (g : Graph) (n : Nat) : Option (List Nat) :=
  match g[n]? with
  | some ⟨_, .sequence items⟩ => some items
  | _ => none

/-- Gives a node another content. -/
def refill (g : Graph) (n : Nat) (content : Content) : Graph :=
  g.modify n fun node => { node with content }

/-- Gives a node another tag. -/
def retag (g : Graph) (n : Nat) (tag : Tag) : Graph := g.modify n fun node => { node with tag }

end Graph

end Schemata.Yaml
