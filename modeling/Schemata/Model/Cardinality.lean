/-!
# Cardinalities of relationships

How many records of one entity go with how many of another, and how each target notation shows it.
A token that names no cardinality is shown like one-to-many.
-/

namespace Schemata

/-- The cardinality of a relationship. -/
inductive Cardinality
  | oneToOne | oneToMany | manyToOne | manyToMany | unknown
  deriving DecidableEq, Repr, Inhabited

namespace Cardinality

/-- All cardinalities. -/
def all : List Cardinality := [oneToOne, oneToMany, manyToOne, manyToMany, unknown]

/-- The token of a cardinality. -/
def token : Cardinality → String
  | oneToOne => "oneToOne"
  | oneToMany => "oneToMany"
  | manyToOne => "manyToOne"
  | manyToMany => "manyToMany"
  | unknown => "unknown"

/-- The cardinality of a token, spelled exactly; `unknown` when there is none. -/
def parse (s : String) : Cardinality := (all.find? fun c => c.token = s).getD unknown

/-- The edge between two entities in an entity-relationship or class notation. -/
def edge : Cardinality → String
  | oneToOne => "||--||"
  | oneToMany | unknown => "||--o\x7b"
  | manyToOne => "o\x7b--||"
  | manyToMany => "o\x7b--o\x7b"

/-- The verb between two entities in a sentence. -/
def verb : Cardinality → String
  | oneToOne => "has one"
  | oneToMany | manyToMany => "has many"
  | manyToOne => "belongs to"
  | unknown => "relates to"

/-- The edge between two classes with its multiplicities. -/
def multiplicity : Cardinality → String
  | oneToOne => "1 --> 1"
  | oneToMany | unknown => "1 --> \"*\""
  | manyToOne => "\"*\" --> 1"
  | manyToMany => "\"*\" --> \"*\""

end Cardinality

end Schemata
