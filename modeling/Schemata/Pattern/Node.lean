import Schemata.Pattern.Fault
/-!
# The parts of a pattern

A pattern is a sequence of nodes.  What matters here is how wide a match can be.

* `Node.width` is the least and greatest length of a match.
* `Node.compiles` refuses a look-behind whose width is not fixed, `Node.isWide` finds one that is
  too wide.
-/

namespace Schemata.Pattern

/-! ## 1. Nodes -/

/-- The least and greatest length of a match. -/
structure Width where
  least : Nat
  most : Nat
  deriving DecidableEq, Repr

namespace Width

/-- Lengths are counted up to this one, least lengths up to the one before it. -/
def ceiling : Nat := 0xffffffff

/-- No length. -/
def zero : Width := ⟨0, 0⟩

/-- The length of one character. -/
def one : Width := ⟨1, 1⟩

/-- One match after another. -/
def add (a b : Width) : Width :=
  ⟨min (a.least + b.least) (ceiling - 1), min (a.most + b.most) ceiling⟩

/-- A match of one or of the other. -/
def either (a b : Width) : Width := ⟨min a.least b.least, max a.most b.most⟩

/-- A match repeated; without a greatest count it is unbounded, unless it is always empty. -/
def times (w : Width) (least : Nat) (most : Option Nat) : Width :=
  ⟨min (w.least * least) (ceiling - 1),
    match most with
    | some n => min (w.most * n) ceiling
    | none => if w.most = 0 then 0 else ceiling⟩

end Width

/-- How a repetition proceeds. -/
inductive Greed
  | greedy | lazy | possessive
  deriving DecidableEq, Repr

/-- The name of a repetition as an operator. -/
def Greed.operator : Greed → String
  | greedy => "MAX_REPEAT"
  | lazy => "MIN_REPEAT"
  | possessive => "POSSESSIVE_REPEAT"

/-- A part of a pattern.  `unit` matches one character, `anchor` none; `group` is a subpattern that
captures, or carries flags of its own, or is merely grouped. -/
inductive Node
  | unit
  | anchor
  | look (behind : Bool) (body : List Node)
  | reference (group : Nat) (width : Width)
  | group (number : Option Nat) (flagged : Bool) (body : List Node)
  | atomic (body : List Node)
  | choice (branches : List (List Node))
  | conditional (group : Nat) (yes no : List Node)
  | repeated (greed : Greed) (least : Nat) (most : Option Nat) (body : List Node)
  deriving Repr

namespace Node

/-! ## 2. Widths -/

mutual

/-- The width of a node. -/
def width : Node → Width
  | unit => .one
  | anchor => .zero
  | look .. => .zero
  | reference _ w => w
  | group _ _ body => widthOf body
  | atomic body => widthOf body
  | choice branches => widthOfEach branches
  | conditional _ yes no => (widthOf yes).either (widthOf no)
  | repeated _ least most body => (widthOf body).times least most

/-- The width of a sequence. -/
def widthOf : List Node → Width
  | [] => .zero
  | n :: rest => n.width.add (widthOf rest)

/-- The width of a choice. -/
def widthOfEach : List (List Node) → Width
  | [] => .zero
  | [branch] => widthOf branch
  | branch :: rest => (widthOf branch).either (widthOfEach rest)

end

/-! ## 3. Compilation -/

/-- A fault of the pattern as a whole. -/
def refuse (cause : Cause) : Except Stop Unit := .error (.fault ⟨cause, none⟩)

/-- A look-behind has a fixed width. -/
def checkBehind (w : Width) : Except Stop Unit :=
  if w.least ≠ w.most then refuse .variableLookBehind else .ok ()

mutual

/-- Whether a node compiles; a template has no repetitions. -/
def compiles (template : Bool) : Node → Except Stop Unit
  | unit | anchor | reference .. => .ok ()
  | look behind body => do
    if behind then checkBehind (widthOf body)
    allCompile template body
  | group _ _ body | atomic body => allCompile template body
  | choice branches => eachCompiles template branches
  | conditional _ yes no => do
    allCompile template yes
    allCompile template no
  | repeated greed _ _ body => do
    if template then refuse (.template greed.operator)
    allCompile template body

def allCompile (template : Bool) : List Node → Except Stop Unit
  | [] => .ok ()
  | n :: rest => do
    compiles template n
    allCompile template rest

def eachCompiles (template : Bool) : List (List Node) → Except Stop Unit
  | [] => .ok ()
  | branch :: rest => do
    allCompile template branch
    eachCompiles template rest

end

/-- The first width that is too great for a look-behind. -/
def reach : Nat := 0x80000000

mutual

/-- Whether a look-behind in a node is too wide. -/
def isWide : Node → Bool
  | unit | anchor | reference .. => false
  | look behind body => (behind && decide (reach ≤ (widthOf body).least)) || anyWide body
  | group _ _ body | atomic body | repeated _ _ _ body => anyWide body
  | choice branches => anyWideIn branches
  | conditional _ yes no => anyWide yes || anyWide no

def anyWide : List Node → Bool
  | [] => false
  | n :: rest => n.isWide || anyWide rest

def anyWideIn : List (List Node) → Bool
  | [] => false
  | branch :: rest => anyWide branch || anyWideIn rest

end

end Node

end Schemata.Pattern
