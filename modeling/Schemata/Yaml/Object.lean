import Schemata.Value.SetOrder
import Schemata.Value.Spot
import Schemata.Yaml.Document
import Schemata.Yaml.Merge
import Schemata.Yaml.Scalar
/-!
# Objects of a YAML document

A list, map, set or pair of a document is an `Object`; objects are numbered, and a part of one is
an atom or the number of another.  A node of a document stands for one object, however many aliases
name it.

* `Objects.ofDocument` makes the objects of a document.  An object gets its number when it is first
  met and its parts in the order of the numbers, so that of several faults in a document the one
  that is nearest to the top is found.
* `Objects.value` is the value that an object shows.
-/

namespace Schemata.Yaml

/-- An atom, or the number of an object. -/
inductive Part
  | atom (s : Scalar)
  | object (n : Nat)
  deriving DecidableEq, Repr, Inhabited

/-- A value with parts. -/
inductive Object
  | list (items : List Part)
  | map (entries : List (Scalar × Part))
  | set (members : List Scalar)
  | pair (first second : Part)
  deriving DecidableEq, Repr, Inhabited

/-- Objects by their numbers. -/
abbrev Objects := Array Object

namespace Objects

/-! ## 1. What is known while objects are made -/

/-- The nodes, the number of the object of each, the objects, the collections among the nodes in
the order of their objects, and the count of merge keys. -/
structure Making where
  nodes : Graph
  numbers : Array (Option Nat)
  objects : Objects
  collections : Array (Nat × Nat)
  merges : Nat

/-- A step of making objects. -/
abbrev Maker := StateT Making (Except Fault)

/-- A node. -/
def node (n : Nat) : Maker Node := do return (← get).nodes.getD n default

/-- Adds an object. -/
def add (o : Object) : Maker Nat := do
  let number := (← get).objects.size
  modify fun m => { m with objects := m.objects.push o }
  return number

/-- The text of a node.  A mapping stands for the value under `=`. -/
def text (nodes : Graph) (n : Nat) : Nat → Except Fault String
  | 0 => .error .endless
  | fuel + 1 =>
    match (nodes.getD n default).content with
    | .scalar text => .ok text
    | .mapping entries =>
      match entries.find? fun e => nodes.tag? e.1 = some .default with
      | some (_, v) => text nodes v fuel
      | none => .error .malformed
    | .sequence _ => .error .malformed

/-- The value of a node that is no collection. -/
def atom (nodes : Graph) (n : Nat) : Except Fault Scalar := do
  let ⟨tag, content⟩ := nodes.getD n default
  if tag.isReadable then
    let text ← text nodes n (nodes.size + 1)
    match tag, content with
    | .timestamp, .mapping _ => throw .timestampMapping
    | _, _ => Scalar.ofText tag text
  else throw .malformed

/-! ## 2. Objects and their parts -/

/-- The object of a collection before its parts are known. -/
def blank? : Tag → Option Object
  | .seq | .omap | .pairs => some (.list [])
  | .map => some (.map [])
  | .set => some (.set [])
  | _ => none

/-- The part that a node stands for. -/
def part (n : Nat) : Maker Part := do
  let m ← get
  match m.numbers.getD n none, blank? (← node n).tag with
  | some number, _ => return .object number
  | none, some o =>
    let number ← add o
    modify fun m => { m with
      numbers := m.numbers.modify n fun _ => some number
      collections := m.collections.push (number, n) }
    return .object number
  | none, none => return .atom (← atom m.nodes n)

/-- Puts an entry under a key that counts as the same. -/
def putKey (key : Scalar) (v : Part) : List (Scalar × Part) → List (Scalar × Part)
  | [] => [(key, v)]
  | (k, w) :: rest => if k.sameKey key then (k, v) :: rest else (k, w) :: putKey key v rest

/-- The entries of a keyed collection: with the first place and the last value of every key, which
has to be an atom. -/
def entries (n : Nat) : Maker (List (Scalar × Part)) := do
  let m ← get
  if (m.nodes.entries? n).isNone then throw .malformed
  let nodes ← m.nodes.flatten m.merges n
  set { m with nodes }
  ((nodes.entries? n).getD []).foldlM (fun acc (k, v) => do
    match ← part k with
    | .atom key => return putKey key (← part v) acc
    | .object _ => throw .malformed) []

/-- The pair of a mapping with one entry. -/
def pair (n : Nat) : Maker Part := do
  match (← get).nodes.entries? n with
  | some [(k, v)] => return .object (← add (.pair (← part k) (← part v)))
  | _ => throw .malformed

/-- The object of a collection. -/
def object (n : Nat) : Maker Object := do
  let tag := (← node n).tag
  match tag, (← get).nodes.items? n with
  | .map, _ => return .map (← entries n)
  | .set, _ => return .set (Value.setOrder ((← entries n).map Prod.fst))
  | _, none => throw .malformed
  | .seq, some items => return .list (← items.mapM part)
  | _, some items => return .list (← items.mapM pair)

/-- Fills the objects of collections from the `i`-th collection on.  Every node is at most one of
them. -/
def fillFrom (i : Nat) : Nat → Maker Unit
  | 0 => return ()
  | fuel + 1 => do
    match (← get).collections[i]? with
    | none => return ()
    | some (number, n) =>
      let o ← object n
      modify fun m => { m with objects := m.objects.modify number fun _ => o }
      fillFrom (i + 1) fuel

/-- The objects of a document and the outermost part. -/
def ofDocument (d : Document) : Except Fault (Objects × Part) := do
  let size := d.nodes.size
  let make : Maker Part := do
    let whole ← part d.root
    fillFrom 0 (size + 1)
    return whole
  let (whole, m) ← make.run ⟨d.nodes, .replicate size none, #[], #[], d.nodes.mergeCount⟩
  return (m.objects, whole)

/-! ## 3. Values -/

/-- Whether an object is a map. -/
def isMap (os : Objects) (n : Nat) : Bool :=
  match os[n]? with
  | some (.map _) => true
  | _ => false

/-- The value of a part inside the objects of `around`, the innermost first; `fuel` is the count of
other objects. -/
def valueIn (os : Objects) (around : List Nat) : Nat → Part → Value
  | _, .atom s => .atom s
  | 0, .object n => .outer ((around.idxOf? n).getD 0) (os.isMap n)
  | fuel + 1, .object n =>
    match around.idxOf? n with
    | some levels => .outer levels (os.isMap n)
    | none =>
      let inner := valueIn os (n :: around) fuel
      match os.getD n default with
      | .list items => .list (items.map inner)
      | .map entries => .map (entries.map fun (k, v) => (k, inner v))
      | .set members => .set members
      | .pair first second => .pair (inner first) (inner second)

/-- The part of a part behind a step. -/
def follow? (os : Objects) (p : Part) (step : Step) : Option Part := do
  let .object n := p | none
  match ← os[n]?, step with
  | .list items, .index i => items[i]?
  | .map entries, .key k => entries.lookup k
  | .pair first _, .index 0 => some first
  | .pair _ second, .index 1 => some second
  | _, _ => none

/-- The part at a place. -/
def partAt? (os : Objects) (p : Part) (spot : Spot) : Option Part :=
  spot.foldlM os.follow? p

/-- The value of a part. -/
def value (os : Objects) (p : Part) : Value := os.valueIn [] os.size p

end Objects

end Schemata.Yaml
