import Schemata.Yaml.Node
import Schemata.Yaml.Token
/-!
# Documents

A `Document` is the nodes of a YAML text and the number of the outermost one;
`Document.ofTokens?` finds it in the tokens of a text that holds at most one document.  An anchor
can be used once, and an alias has to follow the start of the node it names.
-/

namespace Schemata.Yaml

/-- The nodes of a text and the outermost of them. -/
structure Document where
  nodes : Graph
  root : Nat
  deriving Repr

namespace Document

/-! ## 1. What is known while tokens are read -/

/-- The tokens left, the fault behind them, the nodes met, the numbers of those with an anchor and
the tag handles. -/
structure Feed where
  tokens : List Token
  fault : Option Fault
  nodes : Graph
  anchors : List (String × Nat)
  handles : List (String × String)

/-- A reader of tokens. -/
abbrev Reader := StateT Feed (Except Fault)

/-- Fails. -/
def malformed {α : Type} : Reader α := throw .malformed

/-- The token at the front; behind the last one lies the fault that ended them. -/
def peek : Reader Token := do
  match (← get).tokens with
  | t :: _ => return t
  | [] => throw ((← get).fault.getD .malformed)

/-- Drops the token at the front. -/
def advance : Reader Unit := modify fun f => { f with tokens := f.tokens.tail }

/-- Drops the token at the front, which has to be this one. -/
def expect (t : Token) : Reader Unit := do
  if (← peek) = t then advance else malformed

/-- Adds a node, whose anchor is known from now on. -/
def add (anchor : Option String) (n : Node) : Reader Nat := do
  let number := (← get).nodes.size
  modify fun f => { f with
    nodes := f.nodes.push n
    anchors := anchor.toList.map (·, number) ++ f.anchors }
  return number

/-- The node of a place that is left empty. -/
def empty : Reader Nat := add none ⟨.null, .scalar ""⟩

/-- The expansion of a tag. -/
def expandTag (handle : Option String) (suffix : String) : Reader String := do
  match handle with
  | none => return suffix
  | some h =>
    match (← get).handles.lookup h with
    | some expansion => return expansion ++ suffix
    | none => malformed

/-- The anchor and the full tag before a node, in either order. -/
def properties : Reader (Option String × Option String) := do
  match ← peek with
  | .anchor name =>
    advance
    match ← peek with
    | .tag handle suffix =>
      advance
      return (some name, some (← expandTag handle suffix))
    | _ => return (some name, none)
  | .tag handle suffix =>
    advance
    match ← peek with
    | .anchor name =>
      advance
      return (some name, some (← expandTag handle suffix))
    | _ => return (none, some (← expandTag handle suffix))
  | _ => return (none, none)

/-- A tag that leaves the type open. -/
def isOpen (tag : Option String) : Bool := tag = none || tag = some "!"

/-- The type of a scalar: by its form if it is plain and untagged, or tagged with a lone `!`. -/
def scalarTag (tag : Option String) (plain : Bool) (text : String) : Tag :=
  match tag with
  | none => if plain then .ofPlain text else .str
  | some "!" => .ofPlain text
  | some name => .ofName name

/-- The type of a collection. -/
def collectionTag (tag : Option String) (standard : Tag) : Tag :=
  match tag with
  | some name => if name = "!" then standard else .ofName name
  | none => standard

/-- Fails if an anchor is known already. -/
def refuseKnown (anchor : Option String) : Reader Unit := do
  let known := (← get).anchors
  if anchor.any fun name => (known.lookup name).isSome then malformed

/-- Adds a scalar. -/
def addScalar (anchor tag : Option String) (plain : Bool) (text : String) : Reader Nat :=
  add anchor ⟨scalarTag tag plain text, .scalar text⟩

/-- Adds a sequence, whose items may refer to it. -/
def addSequence (anchor tag : Option String) (items : Reader (List Nat)) : Reader Nat := do
  let n ← add anchor ⟨collectionTag tag .seq, .sequence []⟩
  let items ← items
  modify fun f => { f with nodes := f.nodes.refill n (.sequence items) }
  return n

/-- Adds a mapping, whose entries may refer to it. -/
def addMapping (anchor tag : Option String) (entries : Reader (List (Nat × Nat))) :
    Reader Nat := do
  let n ← add anchor ⟨collectionTag tag .map, .mapping []⟩
  let entries ← entries
  modify fun f => { f with nodes := f.nodes.refill n (.mapping entries) }
  return n

/-- A node without content, which needs an anchor or a tag. -/
def vacant (anchor tag : Option String) : Reader Nat :=
  if anchor.isSome || tag.isSome then addScalar anchor tag (isOpen tag) "" else malformed

/-! ## 2. Nodes

`fuel` bounds the nesting together with the number of tokens; every call takes a token or goes one
step down a list of at most four kinds of places. -/

mutual

/-- A node.  Block collections are allowed where `block` says so; a sequence that is not indented,
where `indentless` does. -/
def node (block indentless : Bool) : Nat → Reader Nat
  | 0 => malformed
  | fuel + 1 => do
    match ← peek with
    | .aliasTo name =>
      advance
      match (← get).anchors.lookup name with
      | some n => return n
      | none => malformed
    | _ =>
      let (anchor, tag) ← properties
      let t ← peek
      refuseKnown anchor
      match t with
      | .blockEntry =>
        if indentless then addSequence anchor tag (indentlessEntries fuel) else vacant anchor tag
      | .scalar text plain =>
        advance
        addScalar anchor tag plain text
      | .flowSequenceStart =>
        advance
        addSequence anchor tag (flowItems true fuel)
      | .flowMappingStart =>
        advance
        addMapping anchor tag (flowEntries true fuel)
      | .blockSequenceStart =>
        if block then do
          advance
          addSequence anchor tag (blockItems fuel)
        else vacant anchor tag
      | .blockMappingStart =>
        if block then do
          advance
          addMapping anchor tag (blockEntries fuel)
        else vacant anchor tag
      | _ => vacant anchor tag

/-- The items of a block sequence. -/
def blockItems : Nat → Reader (List Nat)
  | 0 => malformed
  | fuel + 1 => do
    match ← peek with
    | .blockEntry =>
      advance
      let item ← match ← peek with
        | .blockEntry | .blockEnd => empty
        | _ => node true false fuel
      return item :: (← blockItems fuel)
    | .blockEnd =>
      advance
      return []
    | _ => malformed

/-- The items of a sequence at the indentation of the mapping around it. -/
def indentlessEntries : Nat → Reader (List Nat)
  | 0 => malformed
  | fuel + 1 => do
    match ← peek with
    | .blockEntry =>
      advance
      let item ← match ← peek with
        | .blockEntry | .key | .value | .blockEnd => empty
        | _ => node true false fuel
      return item :: (← indentlessEntries fuel)
    | _ => return []

/-- A key or value of a block mapping. -/
def blockSide : Nat → Reader Nat
  | 0 => malformed
  | fuel + 1 => do
    match ← peek with
    | .key | .value | .blockEnd => empty
    | _ => node true true fuel

/-- The value of a block mapping's entry. -/
def blockValue : Nat → Reader Nat
  | 0 => malformed
  | fuel + 1 => do
    match ← peek with
    | .value =>
      advance
      blockSide fuel
    | _ => empty

/-- The entries of a block mapping.  A `:` without a key before it is none. -/
def blockEntries : Nat → Reader (List (Nat × Nat))
  | 0 => malformed
  | fuel + 1 => do
    match ← peek with
    | .key =>
      advance
      let k ← blockSide fuel
      let v ← blockValue fuel
      return (k, v) :: (← blockEntries fuel)
    | .blockEnd =>
      advance
      return []
    | _ => malformed

/-- A key or value in brackets, empty before a token that ends it. -/
def flowSide (ends : List Token) : Nat → Reader Nat
  | 0 => malformed
  | fuel + 1 => do
    if ends.contains (← peek) then empty else node false false fuel

/-- The value of an entry in brackets. -/
def flowValue (ends : List Token) : Nat → Reader Nat
  | 0 => malformed
  | fuel + 1 => do
    match ← peek with
    | .value =>
      advance
      flowSide ends fuel
    | _ => empty

/-- The items of a list in brackets; an item may be a lone entry of a mapping. -/
def flowItems (first : Bool) : Nat → Reader (List Nat)
  | 0 => malformed
  | fuel + 1 => do
    if (← peek) = .flowSequenceEnd then
      advance
      return []
    if !first then expect .flowEntry
    match ← peek with
    | .key =>
      advance
      let item ← addMapping none none do
        let k ← flowSide [.value, .flowEntry, .flowSequenceEnd] fuel
        let v ← flowValue [.flowEntry, .flowSequenceEnd] fuel
        return [(k, v)]
      return item :: (← flowItems false fuel)
    | .flowSequenceEnd =>
      advance
      return []
    | _ =>
      let item ← node false false fuel
      return item :: (← flowItems false fuel)

/-- The entries of a mapping in braces; a key may stand without a value. -/
def flowEntries (first : Bool) : Nat → Reader (List (Nat × Nat))
  | 0 => malformed
  | fuel + 1 => do
    if (← peek) = .flowMappingEnd then
      advance
      return []
    if !first then expect .flowEntry
    match ← peek with
    | .key =>
      advance
      let k ← flowSide [.value, .flowEntry, .flowMappingEnd] fuel
      let v ← flowValue [.flowEntry, .flowMappingEnd] fuel
      return (k, v) :: (← flowEntries false fuel)
    | .flowMappingEnd =>
      advance
      return []
    | _ =>
      let k ← node false false fuel
      return (k, ← empty) :: (← flowEntries false fuel)

end

/-! ## 3. The document -/

/-- The handles that every document knows. -/
def standardHandles : List (String × String) := [("!", "!"), ("!!", Tag.standard)]

/-- The directives at the front: at most one version, of the first edition, and every handle
once. -/
def directives (versioned : Bool) (declared : List (String × String)) :
    Nat → Reader (List (String × String))
  | 0 => malformed
  | fuel + 1 => do
    match ← peek with
    | .directive (.version major _) =>
      if versioned || major ≠ 1 then malformed
      advance
      directives true declared fuel
    | .directive (.handle name expansion) =>
      if (declared.lookup name).isSome then malformed
      advance
      directives versioned ((name, expansion) :: declared) fuel
    | .directive (.reserved _) =>
      advance
      directives versioned declared fuel
    | _ => return declared

/-- The document after a `---`, with the directives before it. -/
def explicitDocument (fuel : Nat) : Reader Nat := do
  let declared ← directives false [] fuel
  modify fun f => { f with handles := declared ++ standardHandles }
  expect .documentStart
  match ← peek with
  | .directive _ | .documentStart | .documentEnd | .streamEnd => empty
  | _ => node true false fuel

/-- Drops the document ends at the front. -/
def dropEnds : List Token → List Token
  | .documentEnd :: rest => dropEnds rest
  | ts => ts

/-- The end of a text, where no further document may begin. -/
def ending (fuel : Nat) : Reader Unit := do
  modify fun f => { f with tokens := dropEnds f.tokens }
  match ← peek with
  | .streamEnd => return ()
  | _ =>
    let _ ← directives false [] fuel
    let _ ← peek
    malformed

/-- The outermost node of a text, if it holds one, and nothing after it. -/
def outermost (fuel : Nat) : Reader (Option Nat) := do
  let n ← match ← peek with
    | .streamEnd => pure none
    | .directive _ | .documentStart => some <$> explicitDocument fuel
    | _ => some <$> node true false fuel
  ending fuel
  return n

/-- The document in tokens, if there is one; `fault` lies behind the last of them. -/
def ofTokens? (ts : List Token) (fault : Option Fault) : Except Fault (Option Document) := do
  let (root, f) ← (outermost (8 * ts.length + 8)).run ⟨ts, fault, #[], [], standardHandles⟩
  return root.map fun n => ⟨f.nodes, n⟩

end Document

end Schemata.Yaml
