import Schemata.Yaml.Fault
import Schemata.Yaml.Node
/-!
# Merge keys

The entry of a merge key `<<` stands for the entries of its value: of a mapping, or of several
mappings, the last of which come first.  `Graph.flatten` puts those entries before a mapping's own,
so that the latter win when keys are looked up in order.

The mappings that a merge key names are flattened themselves.  A merge key is taken out before its
value is looked at, so that a mapping may even name itself.
-/

namespace Schemata.Yaml.Graph

/-- A computation on the nodes of a document. -/
abbrev Merger := StateT Graph (Except Fault)

/-- The entries of a mapping. -/
def entriesOf (n : Nat) : Merger (List (Nat × Nat)) := do return ((← get).entries? n).getD []

/-- Whether an entry has the merge key. -/
def isMerge (g : Graph) (e : Nat × Nat) : Bool := g.tag? e.1 = some .merge

/-- Makes texts of the keys that are a lone `=`. -/
def settleKeys (entries : List (Nat × Nat)) : Merger Unit :=
  modify fun g => entries.foldl (fun g e =>
    if g.tag? e.1 = some .default then g.retag e.1 .str else g) g

mutual

/-- Replaces the merge keys of a mapping by the entries that they stand for. -/
def flattenMapping (n : Nat) : Nat → Merger Unit
  | 0 => throw .malformed
  | fuel + 1 => do
    let merged ← takeMerged n 0 fuel
    if !merged.isEmpty then
      let own ← entriesOf n
      modify fun g => g.refill n (.mapping (merged ++ own))

/-- Takes the merge keys out of a mapping from an index on, and the entries that they stand for. -/
def takeMerged (n index : Nat) : Nat → Merger (List (Nat × Nat))
  | 0 => throw .malformed
  | fuel + 1 => do
    let entries ← entriesOf n
    let passed := ((entries.drop index).takeWhile (!isMerge (← get) ·))
    settleKeys passed
    let here := index + passed.length
    match entries[here]? with
    | none => return []
    | some (_, source) =>
      modify fun g => g.refill n (.mapping (entries.eraseIdx here))
      let g ← get
      let merged ←
        match g.entries? source, g.items? source with
        | some _, _ =>
          flattenMapping source fuel
          entriesOf source
        | none, some items =>
          let parts ← items.mapM fun item => do
            if ((← get).entries? item).isNone then throw Fault.malformed
            flattenMapping item fuel
            entriesOf item
          pure parts.reverse.flatten
        | none, none => throw .malformed
      return merged ++ (← takeMerged n here fuel)

end

/-- The count of merge keys. -/
def mergeCount (g : Graph) : Nat :=
  g.foldl (fun count node =>
    match node.content with
    | .mapping entries => count + (entries.filter (isMerge g)).length
    | _ => count) 0

/-- The nodes with the merge keys of a mapping replaced; `merges` is at least the count of merge
keys, each of which is taken out once. -/
def flatten (g : Graph) (merges n : Nat) : Except Fault Graph :=
  (·.2) <$> (flattenMapping n (3 * merges + 3)).run g

end Schemata.Yaml.Graph
