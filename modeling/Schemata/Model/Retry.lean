import Schemata.Model.Constraints
/-!
# Reading constraints by trying again

A reader of records knows only whole maps: one value that cannot be read and the map is refused.
Constraints are read with it all the same.  The keys that it complains about are taken out of the
map and what is left is read again, until there is nothing to complain about or nothing to take out.

* `Constraints.readStrictly`: the reader of whole maps.
* `Constraints.retry`: the loop around it, with the wire names of the keys that were taken out.
* `Constraints.readRetrying`: reads a constraint map with the loop.
-/

namespace Schemata

open Coercion

/-! ## 1. The parts of the view -/

namespace ConstraintKey

/-- What a known key is read as. -/
abbrev Accessor : ConstraintKey → Type
  | primary | unique | autoIncrement => Bool
  | maxLength | minLength => Int
  | minimum | maximum => Number
  | default => Value
  | choices => List Value
  | pattern => String
  | items => Entries String Value

/-- Reads the value of a known key.  Null stands for nothing, except as a default. -/
def coerce : (k : ConstraintKey) → Value → Checked (Option k.Accessor)
  | primary, v | unique, v | autoIncrement, v => optional boolean v
  | maxLength, v | minLength, v => optional integer v
  | minimum, v | maximum, v => optional number v
  | default, v => .ok (some v)
  | choices, v => optional list v
  | pattern, v => optional text v
  | items, v => optional dictionary v

/-- The names of a key, the other name first. -/
def inputNames (k : ConstraintKey) : List String :=
  if k.fieldName = k.wireName then [k.fieldName] else [k.fieldName, k.wireName]

/-- The names under which the value may have been given that is complained about under a name. -/
def inputNamesOf (name : String) : List String :=
  match all.find? fun k => k.inputNames.contains name with
  | some k => k.inputNames
  | none => [name]

end ConstraintKey

/-! ## 2. The reader of whole maps -/

namespace Constraints

/-- The value given for a known key, with the name that it was given under. -/
def given? (entries : List (Scalar × Value)) (k : ConstraintKey) : Option (String × Value) :=
  k.names.findSome? fun n => (Value.member? n entries).map (n, ·)

/-- Reads the value given for a known key; complaints are at the name that it was given under. -/
def readKey (entries : List (Scalar × Value)) (k : ConstraintKey) : Checked (Option k.Accessor) :=
  match given? entries k with
  | some (n, v) => (k.coerce v).under (.key n)
  | none => .ok none

/-- Reads a constraint map as a whole, or complains about every value in it that cannot be read. -/
def readStrictly (entries : List (Scalar × Value)) : Checked Constraints :=
  (Checked.ok Constraints.mk
    |>.and (readKey entries .primary)
    |>.and (readKey entries .unique)
    |>.and (readKey entries .autoIncrement)
    |>.and (readKey entries .maxLength)
    |>.and (readKey entries .minLength)
    |>.and (readKey entries .minimum)
    |>.and (readKey entries .maximum)
    |>.and (readKey entries .default)
    |>.and (readKey entries .choices)
    |>.and (readKey entries .pattern)
    |>.and (readKey entries .items)
    |>.and (.ok [])
    |>.and (.ok [])).withMore (keyComplaints entries)

/-! ## 3. The loop -/

/-- The text of a step to a place. -/
def segmentText : Segment → String
  | .key name => name
  | .index n => toString n

/-- The text keys of a map that a complaint may be about. -/
def keysOfComplaint (entries : List (Scalar × Value)) (c : Complaint) : List String :=
  match c.path with
  | [] => []
  | s :: _ =>
    (ConstraintKey.inputNamesOf (segmentText s)).filter fun n => (Value.member? n entries).isSome

/-- The text keys of a map that complaints are about, each once. -/
def badKeys (entries : List (Scalar × Value)) (complaints : List Complaint) : List String :=
  (complaints.flatMap (keysOfComplaint entries)).eraseDups

/-- A map without some of its text keys. -/
def without (keys : List String) (entries : List (Scalar × Value)) : List (Scalar × Value) :=
  entries.filter fun p => !(keys.map Scalar.str).contains p.1

/-- Keys that complaints are about are keys of the map, so there is less of it without them. -/
theorem length_without_lt {entries : List (Scalar × Value)} {complaints : List Complaint}
    (h : badKeys entries complaints ≠ []) :
    (without (badKeys entries complaints) entries).length < entries.length := by
  obtain ⟨n, hn⟩ := List.exists_mem_of_ne_nil _ h
  obtain ⟨c, -, hc⟩ := List.mem_flatMap.mp (List.mem_eraseDups.mp hn)
  have hmember : (Value.member? n entries).isSome = true := by
    unfold keysOfComplaint at hc
    split at hc
    · cases hc
    · exact (List.mem_filter.mp hc).2
  obtain ⟨p, hp, hkey⟩ := List.lookup_isSome_iff.mp hmember
  rw [without, List.length_filter_lt_length_iff_exists]
  refine ⟨p, hp, ?_⟩
  rw [← eq_of_beq hkey]
  simpa using hn

/-- Reads a constraint map, and what is left of it, until it is read or refused for what cannot be
taken out.  `rejected` has the wire names of what was taken out. -/
def retry (entries : List (Scalar × Value)) (rejected : List String) :
    Checked (Constraints × List String) :=
  match readStrictly entries with
  | .ok c => .ok (c, rejected)
  | .bad complaints =>
    let bad := badKeys entries complaints
    if _ : bad = [] then .bad complaints
    else retry (without bad entries) (rejected ++ bad.map ConstraintKey.wireNameOf)
termination_by entries.length
decreasing_by exact length_without_lt ‹_›

/-- Reads a constraint map by trying again. -/
def readRetrying (v : Value) : Checked Constraints :=
  record recordName v fun entries =>
    (retry entries []).map fun (c, rejected) =>
      { c with wire := wireOf (textEntries entries), rejected := rejected }

end Constraints

end Schemata
