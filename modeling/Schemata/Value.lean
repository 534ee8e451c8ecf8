import Schemata.Calendar
/-!
# Loosely typed values

A `Value` is what a model file or a generated document holds: scalars, lists, maps that keep the
order of their entries, sets and pairs.  JSON knows null, booleans, numbers, texts, lists and maps
with text keys; all else comes from YAML files, as does a list or map that stands inside itself.

* `Entries` are ordered maps as lists of pairs: `put` keeps the place of a key that is already
  there and appends a new one.
* `Scalar.sameKey` says which scalars are one key of a map: `1`, `1.0` and `true` are.
* `Value.isTruthy` says which values count as given.
* `Value.unrolledItems` and `Value.unrolledEntries` are the parts of a value that may stand inside
  itself, as values of their own.
-/

namespace Schemata

/-! ## 1. Ordered maps -/

/-- An ordered map: pairs of a key and its value, first entries first. -/
abbrev Entries (κ ν : Type) := List (κ × ν)

namespace Entries

variable {κ ν : Type} [BEq κ]

/-- Replaces the value of a key in its place, or appends the key with its value. -/
def put (key : κ) (value : ν) : Entries κ ν → Entries κ ν
  | [] => [(key, value)]
  | (k, v) :: rest => if k == key then (k, value) :: rest else (k, v) :: put key value rest

/-- Keeps the first place and the last value of every key. -/
def ofList (pairs : List (κ × ν)) : Entries κ ν :=
  pairs.foldl (fun acc p => put p.1 p.2 acc) []

/-- The map with further entries put into it. -/
def putAll (entries more : Entries κ ν) : Entries κ ν :=
  more.foldl (fun acc p => put p.1 p.2 acc) entries

/-- Whether a key is there. -/
def contains (key : κ) (entries : Entries κ ν) : Bool := entries.any fun p => p.1 == key

/-- Appends an entry unless its key is there. -/
def add (es : Entries κ ν) (p : κ × ν) : Entries κ ν := if contains p.1 es then es else es ++ [p]

/-- Appends entries in turn, each unless its key is there. -/
def addAll (es more : Entries κ ν) : Entries κ ν := more.foldl add es

/-- The map without a key. -/
def erase (key : κ) (entries : Entries κ ν) : Entries κ ν := entries.filter fun p => !(p.1 == key)

/-- The keys in order. -/
def keys (entries : Entries κ ν) : List κ := entries.map Prod.fst

end Entries

/-! ## 2. Scalars and values -/

/-- A value without parts; it can be the key of a map. -/
inductive Scalar
  | null
  | bool (b : Bool)
  | int (n : Int)
  | float (x : Binary64)
  | str (s : String)
  | date (d : Date)
  | moment (t : Moment)
  | bytes (bs : List UInt8)
  deriving DecidableEq, Repr, Inhabited

/-- A loosely typed value. -/
inductive Value
  | atom (s : Scalar)
  | list (items : List Value)
  | map (entries : List (Scalar × Value))
  | set (members : List Scalar)
  | pair (first second : Value)
  /-- The list or map around this place that is `levels` collections further out than the nearest
  one. -/
  | outer (levels : Nat) (isMap : Bool)
  deriving Repr, Inhabited

namespace Value

@[match_pattern] abbrev null : Value := .atom .null
@[match_pattern] abbrev bool (b : Bool) : Value := .atom (.bool b)
@[match_pattern] abbrev int (n : Int) : Value := .atom (.int n)
@[match_pattern] abbrev float (x : Binary64) : Value := .atom (.float x)
@[match_pattern] abbrev str (s : String) : Value := .atom (.str s)

/-- A map with text keys. -/
def obj (entries : Entries String Value) : Value := .map (entries.map fun (k, v) => (.str k, v))

/-- A list of texts. -/
def texts (items : List String) : Value := .list (items.map Value.str)

/-- A natural number. -/
def nat (n : Nat) : Value := .int n

/-- A text, or null when there is none. -/
def ofOption : Option String → Value
  | some s => .str s
  | none => .null

/-- The value under a text key of a map's entries. -/
def member? (key : String) (entries : List (Scalar × Value)) : Option Value :=
  entries.lookup (.str key)

end Value

/-! ## 3. Kinds of values -/

/-- The kind of a value. -/
inductive Value.Kind
  | null | bool | int | float | str | bytes | date | moment | list | map | set | pair
  deriving DecidableEq, Repr

namespace Value.Kind

/-- The name of a kind in messages. -/
def name : Kind → String
  | null => "NoneType"
  | bool => "bool"
  | int => "int"
  | float => "float"
  | str => "str"
  | bytes => "bytes"
  | date => "date"
  | moment => "datetime"
  | list => "list"
  | map => "dict"
  | set => "set"
  | pair => "tuple"

/-- The full name of a kind, as messages about a missing operation have it. -/
def fullName : Kind → String
  | date => "datetime.date"
  | moment => "datetime.datetime"
  | k => k.name

end Value.Kind

/-- The kind of a scalar. -/
def Scalar.kind : Scalar → Value.Kind
  | .null => .null
  | .bool _ => .bool
  | .int _ => .int
  | .float _ => .float
  | .str _ => .str
  | .bytes _ => .bytes
  | .date _ => .date
  | .moment _ => .moment

namespace Value

/-- The kind of a value. -/
def kind : Value → Kind
  | atom s => s.kind
  | list _ => .list
  | map _ => .map
  | set _ => .set
  | pair .. => .pair
  | outer _ isMap => if isMap then .map else .list

/-- Whether a value counts as given: null, false, zero and everything empty do not. -/
def isTruthy : Value → Bool
  | null => false
  | bool b => b
  | int n => n != 0
  | float x => !x.isZero
  | str s => s != ""
  | atom (.bytes bs) => !bs.isEmpty
  | atom _ => true
  | list items => !items.isEmpty
  | map entries => !entries.isEmpty
  | set members => !members.isEmpty
  | pair .. => true
  | outer .. => true

end Value

/-! ## 4. Keys -/

namespace Scalar

/-- The numeric value of a number or a boolean, as a ratio. -/
def ratio? : Scalar → Option (Int × Nat)
  | bool b => some (if b then 1 else 0, 1)
  | int n => some (n, 1)
  | float x => x.toRatio?
  | _ => none

/-- Whether two scalars are one key of a map: numbers are compared by value, a boolean counts as
`0` or `1`, and moments with an offset are compared as instants.  What is not a number is the same
as itself alone. -/
def sameKey (a b : Scalar) : Bool :=
  match a, b with
  | moment t, moment u => t.sameInstant u
  | _, _ =>
    match a.ratio?, b.ratio? with
    | some x, some y => Binary64.compareRatio x y == .eq
    | _, _ => a == b

end Scalar

/-! ## 5. Values inside themselves -/

namespace Value

mutual

/-- A value in which the places that mean the collection `depth` levels out hold a value. -/
def fill (whole : Value) (depth : Nat) : Value → Value
  | outer levels isMap => if levels = depth then whole else outer levels isMap
  | list items => list (fillItems whole (depth + 1) items)
  | map entries => map (fillEntries whole (depth + 1) entries)
  | pair first second => pair (fill whole (depth + 1) first) (fill whole (depth + 1) second)
  | v => v

def fillItems (whole : Value) (depth : Nat) : List Value → List Value
  | [] => []
  | v :: rest => fill whole depth v :: fillItems whole depth rest

def fillEntries (whole : Value) (depth : Nat) :
    List (Scalar × Value) → List (Scalar × Value)
  | [] => []
  | (k, v) :: rest => (k, fill whole depth v) :: fillEntries whole depth rest

end

/-- The items of a list, as values of their own. -/
def unrolledItems (v : Value) : List Value :=
  match v with
  | list items => fillItems v 0 items
  | _ => []

/-- The entries of a map, their values being values of their own. -/
def unrolledEntries (v : Value) : List (Scalar × Value) :=
  match v with
  | map entries => fillEntries v 0 entries
  | _ => []

end Value

end Schemata
