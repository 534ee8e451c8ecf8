import Schemata.MetaSchema.Dialect
import Schemata.Value.Order
/-!
# Checking schema documents

`MetaSchema.violations` lists where a value breaks the rules of a dialect.

* A rule about another sort of value holds.
* A choice of schemas that all fail is one violation.
* `Value.agrees` is the equality that lists of distinct values are judged by: it keeps booleans
  apart from numbers.  Only neighbours in the order of the values are compared where there is one.
-/

namespace Schemata

/-! ## 1. Equality and depth -/

/-- Whether two scalars are equal: numbers by value, a boolean only to a boolean. -/
def Scalar.agrees (a b : Scalar) : Bool :=
  match a, b with
  | .bool x, .bool y => x == y
  | .bool _, _ | _, .bool _ => false
  | _, _ => a.sameKey b

namespace Value

/-- Whether bytes are the items of a list. -/
def areItems (bs : List UInt8) (items : List Value) : Bool :=
  bs.length == items.length && (bs.zip items).all fun
    | (b, .atom s) => (Scalar.int b.toNat).agrees s
    | _ => false

mutual

/-- Whether two values are equal; lists, pairs and bytes are compared item by item. -/
def agrees : Value → Value → Bool
  | .atom (.bytes bs), .list items => areItems bs items
  | .atom (.bytes bs), .pair x y => areItems bs [x, y]
  | .list items, .atom (.bytes bs) => areItems bs items
  | .pair x y, .atom (.bytes bs) => areItems bs [x, y]
  | .atom a, .atom b => a.agrees b
  | .list xs, .list ys => agreesAll xs ys
  | .pair x y, .pair z w => x.agrees z && y.agrees w
  | .pair x y, .list [z, w] => x.agrees z && y.agrees w
  | .list [x, y], .pair z w => x.agrees z && y.agrees w
  | .map xs, .map ys => xs.length == ys.length && agreesOn xs ys
  | .set xs, .set ys => xs.length == ys.length && xs.all fun x => ys.any x.sameKey
  | _, _ => false

def agreesAll : List Value → List Value → Bool
  | [], [] => true
  | x :: xs, y :: ys => x.agrees y && agreesAll xs ys
  | _, _ => false

def agreesOn : List (Scalar × Value) → List (Scalar × Value) → Bool
  | [], _ => true
  | (k, x) :: xs, ys =>
    (match ys.find? fun e => e.1.sameKey k with
      | some (_, y) => x.agrees y
      | none => false) && agreesOn xs ys

end

/-- Whether no two items are equal. -/
def allDistinct : List Value → Bool
  | [] => true
  | x :: rest => !rest.any x.agrees && allDistinct rest

/-- Whether no two neighbours are equal. -/
def neighboursDistinct (items : List Value) : Bool :=
  (items.zip items.tail).all fun (x, y) => !x.agrees y

/-- Whether the items of a list count as distinct: no two neighbours are equal once the items are
sorted.  Where they have no order, or one of several is a boolean, no two items are. -/
def countAsDistinct (items : List Value) : Bool :=
  match if items.any fun v => v.kind = .bool then none else sorted? items with
  | some sorted => neighboursDistinct sorted
  | none => allDistinct items

mutual

/-- How deep a value is nested. -/
def depth : Value → Nat
  | .list items => depths items + 1
  | .map entries => memberDepths entries + 1
  | _ => 0

def depths : List Value → Nat
  | [] => 0
  | v :: rest => max v.depth (depths rest)

def memberDepths : List (Scalar × Value) → Nat
  | [] => 0
  | (_, v) :: rest => max v.depth (memberDepths rest)

end

end Value

namespace MetaSchema

/-! ## 2. Violations -/

/-- A broken rule: the place in the document, the place in the dialect and the keyword. -/
structure Violation where
  message : String
  path : List String := []
  schemaPath : List String := []
  keyword : String := ""
  /-- Whether the message and the places could be written. -/
  isWritten : Bool := true
  deriving DecidableEq, Repr

namespace Violation

/-- The violation seen from one step further out in the document. -/
def inside (step : String) (v : Violation) : Violation := { v with path := step :: v.path }

/-- The violation seen from some steps further out in the dialect. -/
def under (steps : List String) (v : Violation) : Violation :=
  { v with schemaPath := steps ++ v.schemaPath }

end Violation

/-- What stands for a violation whose message or place has no text. -/
def Violation.unwritable : Violation :=
  { message := Written.limitMessage "", isWritten := false }

/-- A rule broken by a value. -/
def broken (r : Rule) (v : Value) (text : String) : List Violation :=
  if v.isWritable then
    [{ message := v.literal ++ text, schemaPath := [r.keyword], keyword := r.keyword }]
  else [.unwritable]

/-- A rule broken under a condition. -/
def brokenIf (condition : Bool) (r : Rule) (v : Value) (text : String) : List Violation :=
  if condition then broken r v text else []

/-- Whether a value is a number that is less than a bound, or equal to it if that is excluded. -/
def isBelow (bound : Int) (isExclusive : Bool) : Value → Bool
  | .int n => decide (n < bound) || (isExclusive && n = bound)
  | .float x =>
    match x.compareInt? bound with
    | some .lt => true
    | some .eq => isExclusive
    | _ => false
  | _ => false

/-- The text about a number below a bound. -/
def belowText (bound : Int) (isExclusive : Bool) : String :=
  " is less than " ++ (if isExclusive then "or equal to " else "") ++ "the minimum of " ++
    toString bound

/-- The violations of a rule that looks at nothing inside of a value. -/
def flatViolations (integral : Bool) (r : Rule) (v : Value) : List Violation :=
  match r, v with
  | .types names, v =>
    brokenIf (!names.any fun t => t.holds integral v) r v
      (" is not of type " ++ ", ".intercalate (names.map fun t => Text.Quoted.literal t.text))
  | .choices names, v =>
    brokenIf (!names.any fun n => (Value.str n).agrees v) r v
      (" is not one of " ++ (Value.texts names).literal)
  | .least bound isExclusive, v =>
    brokenIf (isBelow bound isExclusive v) r v (belowText bound isExclusive)
  | .above bound, v => brokenIf (isBelow bound true v) r v (belowText bound true)
  | .form f, .str s =>
    brokenIf (!f.holds s) r v (" does not match " ++ Text.Quoted.literal f.pattern)
  | .nonEmpty, .list items => brokenIf items.isEmpty r v " should be non-empty"
  | .distinct, .list items => brokenIf (!Value.countAsDistinct items) r v " has non-unique elements"
  | .requires needs, .map es =>
    needs.flatMap fun (property, others) =>
      if (Value.member? property es).isSome then
        (others.filter fun o => (Value.member? o es).isNone).flatMap fun o =>
          broken r (.str o) (" is a dependency of " ++ Text.Quoted.literal property)
      else []
  | _, _ => []

/-- The violations inside a property. -/
def insideKey (key : Scalar) (found : List Violation) : List Violation :=
  if found.isEmpty || key.isWritable then found.map (·.inside key.display) else [.unwritable]

/-- The violations of a choice, from those of its schemas in order: none as soon as a schema has
none, but the text of each one before that is needed. -/
def choose (onFail : List Violation) : List (List Violation) → List Violation
  | [] => onFail
  | [] :: _ => []
  | found :: rest => if found.all (·.isWritten) then choose onFail rest else [.unwritable]

/-- The violation of a value that is nested more deeply than it was said to be. -/
def tooDeep : Violation := { message := "nested too deeply" }

/-- A list with the position of every item as text. -/
def indexed {α : Type} (items : List α) : List (String × α) :=
  items.zipIdx.map fun (a, i) => (toString i, a)

/-- The violations of a rule of a dialect, for values of a bounded depth. -/
def violationsOf (d : Dialect) : Nat → Rule → Value → List Violation
  | 0, _, _ => [tooDeep]
  | fuel + 1, r, v =>
    let check (schema : Schema) (u : Value) : List Violation :=
      schema.flatMap fun rule => violationsOf d fuel rule u
    match r, v with
    | .properties schemas, .map _ =>
      schemas.flatMap fun (name, schema) =>
        match Value.member? name v.unrolledEntries with
        | some u =>
          (check schema u).map fun x => (x.inside name).under [r.keyword, name]
        | none => []
    | .everyProperty schema, .map _ =>
      v.unrolledEntries.flatMap fun (key, u) =>
        (insideKey key (check schema u)).map (·.under [r.keyword])
    | .propertyNames schema, .map es =>
      es.flatMap fun (key, _) => (check schema (.atom key)).map (·.under [r.keyword])
    | .items schema, .list _ =>
      (indexed v.unrolledItems).flatMap fun (i, u) =>
        (check schema u).map fun x => (x.inside i).under [r.keyword]
    | .all schemas, v =>
      (indexed schemas).flatMap fun (i, schema) =>
        (check schema v).map (·.under [r.keyword, i])
    | .any schemas, v =>
      choose (broken r v " is not valid under any of the given schemas")
        (schemas.map fun schema => check schema v)
    | .whole isDynamic, v =>
      (check d.schema v).map (·.under (if isDynamic then [r.keyword] else []))
    | r, v => flatViolations d.wholeNumbersAreIntegers r v

/-- The number of rules inside each other for every level of a document. -/
def rulesPerLevel : Nat := 8

/-- The violations of a dialect by a document. -/
def violations (d : Dialect) (document : Value) : List Violation :=
  d.schema.flatMap fun r => violationsOf d (rulesPerLevel * (document.depth + 2)) r document

end MetaSchema

end Schemata
