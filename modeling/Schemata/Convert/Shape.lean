import Schemata.Text.Casing
import Schemata.Value.Display
import Schemata.Value.Placed
/-!
# The shape of a schema document

The parts of a JSON Schema document that the conversions read, taken out of a loosely typed value.
A part that is missing, null or otherwise empty counts as empty; one of a wrong shape is a fault.
-/

namespace Schemata.Convert

/-! ## 1. Faults -/

/-- Why a document cannot be converted. -/
inductive Fault
  | notMap (kind : Value.Kind)
  | definitionsNotMap
  | noOperation (kind : Value.Kind) (operation : String)
  | notIterable (kind : Value.Kind)
  | notIndexed (kind : Value.Kind)
  /-- An integer with too many digits to be written. -/
  | tooLong
  /-- A list whose items are lists of such lists, without end. -/
  | endless
  deriving DecidableEq, Repr

/-- The text of a fault. -/
def Fault.message : Fault → String
  | notMap kind => "expected a mapping, got " ++ kind.name
  | definitionsNotMap => "'definitions' must be a mapping"
  | noOperation kind operation =>
    "'" ++ kind.fullName ++ "' object has no attribute '" ++ operation ++ "'"
  | notIterable kind => "'" ++ kind.fullName ++ "' object is not iterable"
  | notIndexed kind => "'" ++ kind.fullName ++ "' object is not subscriptable"
  | tooLong => Written.limitMessage ""
  | endless => "maximum recursion depth exceeded"

/-! ## 2. Parts -/

/-- The entries of a map and the collections that their values stand in, the map first. -/
structure Members where
  entries : List (Scalar × Value)
  around : List Value
  deriving Repr, Inhabited

namespace Members

/-- The entries of nothing. -/
def empty : Members := ⟨[], []⟩

/-- The entries with their values in their places. -/
def placed (ms : Members) : List (Scalar × Placed) :=
  ms.entries.map fun e => (e.1, .part ms.around e.2)

/-- The member under a text key. -/
def member? (ms : Members) (key : String) : Option Placed :=
  (Value.member? key ms.entries).map (.part ms.around)

/-- A member that counts as given. -/
def given? (ms : Members) (key : String) : Option Placed :=
  (ms.member? key).filter fun p => p.value.isTruthy

end Members

/-- The entries of a value that has to be a map, or a fault made from the kind of the value. -/
def membersOr (fault : Value.Kind → Fault) (p : Placed) : Except Fault Members :=
  match p.value with
  | .map es => .ok ⟨es, .map es :: p.around⟩
  | v => .error (fault v.kind)

/-- The entries of a value in which members are looked up. -/
def members (p : Placed) : Except Fault Members := membersOr (.noOperation · "get") p

/-- The entries of an optional member, in which members are looked up. -/
def submembers (ms : Members) (key : String) : Except Fault Members :=
  (ms.given? key).elim (.ok .empty) members

/-- The definitions of a document. -/
def definitions (document : Value) : Except Fault Members := do
  let ms ← membersOr .notMap (.whole document)
  (ms.given? "definitions").elim (.ok .empty) (membersOr fun _ => .definitionsNotMap)

/-- The properties of a definition, which are gone through in order. -/
def properties (definition : Members) : Except Fault Members :=
  (definition.given? "properties").elim (.ok .empty) (membersOr (.noOperation · "items"))

/-- The items that going through a value gives. -/
def itemsOf : Value → Except Fault (List Value)
  | .list items => .ok items
  | .map es => .ok (es.map fun e => .atom e.1)
  | .set ms => .ok (ms.map .atom)
  | .pair first second => .ok [first, second]
  | .str s => .ok (s.toList.map fun c => .str (String.singleton c))
  | .atom (.bytes bs) => .ok (bs.map fun b => .nat b.toNat)
  | v => .error (.notIterable v.kind)

/-- The names of the required properties. -/
def requiredOf (definition : Members) : Except Fault (List Value) :=
  match definition.given? "required" with
  | none => .ok []
  | some p => itemsOf p.value

/-- Whether a property is among the required ones. -/
def isRequired (required : List Value) (property : Scalar) : Bool :=
  required.any fun v =>
    match v with
    | .atom s => s.sameKey property
    | _ => false

/-- The name of a definition with its first letter in upper case. -/
def capitalized : Scalar → Except Fault String
  | .str s => .ok (Text.capitalizeFirst s)
  | .bytes bs => if bs.isEmpty then .ok "" else .error (.noOperation .int "upper")
  | s => if (Value.atom s).isTruthy then .error (.notIndexed s.kind) else .ok ""

/-- The text of a value, if it has one. -/
def shown (v : Value) : Except Fault String :=
  if v.isWritable then .ok v.display else .error .tooLong

/-- The text of a key, if it has one. -/
def shownKey (k : Scalar) : Except Fault String := shown (.atom k)

/-- The type that the entries of a property's schema name. -/
def typeOf (schema : List (Scalar × Value)) : Option String :=
  match Value.member? "type" schema with
  | some (.str s) => some s
  | _ => none

end Schemata.Convert
