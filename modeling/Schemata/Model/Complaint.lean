import Schemata.Value.Display
/-!
# Complaints about loosely typed data

Reading a structure out of a `Value` reports every place that does not fit, in the order of the
structure's fields.  A `Complaint` is a place and a cause; `Checked` is a result or all complaints,
and `Checked.and` reads two parts so that the complaints of both are kept.
-/

namespace Schemata

/-! ## 1. Complaints -/

/-- One step to a place inside a value. -/
inductive Segment
  | key (name : String)
  | index (n : Int)
  deriving DecidableEq, Repr

/-- Why a value does not fit. -/
inductive Complaint.Cause
  | missing
  | notText
  | undecodableText
  | tooShort
  | notBool
  | unreadableBool
  | notInt
  | unreadableInt
  | tooLongInt
  | fractionalInt
  | endlessInt
  | atLeast (bound : Int)
  | atMost (bound : Int)
  | notNumber
  | unreadableNumber
  | notList
  | notMap
  | notRecord (name : String)
  | forbidden
  | keyNotText
  | noAttribute (name : String)
  deriving DecidableEq, Repr

namespace Complaint.Cause

/-- The name of a cause. -/
def code : Cause → String
  | missing => "missing"
  | notText => "string_type"
  | undecodableText => "string_unicode"
  | tooShort => "string_too_short"
  | notBool => "bool_type"
  | unreadableBool => "bool_parsing"
  | notInt => "int_type"
  | unreadableInt => "int_parsing"
  | tooLongInt => "int_parsing_size"
  | fractionalInt => "int_from_float"
  | endlessInt => "finite_number"
  | atLeast _ => "greater_than_equal"
  | atMost _ => "less_than_equal"
  | notNumber => "float_type"
  | unreadableNumber => "float_parsing"
  | notList => "list_type"
  | notMap => "dict_type"
  | notRecord _ => "model_type"
  | forbidden => "extra_forbidden"
  | keyNotText => "invalid_key"
  | noAttribute _ => "no_such_attribute"

/-- The text of a cause. -/
def message : Cause → String
  | missing => "Field required"
  | notText => "Input should be a valid string"
  | undecodableText =>
    "Input should be a valid string, unable to parse raw data as a unicode string"
  | tooShort => "String should have at least 1 character"
  | notBool => "Input should be a valid boolean"
  | unreadableBool => "Input should be a valid boolean, unable to interpret input"
  | notInt => "Input should be a valid integer"
  | unreadableInt => "Input should be a valid integer, unable to parse string as an integer"
  | tooLongInt => "Unable to parse input string as an integer, exceeded maximum size"
  | fractionalInt => "Input should be a valid integer, got a number with a fractional part"
  | endlessInt => "Input should be a finite number"
  | atLeast bound => "Input should be greater than or equal to " ++ toString bound
  | atMost bound => "Input should be less than or equal to " ++ toString bound
  | notNumber => "Input should be a valid number"
  | unreadableNumber => "Input should be a valid number, unable to parse string as a number"
  | notList => "Input should be a valid list"
  | notMap => "Input should be a valid dictionary"
  | notRecord name => "Input should be a valid dictionary or instance of " ++ name
  | forbidden => "Extra inputs are not permitted"
  | keyNotText => "Keys should be strings"
  | noAttribute name => "Object has no attribute '" ++ name ++ "'"

end Complaint.Cause

/-- A place that does not fit, and why. -/
structure Complaint where
  path : List Segment
  cause : Complaint.Cause
  deriving DecidableEq, Repr

/-- The same complaint seen from one step further out. -/
def Complaint.under (s : Segment) (c : Complaint) : Complaint := { c with path := s :: c.path }

/-! ## 2. Results with complaints -/

/-- A result, or all complaints. -/
inductive Checked (α : Type)
  | ok (a : α)
  | bad (complaints : List Complaint)

namespace Checked

variable {α β : Type}

/-- A single complaint about the value itself. -/
def fail (cause : Complaint.Cause) : Checked α := bad [⟨[], cause⟩]

/-- Applies a function to a result. -/
def map (f : α → β) : Checked α → Checked β
  | ok a => ok (f a)
  | bad cs => bad cs

/-- Goes on with a result. -/
def bind (x : Checked α) (f : α → Checked β) : Checked β :=
  match x with
  | ok a => f a
  | bad cs => bad cs

/-- Applies a read function to a read argument and keeps the complaints of both. -/
def and (f : Checked (α → β)) (x : Checked α) : Checked β :=
  match f, x with
  | ok g, ok a => ok (g a)
  | ok _, bad cs => bad cs
  | bad cs, ok _ => bad cs
  | bad cs, bad ds => bad (cs ++ ds)

/-- The same result seen from one step further out. -/
def under (s : Segment) : Checked α → Checked α
  | ok a => ok a
  | bad cs => bad (cs.map (Complaint.under s))

/-- The result, if there is no complaint. -/
def toOption : Checked α → Option α
  | ok a => some a
  | bad _ => none

/-- The complaints. -/
def complaints : Checked α → List Complaint
  | ok _ => []
  | bad cs => cs

/-- Adds complaints about something else. -/
def withMore (x : Checked α) (more : List Complaint) : Checked α :=
  match x, more with
  | ok a, [] => ok a
  | ok _, cs => bad cs
  | bad cs, ds => bad (cs ++ ds)

/-- Reads the items of a list, each from its own place. -/
def each {ι : Type} (read : ι → Checked α) (start : Nat) : List ι → Checked (List α)
  | [] => ok []
  | v :: rest =>
    ((read v).under (.index start)).map List.cons |>.and (each read (start + 1) rest)

end Checked

end Schemata
