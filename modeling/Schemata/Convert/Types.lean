import Schemata.Convert.Shape
/-!
# Types of properties in the target notations

What the type of a property's schema is called in TypeScript, in a Mongoose schema and in SQL.
-/

namespace Schemata.Convert

/-! ## 1. TypeScript -/

/-- The type of anything. -/
def scriptAny : String := "any"

/-- The types of TypeScript. -/
def scriptTypes : List (String × String) :=
  [("string", "string"), ("number", "number"), ("integer", "number"), ("boolean", "boolean"),
   ("object", "object")]

mutual

/-- The TypeScript type of the schema with some entries; the type of a list is that of its items.
`loops` is how often the items may be a schema further out. -/
def scriptTypeOf (loops : Nat) (schema : List (Scalar × Value)) (around : List Value) :
    Except Fault String :=
  match typeOf schema with
  | some t =>
    if t = "array" then (itemType loops schema (.map schema :: around)).map (· ++ "[]")
    else .ok ((scriptTypes.lookup t).getD scriptAny)
  | none => .ok scriptAny
termination_by (loops, sizeOf schema, 1)

/-- The type of the items that a schema's entries give. -/
def itemType (loops : Nat) (entries : List (Scalar × Value)) (around : List Value) :
    Except Fault String :=
  match entries with
  | [] => .ok scriptAny
  | (k, v) :: rest =>
    if k = .str "items" then
      match v with
      | .map schema => scriptTypeOf loops schema around
      | .outer .. =>
        match loops, Placed.part around v with
        | n + 1, ⟨.map schema, further⟩ => scriptTypeOf n schema further
        | 0, ⟨.map _, _⟩ => .error .endless
        | _, _ => .ok scriptAny
      | _ => .ok scriptAny
    else itemType loops rest around
termination_by (loops, sizeOf entries, 0)

end

/-- The TypeScript type of a schema.  Items that are a schema further out than all before them can
be so only as often as there are collections around the schema; once more, and they never end. -/
def scriptType (schema : Placed) : Except Fault String := do
  let ms ← members schema
  scriptTypeOf schema.around.length ms.entries schema.around

/-! ## 2. Mongoose -/

/-- The types of a Mongoose schema. -/
def storeTypes : List (String × String) :=
  [("string", "String"), ("number", "Number"), ("integer", "Number"), ("boolean", "Boolean"),
   ("array", "[String]"), ("object", "mongoose.Schema.Types.Mixed")]

/-- The Mongoose type of a schema. -/
def storeType (schema : Placed) : Except Fault String := do
  let ms ← members schema
  return ((typeOf ms.entries).bind (storeTypes.lookup ·)).getD "String"

/-! ## 3. SQL -/

/-- The column types other than texts. -/
def columnTypes : List (String × String) :=
  [("integer", "INT"), ("number", "DECIMAL(10,2)"), ("boolean", "BOOLEAN")]

/-- The length of a text column that gives none. -/
def standardLength : Value := .int 255

/-- The length of a text column. -/
def columnLength (schema : Members) : Value :=
  (schema.given? "maxLength").elim standardLength Placed.value

/-- The column type of the schema with some entries. -/
def columnTypeOf (schema : Members) : Except Fault String := do
  match typeOf schema.entries with
  | some t =>
    if t = "string" then return "VARCHAR(" ++ (← shown (columnLength schema)) ++ ")"
    else return (columnTypes.lookup t).getD "TEXT"
  | none => return "TEXT"

/-- The column type of a schema. -/
def columnType (schema : Placed) : Except Fault String := do columnTypeOf (← members schema)

end Schemata.Convert
