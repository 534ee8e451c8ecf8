import Schemata.Convert.Render
import Schemata.JsonSchema
import Schemata.Proofs.Document
import Schemata.Proofs.KeyFlags
import Schemata.Proofs.Merging
import Schemata.Proofs.Writing
/-!
# The tables of a model

The conversion to tables knows the schema document alone.  It gives a table for every entity that is
left of the model, with a column for every field that is left of the entity, as if they were written
from the model.

* `Field.column`, `Entity.table`, `Model.tables`: tables written from the model.
* `Convert.sql_documentAt_merged`: the conversion gives the tables of what is left of the model,
  unless the length of a text has too many digits; `Convert.sql_documentAt` is the case of a model
  without repeated names.
* `flags_of_tables`: which flags of keys the tables show and which the diagrams do, and when the two
  are the same.
-/

namespace Schemata

/-! ## 1. Tables from the model -/

namespace Field

/-- The length of the column of a text: the greatest that the constraints allow, unless it is
zero. -/
def columnLength (f : Field) : Int :=
  match f.kind with
  | .string | .text => (f.rules.maxLength.filter (· ≠ 0)).getD 255
  | .email | .url | .number | .integer | .int | .float | .decimal | .double | .boolean | .bool
  | .date | .datetime | .timestamp | .array | .json | .object | .unknown => 255

/-- The type of the column of a field. -/
def columnType (f : Field) : String :=
  match f.kind with
  | .string | .text | .email | .url | .date | .datetime | .timestamp | .unknown =>
    "VARCHAR(" ++ toString f.columnLength ++ ")"
  | .number | .integer | .int => "INT"
  | .float | .decimal | .double => "DECIMAL(10,2)"
  | .boolean | .bool => "BOOLEAN"
  | .array | .json | .object => "TEXT"

/-- The column of a field up to its flags. -/
def columnStem (f : Field) : String :=
  "  " ++ f.name ++ " " ++ f.columnType ++ (if f.required then " NOT NULL" else "")

/-- The column of a field: its flags are those that go on the wire. -/
def column (f : Field) : String :=
  f.columnStem ++ (if KeyFlag.primary.onWire f then KeyFlag.primary.suffix else "") ++
    (if KeyFlag.autoIncrement.onWire f then KeyFlag.autoIncrement.suffix else "")

end Field

/-- The table of an entity. -/
def Entity.table (e : Entity) : String :=
  "CREATE TABLE " ++ (if e.tableName = "" then e.name ++ "s" else e.tableName) ++ " (\n" ++
    ",\n".intercalate (e.fields.map Field.column) ++ "\n);\n\n"

/-- The tables of a model. -/
def Model.tables (m : Model) : String :=
  "-- Auto-generated SQL DDL\n\n" ++ String.join (m.entities.map Entity.table)

/-- Whether the columns of an entity have lengths that can be written. -/
def Entity.lengthsAreWritable (e : Entity) : Bool :=
  e.fields.all fun f => Written.isWritable f.columnLength

/-! ## 2. Parts of the document -/

namespace Convert

/-- The entries of a map with text keys, in some collections. -/
def Members.of (es : Entries String Value) (around : List Value) : Members :=
  ⟨es.map fun (k, v) => (.str k, v), around⟩

/-- Collections none of which is empty. -/
def Nonempty (around : List Value) : Prop := ∀ w ∈ around, w.isTruthy = true

theorem given?_of (es : Entries String Value) (around : List Value) (key : String) :
    (Members.of es around).given? key
      = ((es.lookup key).map (Placed.part around)).filter fun p => p.value.isTruthy := by
  rw [Members.given?, Members.member?, Members.of, Value.member?_obj]

/-- A part that means a collection further out counts as given, as that collection does. -/
theorem isTruthy_part {around : List Value} (h : Nonempty around) (v : Value) :
    (Placed.part around v).value.isTruthy = v.isTruthy := by
  cases v with
  | outer levels isMap =>
    cases hdrop : around.drop levels with
    | nil =>
      simp only [Placed.part, hdrop]
    | cons w further =>
      have hw : w ∈ around := List.mem_of_mem_drop (hdrop ▸ List.mem_cons_self)
      simp only [Placed.part, hdrop]
      exact h w hw
  | atom | list | map | set | pair => rfl

theorem isSome_given?_of {es : Entries String Value} {around : List Value} (h : Nonempty around)
    (key : String) :
    ((Members.of es around).given? key).isSome = (es.lookup key).any Value.isTruthy := by
  rw [given?_of]
  cases es.lookup key with
  | none => rfl
  | some v =>
    rw [Option.map_some, Option.any_some, ← isTruthy_part h v, Option.isSome_filter,
      Option.any_some]

/-- Going into a map that is not empty leaves no collection empty. -/
theorem nonempty_cons {around : List Value} (h : Nonempty around) {v : Value}
    (hv : v.isTruthy = true) : Nonempty (v :: around) := by
  rintro w (_ | ⟨_, hw⟩)
  · exact hv
  · exact h w hw

/-- A map in a document is gone into, or counts as empty if it is. -/
theorem elim_given? {fault : Value.Kind → Fault} {es sub : Entries String Value}
    {around : List Value} (h : Nonempty around) {key : String}
    (hsub : es.lookup key = some (.obj sub)) :
    ∃ around', Nonempty around' ∧
      ((Members.of es around).given? key).elim (.ok .empty) (membersOr fault)
        = .ok (Members.of sub around') := by
  rw [given?_of, hsub]
  cases sub with
  | nil => exact ⟨[], fun _ hw => absurd hw List.not_mem_nil, rfl⟩
  | cons p rest =>
    exact ⟨.obj (p :: rest) :: around, nonempty_cons h rfl, rfl⟩

theorem submembers_of {es sub : Entries String Value} {around : List Value} (h : Nonempty around)
    {key : String} (hsub : es.lookup key = some (.obj sub)) :
    ∃ around', Nonempty around' ∧
      submembers (Members.of es around) key = .ok (Members.of sub around') := by
  have hmembers : members = membersOr fun kind => .noOperation kind "get" := rfl
  unfold submembers
  rw [hmembers]
  exact elim_given? h hsub

theorem properties_of {es sub : Entries String Value} {around : List Value} (h : Nonempty around)
    (hsub : es.lookup "properties" = some (.obj sub)) :
    ∃ around', Nonempty around' ∧
      properties (Members.of es around) = .ok (Members.of sub around') := by
  unfold properties
  exact elim_given? h hsub

theorem members_obj (es : Entries String Value) (around : List Value) :
    members ⟨.obj es, around⟩ = .ok (Members.of es (.obj es :: around)) := rfl

/-- A list of texts in a document, which counts as empty if it is. -/
theorem requiredOf_of {es : Entries String Value} {around : List Value} {names : List String}
    (h : es.lookup "required" = some (.texts names)) :
    requiredOf (Members.of es around) = .ok (names.map Value.str) := by
  rw [requiredOf, given?_of, h]
  cases names <;> rfl

theorem isRequired_texts (names : List String) (name : String) :
    isRequired (names.map Value.str) (.str name) = names.contains name := by
  unfold isRequired
  rw [List.any_map, Bool.eq_iff_iff, List.any_eq_true, List.contains_iff_mem]
  constructor
  · rintro ⟨n, hn, hsame⟩
    have heq : n = name := by simpa [Scalar.sameKey, Scalar.ratio?] using hsame
    exact heq ▸ hn
  · exact fun hn => ⟨name, hn, by simp [Scalar.sameKey, Scalar.ratio?]⟩

/-! ## 3. Columns -/

theorem lookup_ofEntry (key k : String) (v : Option Value) :
    (JsonSchema.entry? key v).lookup k = if k == key then v else none := by
  unfold JsonSchema.entry?
  cases v with
  | none => simp
  | some v =>
    simp only [Option.map_some, Option.toList_some, List.lookup_cons, List.lookup_nil]
    cases k == key <;> rfl

/-- The entries of the schema of a field. -/
def propertyEntries (f : Field) : Entries String Value :=
  [("description", .str (f.description.getD "")), ("type", .str f.kind.jsonType.name)] ++
    JsonSchema.entry? "format" (f.kind.format.map .str) ++ JsonSchema.limits f ++
    JsonSchema.entry? "default" f.rules.default ++
    JsonSchema.entry? "enum" (f.rules.choices.map .list) ++
    [("metadata", JsonSchema.fieldMetadata f)]

theorem property_eq (f : Field) : JsonSchema.property f = .obj (propertyEntries f) := rfl

theorem lookup_limits (f : Field) :
    (JsonSchema.limits f).lookup "metadata" = none ∧
      (JsonSchema.limits f).lookup "maxLength"
        = if f.kind.isText then f.rules.maxLength.map Value.int else none := by
  unfold JsonSchema.limits
  constructor
  · split
    · simp [List.lookup_append, lookup_ofEntry]
    · split
      · simp [List.lookup_append, lookup_ofEntry]
      · split <;> simp [lookup_ofEntry]
  · split
    · simp [List.lookup_append, lookup_ofEntry]
    · split
      · simp [List.lookup_append, lookup_ofEntry]
      · split <;> simp [lookup_ofEntry]

theorem lookup_type (f : Field) :
    (propertyEntries f).lookup "type" = some (.str f.kind.jsonType.name) := by
  simp [propertyEntries, List.lookup_cons]

theorem lookup_metadata (f : Field) :
    (propertyEntries f).lookup "metadata" = some (JsonSchema.fieldMetadata f) := by
  simp [propertyEntries, List.lookup_cons, List.lookup_append, lookup_ofEntry, lookup_limits]

theorem lookup_maxLength (f : Field) :
    (propertyEntries f).lookup "maxLength"
      = if f.kind.isText then f.rules.maxLength.map Value.int else none := by
  simp [propertyEntries, List.lookup_cons, List.lookup_append, lookup_ofEntry, lookup_limits]

theorem wireConstraints_eq (f : Field) : f.wireConstraints = .obj f.rules.wire := by
  unfold Field.wireConstraints Field.rules
  cases f.constraints <;> rfl

theorem columnLength_eq (f : Field) : f.columnLength
    = if f.kind.isText then (f.rules.maxLength.filter (· ≠ 0)).getD 255 else 255 := by
  unfold Field.columnLength
  cases f.kind <;> rfl

/-- The type of a column in terms of the JSON type of its field. -/
theorem columnType_eq (f : Field) : f.columnType
    = match f.kind.jsonType with
      | .string => "VARCHAR(" ++ toString f.columnLength ++ ")"
      | .integer => "INT"
      | .number => "DECIMAL(10,2)"
      | .boolean => "BOOLEAN"
      | .array | .object => "TEXT" := by
  unfold Field.columnType
  cases f.kind <;> rfl

/-- The length of a column, as the conversion finds it. -/
theorem columnLength_of (f : Field) (around : List Value) :
    columnLength (Members.of (propertyEntries f) around) = .int f.columnLength := by
  unfold columnLength
  rw [columnLength_eq, given?_of, lookup_maxLength]
  split
  · cases f.rules.maxLength with
    | none => rfl
    | some n =>
      by_cases hn : n = 0
      · subst hn
        rfl
      · simp [Placed.part, Value.isTruthy, Option.filter, hn]
  · rfl

theorem typeOf_of (f : Field) (around : List Value) :
    typeOf (Members.of (propertyEntries f) around).entries = some f.kind.jsonType.name := by
  rw [typeOf, Members.of, Value.member?_obj, lookup_type]

/-- Only texts have a length of their own. -/
theorem columnLength_of_ne {f : Field} (h : f.kind.jsonType ≠ .string) : f.columnLength = 255 := by
  have htext : f.kind.isText = false := by
    cases hk : f.kind <;> first | rfl | (rw [hk] at h; exact absurd rfl h)
  rw [columnLength_eq, htext]
  rfl

theorem columnTypeOf_of (f : Field) (around : List Value) :
    columnTypeOf (Members.of (propertyEntries f) around)
      = if Written.isWritable f.columnLength then .ok f.columnType else .error .tooLong := by
  unfold columnTypeOf
  rw [typeOf_of]
  by_cases hstring : f.kind.jsonType = .string
  · have htype : f.columnType = "VARCHAR(" ++ toString f.columnLength ++ ")" := by
      rw [columnType_eq, hstring]
    have hname : f.kind.jsonType.name = "string" := by rw [hstring, JsonType.name]
    have hshown : shown (.int f.columnLength)
        = if Written.isWritable f.columnLength then .ok (toString f.columnLength)
          else .error .tooLong := rfl
    simp only [hname, if_true, columnLength_of, hshown, htype]
    split <;> rfl
  · have hwritable : Written.isWritable f.columnLength = true := by
      rw [columnLength_of_ne hstring]
      exact Written.isWritable_of_lt (k := 3) (by decide) (by decide)
    rw [if_pos hwritable, columnType_eq]
    cases hj : f.kind.jsonType with
    | string => exact absurd hj hstring
    | integer | number | boolean | array | object => rfl

/-- **The column of a field**, as the conversion writes it.  `required` are the names of the
required fields. -/
theorem column_property (f : Field) {around : List Value} (h : Nonempty around)
    {required : List Value} (hrequired : isRequired required (.str f.name) = f.required) :
    column required (.str f.name, ⟨JsonSchema.property f, around⟩)
      = if Written.isWritable f.columnLength then .ok f.column else .error .tooLong := by
  have hentries : Nonempty (Value.obj (propertyEntries f) :: around) := nonempty_cons h rfl
  obtain ⟨outer, houter, hmetadata⟩ := submembers_of hentries (lookup_metadata f)
  have hwire : ([("fieldName", Value.str f.name), ("originalType", .str f.type),
      ("constraints", f.wireConstraints)] : Entries String Value).lookup "constraints"
        = some (.obj f.rules.wire) := by
    rw [← wireConstraints_eq]
    rfl
  obtain ⟨inner, hinner, hconstraints⟩ := submembers_of houter hwire
  have hsuffix : ∀ k : KeyFlag, keySuffix (Members.of f.rules.wire inner) k.key.wireName k.suffix
      = if k.onWire f then k.suffix else "" := fun k => by
    rw [keySuffix, isSome_given?_of hinner]
    rfl
  have hkey : shownKey (.str f.name) = .ok f.name := rfl
  have hprimary := hsuffix .primary
  have hauto := hsuffix .autoIncrement
  simp only [KeyFlag.key, ConstraintKey.wireName, KeyFlag.suffix] at hprimary hauto
  unfold column
  simp only [property_eq, members_obj, hmetadata, hconstraints, hkey, columnTypeOf_of, hrequired,
    hprimary, hauto, bind, Except.bind]
  cases Written.isWritable f.columnLength <;> rfl

/-! ## 4. Tables -/

/-- The entries of the schema of an entity. -/
def definitionEntries (e : Entity) : Entries String Value :=
  [("type", .str "object"), ("title", .str e.title),
    ("description", .str ("Schema for " ++ e.name ++ " entity")),
    ("properties", .obj (Entries.ofList (e.fields.map fun f => (f.name, JsonSchema.property f)))),
    ("required", .texts ((e.fields.filter Field.required).map Field.name)),
    ("additionalProperties", .bool false),
    ("metadata", .obj [("tableName", .str e.tableName), ("entity", .str e.name)])]

theorem definition_eq (e : Entity) : JsonSchema.definition e = .obj (definitionEntries e) := rfl

/-- The properties of the schema of an entity: those of the fields that are left of it. -/
theorem lookup_properties_merged (e : Entity) :
    (definitionEntries e).lookup "properties"
      = some (.obj (e.merged.fields.map fun f => (f.name, JsonSchema.property f))) := by
  have hfields : e.merged.fields.map (fun f => (f.name, JsonSchema.property f))
      = (Entries.lastOfEach Field.name e.fields).map fun f => (f.name, JsonSchema.property f) := by
    rw [Entity.merged, List.map_map]
    rfl
  rw [hfields, ← Entries.ofList_map]
  rfl

/-- The properties of the schema of an entity without repeated fields. -/
theorem lookup_properties {e : Entity} (hfields : e.fieldNames.Nodup) :
    (definitionEntries e).lookup "properties"
      = some (.obj (e.fields.map fun f => (f.name, JsonSchema.property f))) := by
  rw [lookup_properties_merged, Entity.merged_of_nodup hfields]

/-- The properties of a schema, in their places. -/
theorem placed_of {α : Type} (items : List α) (name : α → String)
    (schema : α → Entries String Value)
    (around : List Value) :
    (Members.of (items.map fun x => (name x, Value.obj (schema x))) around).placed
      = items.map fun x => (.str (name x), ⟨.obj (schema x), around⟩) := by
  rw [Members.placed, Members.of, List.map_map, List.map_map]
  rfl

/-- A field is among the required ones if it is required and has a name of its own. -/
theorem contains_required {e : Entity} (h : e.fieldNames.Nodup) {f : Field} (hf : f ∈ e.fields) :
    ((e.fields.filter Field.required).map Field.name).contains f.name = f.required :=
  (e.contains_required f.name).trans (Entity.requires_of_nodup h hf)

/-- What the conversions find in the schema of an entity: what is left of it. -/
theorem parts_of_definition_merged (e : Entity) {around : List Value} (h : Nonempty around) :
    ∃ required ps inner, requiredOf (Members.of (definitionEntries e) around) = .ok required ∧
      properties (Members.of (definitionEntries e) around) = .ok ps ∧ Nonempty inner ∧
      ps.placed = e.merged.fields.map (fun f => (.str f.name, ⟨JsonSchema.property f, inner⟩)) ∧
      ∀ f ∈ e.merged.fields, isRequired required (.str f.name) = f.required := by
  obtain ⟨inner, hinner, hproperties⟩ := properties_of h (lookup_properties_merged e)
  refine ⟨_, _, inner, requiredOf_of rfl, hproperties, hinner,
    placed_of e.merged.fields Field.name propertyEntries inner, ?_⟩
  rw [Entity.merged, List.forall_mem_map]
  exact fun f _ => (isRequired_texts _ _).trans (e.contains_required f.name)

/-- What the conversions find in the schema of an entity without repeated fields. -/
theorem parts_of_definition {e : Entity} (hfields : e.fieldNames.Nodup) {around : List Value}
    (h : Nonempty around) :
    ∃ required ps inner, requiredOf (Members.of (definitionEntries e) around) = .ok required ∧
      properties (Members.of (definitionEntries e) around) = .ok ps ∧ Nonempty inner ∧
      ps.placed = e.fields.map (fun f => (.str f.name, ⟨JsonSchema.property f, inner⟩)) ∧
      ∀ f ∈ e.fields, isRequired required (.str f.name) = f.required := by
  have hparts := parts_of_definition_merged e h
  rwa [Entity.merged_of_nodup hfields] at hparts

/-- **The table of an entity**, as the conversion writes it: that of what is left of the entity. -/
theorem table_definition (e : Entity) {around : List Value} (h : Nonempty around) :
    table (.str e.name, ⟨JsonSchema.definition e, around⟩)
      = if e.merged.lengthsAreWritable then .ok e.merged.table else .error .tooLong := by
  have hentries : Nonempty (Value.obj (definitionEntries e) :: around) := nonempty_cons h rfl
  obtain ⟨outer, houter, hmetadata⟩ := submembers_of hentries
    (show (definitionEntries e).lookup "metadata" = _ from rfl)
  obtain ⟨required, ps, inner, hrequired, hproperties, hinner, hplaced, hall⟩ :=
    parts_of_definition_merged e hentries
  have hcolumns : ps.placed.mapM (column required)
      = if e.merged.lengthsAreWritable then .ok (e.merged.fields.map Field.column)
        else .error .tooLong := by
    rw [hplaced, List.mapM_map]
    exact mapM_eq_ite fun f hf => column_property f hinner (hall f hf)
  have hname : (Members.of [("tableName", Value.str e.tableName), ("entity", .str e.name)]
      outer).given? "tableName"
        = if e.tableName = "" then none else some ⟨.str e.tableName, outer⟩ := by
    rw [given?_of]
    by_cases hempty : e.tableName = ""
    · rw [hempty]
      rfl
    · simp [Placed.part, Value.isTruthy, Option.filter, hempty]
  have htable : e.merged.table
      = "CREATE TABLE " ++ (if e.tableName = "" then e.name ++ "s" else e.tableName) ++ " (\n" ++
        ",\n".intercalate (e.merged.fields.map Field.column) ++ "\n);\n\n" := rfl
  rw [htable]
  -- What is left of the entity is not to be unfolded while the steps are put together.
  generalize e.merged.fields.map Field.column = columns at hcolumns ⊢
  generalize e.merged.lengthsAreWritable = b at hcolumns ⊢
  unfold table
  simp only [definition_eq, members_obj, hmetadata, hproperties, hrequired, hname, hcolumns,
    bind, Except.bind]
  by_cases hempty : e.tableName = ""
  · simp only [hempty, if_true]
    cases b <;> rfl
  · simp only [hempty, if_false]
    cases b <;> rfl

/-! ## 5. Documents -/

/-- The definitions of a document: the last entity of each name. -/
theorem lookup_definitions_last (m : Model) (config : Config) (stamp : String) :
    ∃ es : Entries String Value, JsonSchema.documentAt config m stamp = .obj es ∧
      es.lookup "definitions"
        = some (.obj ((Entries.lastOfEach Entity.name m.entities).map fun e =>
          (e.name, JsonSchema.definition e))) := by
  obtain ⟨es, hes, hlookup⟩ : ∃ es : Entries String Value,
      JsonSchema.documentAt config m stamp = .obj es ∧
        es.lookup "definitions" = some (.obj (JsonSchema.definitions m)) := ⟨_, rfl, rfl⟩
  rw [JsonSchema.definitions, Entries.ofList_map] at hlookup
  exact ⟨es, hes, hlookup⟩

/-- The definitions of a document without repeated entities. -/
theorem lookup_definitions {m : Model} (hentities : m.entityNames.Nodup) (config : Config)
    (stamp : String) :
    ∃ es : Entries String Value, JsonSchema.documentAt config m stamp = .obj es ∧
      es.lookup "definitions"
        = some (.obj (m.entities.map fun e => (e.name, JsonSchema.definition e))) := by
  have hlast := lookup_definitions_last m config stamp
  rwa [Entries.lastOfEach_of_nodup hentities] at hlast

/-- The conversion finds the definitions of a document. -/
theorem definitions_documentAt_last (m : Model) (config : Config) (stamp : String) :
    ∃ ms around, definitions (JsonSchema.documentAt config m stamp) = .ok ms ∧ Nonempty around ∧
      ms.placed = (Entries.lastOfEach Entity.name m.entities).map fun e =>
        (.str e.name, ⟨JsonSchema.definition e, around⟩) := by
  obtain ⟨es, hes, hlookup⟩ := lookup_definitions_last m config stamp
  have houter : Nonempty [Value.obj es] := by
    refine nonempty_cons (fun _ hw => absurd hw List.not_mem_nil) ?_
    cases es with
    | nil => cases hlookup
    | cons => rfl
  obtain ⟨around, haround, hdefinitions⟩ := elim_given? houter hlookup
  rw [hes]
  exact ⟨_, around, hdefinitions, haround, placed_of _ Entity.name definitionEntries around⟩

/-- The conversion finds the definitions of a document without repeated entities. -/
theorem definitions_documentAt {m : Model} (hentities : m.entityNames.Nodup) (config : Config)
    (stamp : String) :
    ∃ ms around, definitions (JsonSchema.documentAt config m stamp) = .ok ms ∧ Nonempty around ∧
      ms.placed = m.entities.map fun e => (.str e.name, ⟨JsonSchema.definition e, around⟩) := by
  have hlast := definitions_documentAt_last m config stamp
  rwa [Entries.lastOfEach_of_nodup hentities] at hlast

/-- **The tables of a document.**  The conversion gives the tables of what is left of the model; it
fails exactly if the length of a text there has too many digits. -/
theorem sql_documentAt_merged (m : Model) (config : Config) (stamp : String) :
    sql (JsonSchema.documentAt config m stamp)
      = if m.merged.entities.all Entity.lengthsAreWritable then .ok m.merged.tables
        else .error .tooLong := by
  obtain ⟨ms, around, hdefinitions, haround, hplaced⟩ := definitions_documentAt_last m config stamp
  have htables : ms.placed.mapM table
      = if m.merged.entities.all Entity.lengthsAreWritable
        then .ok (m.merged.entities.map Entity.table) else .error .tooLong := by
    rw [hplaced, List.mapM_map, Model.merged, List.all_map, List.map_map]
    exact mapM_eq_ite fun e _ => table_definition e haround
  unfold sql Model.tables
  simp only [hdefinitions, htables, bind, Except.bind]
  cases m.merged.entities.all Entity.lengthsAreWritable <;> rfl

/-- Of a model without repeated names the conversion gives the tables that are written from the
model. -/
theorem sql_documentAt {m : Model} (hentities : m.entityNames.Nodup)
    (hfields : ∀ e ∈ m.entities, e.fieldNames.Nodup) (config : Config) (stamp : String) :
    sql (JsonSchema.documentAt config m stamp)
      = if m.entities.all Entity.lengthsAreWritable then .ok m.tables else .error .tooLong := by
  rw [sql_documentAt_merged, Model.merged_of_nodup hentities hfields]

end Convert

/-! ## 6. The flags of keys in all targets -/

open Constraints (GivenOnce ofEntries)

/-- **What the targets show of the flags of keys.**  For a model without repeated names whose input
has no key twice in a map: the tables of its document are those written from the model, whose
columns show the flags that go on the wire.  The tags, the mark of a primary key and the constraints
for a reader show the flags that are set.  A flag is set if its value reads as true, and goes on the
wire if the last value given for it is truthy.  So for a flag that is not given under two names,
whatever the diagrams show the tables show as well, and they agree exactly where no truthy value is
given that does not read as true. -/
theorem flags_of_tables {raw : Value} {m : Model} (hraw : raw.hasDistinctKeys = true)
    (hm : Model.normalize raw = .ok m) (hentities : m.entityNames.Nodup)
    (hfields : ∀ e ∈ m.entities, e.fieldNames.Nodup) {config : Config} {clock : Clock}
    {schema : Value} (hs : JsonSchema.document config clock m = .ok schema) :
    (Convert.sql schema
      = if m.entities.all Entity.lengthsAreWritable then .ok m.tables else .error .tooLong) ∧
    ∀ e ∈ m.entities, ∀ f ∈ e.fields,
      (Diagram.keyMark f = "* " ↔ KeyFlag.primary.isSet f = true) ∧
      ∃ given, f.rules = ofEntries given ∧ GivenOnce given .primary ∧
        ∀ k : KeyFlag, k.Settled f given := by
  obtain ⟨stamp, -, rfl⟩ := JsonSchema.document_eq_ok hs
  refine ⟨Convert.sql_documentAt hentities hfields config stamp, fun e he f hf =>
    ⟨KeyFlag.keyMark_eq, ?_⟩⟩
  obtain ⟨given, hrules, hgiven⟩ := Model.exists_given Value.hereditary_hasDistinctKeys (by decide)
    hraw hm he hf
  exact ⟨given, hrules, KeyFlag.givenOnce_primary given, fun k =>
    KeyFlag.settled k hrules (Value.hasDistinctKeys_map.mp hgiven).1⟩

/-- An entity of one field, which may be the primary key. -/
def keyedBy (primary : Value) : Value :=
  .obj [("entities", .list [.obj [("name", .str "user"), ("fields", .list [.obj
    [("name", .str "id"), ("type", .str "number"),
      ("constraints", .obj [("primary", primary)])]])]])]

/-- The field of `keyedBy`. -/
def keyField (primary : Value) : Field :=
  ⟨"id", "number", false, none, some (ofEntries [(.str "primary", primary)])⟩

/-- The normal form of `keyedBy`. -/
def keyedModel (primary : Value) : Model := .of [⟨"user", "users", some "", [keyField primary]⟩] []

theorem normalize_keyedBy (primary : Value) :
    Model.normalize (keyedBy primary) = .ok (keyedModel primary) := rfl

/-- The table of a user with a primary key. -/
def keyTable : String :=
  "-- Auto-generated SQL DDL\n\nCREATE TABLE users (\n  id INT PRIMARY KEY\n);\n\n"

/-- A word that reads as true is shown everywhere. -/
theorem flags_of_tables_yes :
    ∃ schema, JsonSchema.document {} .standard (keyedModel (.str "yes")) = .ok schema ∧
      Model.normalize (keyedBy (.str "yes")) = .ok (keyedModel (.str "yes")) ∧
      Convert.sql schema = .ok keyTable ∧ KeyFlag.primary.onWire (keyField (.str "yes")) = true ∧
      Diagram.keyMark (keyField (.str "yes")) = "* " ∧
      KeyFlag.primary.tag ∈ Diagram.tags (keyField (.str "yes")) ∧
      KeyFlag.primary.remark ∈ (keyField (.str "yes")).rules.annotationsOf := by
  obtain ⟨schema, hs⟩ : ∃ schema,
      JsonSchema.document {} .standard (keyedModel (.str "yes")) = .ok schema := ⟨_, rfl⟩
  obtain ⟨hsql, hflags⟩ := flags_of_tables (by decide) (normalize_keyedBy (.str "yes")) (by decide)
    (by decide) hs
  obtain ⟨hmark, given, -, honce, hsettled⟩ := hflags _ List.mem_cons_self _ List.mem_cons_self
  have hset : KeyFlag.primary.isSet (keyField (.str "yes")) = true := by decide
  refine ⟨schema, hs, normalize_keyedBy _, ?_, (hsettled .primary).shown honce hset,
    hmark.mpr hset, (hsettled .primary).tag.mpr hset, (hsettled .primary).remark.mpr hset⟩
  have hlengths : (keyedModel (.str "yes")).entities.all Entity.lengthsAreWritable = true := by
    decide +kernel
  have htables : (keyedModel (.str "yes")).tables = keyTable := by decide +kernel
  rw [hsql, if_pos hlengths, htables]

/-- A word that reads as false is truthy: the table has a primary key, and the diagrams have
none. -/
theorem flags_of_tables_no :
    ∃ schema, JsonSchema.document {} .standard (keyedModel (.str "no")) = .ok schema ∧
      Model.normalize (keyedBy (.str "no")) = .ok (keyedModel (.str "no")) ∧
      Convert.sql schema = .ok keyTable ∧ Diagram.keyMark (keyField (.str "no")) ≠ "* " ∧
      Diagram.tags (keyField (.str "no")) = [] ∧
      (keyField (.str "no")).rules.annotationsOf = [] :=
  ⟨_, rfl, rfl, rfl, by decide, by decide, by decide⟩

end Schemata
