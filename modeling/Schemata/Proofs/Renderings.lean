import Schemata.Proofs.NormalForm
import Schemata.Proofs.Tables
/-!
# Interfaces, collections and tables written from a model

The conversions know the schema document alone.  For a model without repeated names they give, of
every entity in order, what can be written from the model at once: an interface with the types of
its fields, a collection of a document store, a table.

* `Model.interfaces`, `Model.collections`, `Model.tablesWith`: what is written from the model.
* `Convert.scriptTypeOf_eq`: the type of the items of a list, nested however deep.
* `Convert.typescript_documentAt`, `Convert.mongoose_documentAt`: the conversions give this.
* `convert_document`: all three of them.
-/

namespace Schemata

/-! ## 1. Interfaces from the model -/

namespace Value

mutual

/-- The type that a schema given for items has: a list has the type of its own items. -/
def scriptType : Value → String
  | map es =>
    match es.lookup (.str "type") with
    | some (.str type) =>
      if type = "array" then scriptItemType es ++ "[]"
      else if type = "number" ∨ type = "integer" then "number"
      else if type = "string" ∨ type = "boolean" ∨ type = "object" then type
      else "any"
    | _ => "any"
  | atom _ | list _ | set _ | pair .. | outer .. => "any"

/-- The type of the items that a schema gives. -/
def scriptItemType : List (Scalar × Value) → String
  | [] => "any"
  | (k, v) :: rest => if k = .str "items" then v.scriptType else scriptItemType rest

end

mutual

/-- Whether the items of a list, and their own items, come to an end. -/
def itemsEnd : Value → Bool
  | map es => memberItemsEnd es
  | outer .. => false
  | atom _ | list _ | set _ | pair .. => true

/-- Whether the items that a schema gives come to an end. -/
def memberItemsEnd : List (Scalar × Value) → Bool
  | [] => true
  | (k, v) :: rest => if k = .str "items" then v.itemsEnd else memberItemsEnd rest

end

mutual

/-- The items of JSON come to an end. -/
theorem itemsEnd_of_isJson : ∀ {v : Value}, v.isJson = true → v.itemsEnd = true
  | map es, h => by
    rw [isJson] at h
    rw [itemsEnd]
    exact memberItemsEnd_of_areJson h
  | outer .., h => by
    rw [isJson] at h
    cases h
  | atom _, _ | list _, _ | set _, _ | pair .., _ => by rw [itemsEnd]

theorem memberItemsEnd_of_areJson : ∀ {es : List (Scalar × Value)},
    membersAreJson es = true → memberItemsEnd es = true
  | [], _ => by rw [memberItemsEnd]
  | (k, v) :: rest, h => by
    rw [membersAreJson, Bool.and_eq_true, Bool.and_eq_true] at h
    rw [memberItemsEnd]
    split
    · exact itemsEnd_of_isJson h.1.2
    · exact memberItemsEnd_of_areJson h.2

end

end Value

namespace Field

/-- The type of a field in an interface. -/
def scriptType (f : Field) : String :=
  match f.kind with
  | .string | .text | .email | .url | .date | .datetime | .timestamp | .unknown => "string"
  | .number | .integer | .int | .float | .decimal | .double => "number"
  | .boolean | .bool => "boolean"
  | .json | .object => "object"
  | .array => (f.rules.items.elim "any" fun items => (Value.obj items).scriptType) ++ "[]"

/-- The line of a field in an interface. -/
def scriptLine (f : Field) : String :=
  "  " ++ f.name ++ (if f.required then "" else "?") ++ ": " ++ f.scriptType ++ ";\n"

/-- Whether the items of a field come to an end. -/
def itemsEnd (f : Field) : Bool := f.rules.items.all fun items => (Value.obj items).itemsEnd

end Field

/-- The interface of an entity. -/
def Entity.interface (e : Entity) : String :=
  "export interface " ++ Text.capitalizeFirst e.name ++ " \x7b\n" ++
    String.join (e.fields.map Field.scriptLine) ++ "\x7d\n\n"

/-- The interfaces of a model. -/
def Model.interfaces (m : Model) : String :=
  "// Auto-generated TypeScript interfaces\n\n" ++ String.join (m.entities.map Entity.interface)

/-- Whether the items of all fields come to an end. -/
def Model.itemsEnd (m : Model) : Bool := m.entities.all fun e => e.fields.all Field.itemsEnd

/-! ## 2. Collections from the model -/

namespace Field

/-- The type of a field in a collection. -/
def storeType (f : Field) : String :=
  match f.kind with
  | .string | .text | .email | .url | .date | .datetime | .timestamp | .unknown => "String"
  | .number | .integer | .int | .float | .decimal | .double => "Number"
  | .boolean | .bool => "Boolean"
  | .array => "[String]"
  | .json | .object => "mongoose.Schema.Types.Mixed"

/-- The lines of a field in a collection. -/
def storeLines (f : Field) : String :=
  "  " ++ f.name ++ ": \x7b\n" ++ "    type: " ++ f.storeType ++ ",\n" ++
    (if f.required then "    required: true,\n" else "") ++ "  \x7d,\n"

end Field

/-- The collection of an entity; the store takes care of `id` itself. -/
def Entity.collection (e : Entity) : String :=
  "const " ++ e.name ++ "Schema = new mongoose.Schema(\x7b\n" ++
    String.join ((e.fields.filter fun f => f.name ≠ "id").map Field.storeLines) ++
    "\x7d, \x7b timestamps: true \x7d);\n\n" ++
    "module.exports." ++ Text.capitalizeFirst e.name ++ " = mongoose.model('" ++
    Text.capitalizeFirst e.name ++ "', " ++ e.name ++ "Schema);\n\n"

/-- The collections of a model. -/
def Model.collections (m : Model) : String :=
  "// Auto-generated Mongoose schemas\nconst mongoose = require('mongoose');\n\n" ++
    String.join (m.entities.map Entity.collection)

/-! ## 3. Tables from the model, with some suffixes -/

/-- What stands at the end of a column for the flags of a key. -/
def Field.keySuffixes (f : Field) : String :=
  (if KeyFlag.primary.onWire f then KeyFlag.primary.suffix else "") ++
    (if KeyFlag.autoIncrement.onWire f then KeyFlag.autoIncrement.suffix else "")

/-- The table of an entity, with something at the end of every column. -/
def Entity.tableWith (suffix : Field → String) (e : Entity) : String :=
  "CREATE TABLE " ++ (if e.tableName = "" then e.name ++ "s" else e.tableName) ++ " (\n" ++
    ",\n".intercalate (e.fields.map fun f => f.columnStem ++ suffix f) ++ "\n);\n\n"

/-- The tables of a model, with something at the end of every column. -/
def Model.tablesWith (suffix : Field → String) (m : Model) : String :=
  "-- Auto-generated SQL DDL\n\n" ++ String.join (m.entities.map (Entity.tableWith suffix))

theorem Field.column_eq (f : Field) : f.column = f.columnStem ++ f.keySuffixes := by
  rw [Field.column, Field.keySuffixes, String.append_assoc]

theorem Entity.table_eq (e : Entity) : e.table = e.tableWith Field.keySuffixes := by
  unfold table tableWith
  simp only [← Field.column_eq]

/-- The tables of a model are those with the suffixes of its keys. -/
theorem Model.tables_eq (m : Model) : m.tables = m.tablesWith Field.keySuffixes := by
  have htable : Entity.table = Entity.tableWith Field.keySuffixes := funext Entity.table_eq
  unfold Model.tables Model.tablesWith
  rw [htable]

/-! ## 4. The types of items -/

namespace Convert

/-- Only what stands under `items` matters for the type of items. -/
theorem itemType_of_ne {loops : Nat} {k : Scalar} {v : Value} {rest : List (Scalar × Value)}
    {around : List Value} (hk : k ≠ .str "items") :
    itemType loops ((k, v) :: rest) around = itemType loops rest around := by
  rw [itemType.eq_def]
  simp only [hk, if_false]

/-- What the table of the conversion gives for the type of items that are no list. -/
theorem lookup_scriptTypes (type : String) : (scriptTypes.lookup type).getD scriptAny
    = if type = "number" ∨ type = "integer" then "number"
      else if type = "string" ∨ type = "boolean" ∨ type = "object" then type
      else "any" := by
  simp only [scriptTypes, List.lookup_cons, List.lookup_nil, scriptAny]
  by_cases hstring : type = "string"
  · simp [hstring]
  by_cases hnumber : type = "number"
  · simp [hnumber]
  by_cases hinteger : type = "integer"
  · simp [hinteger]
  by_cases hboolean : type = "boolean"
  · simp [hboolean]
  by_cases hobject : type = "object"
  · simp [hobject]
  simp [hstring, hnumber, hinteger, hboolean, hobject, beq_eq_false_iff_ne.mpr]

/-- The type of items, in terms of the type that the conversion reads. -/
theorem scriptType_map (es : List (Scalar × Value)) : (Value.map es).scriptType
    = match typeOf es with
      | some t =>
        if t = "array" then Value.scriptItemType es ++ "[]"
        else (scriptTypes.lookup t).getD scriptAny
      | none => scriptAny := by
  rw [Value.scriptType, typeOf, Value.member?]
  cases es.lookup (.str "type") with
  | none => rfl
  | some type =>
    cases type with
    | atom s =>
      cases s with
      | str name => simp only [lookup_scriptTypes]
      | _ => rfl
    | _ => rfl

theorem itemType_map {loops : Nat} {schema rest : List (Scalar × Value)} {around : List Value} :
    itemType loops ((.str "items", .map schema) :: rest) around
      = scriptTypeOf loops schema around := by
  rw [itemType.eq_def]
  simp only [if_true]

-- The size of the entries carries the induction: a schema is smaller than the entry it stands in,
-- and the entries are gone through before any of them is gone into.
mutual

/-- **The type of the items of a list**, if they come to an end. -/
theorem scriptTypeOf_eq (loops : Nat) {es : List (Scalar × Value)} (around : List Value)
    (h : (Value.map es).itemsEnd = true) :
    scriptTypeOf loops es around = .ok (Value.map es).scriptType := by
  rw [Value.itemsEnd] at h
  rw [scriptTypeOf, scriptType_map]
  cases typeOf es with
  | none => rfl
  | some t =>
    by_cases ht : t = "array"
    · simp only [ht, if_true]
      rw [itemType_eq loops _ h]
      rfl
    · simp only [ht, if_false]
termination_by (sizeOf es, 1)

theorem itemType_eq (loops : Nat) {es : List (Scalar × Value)} (around : List Value)
    (h : Value.memberItemsEnd es = true) :
    itemType loops es around = .ok (Value.scriptItemType es) := by
  match es, h with
  | [], _ =>
    rw [itemType, Value.scriptItemType]
    rfl
  | (k, v) :: rest, h =>
    rw [Value.memberItemsEnd] at h
    by_cases hk : k = .str "items"
    · rw [if_pos hk] at h
      rw [Value.scriptItemType, if_pos hk, hk]
      cases v with
      | map es =>
        rw [itemType_map]
        exact scriptTypeOf_eq loops around h
      | outer levels isMap => cases h
      | atom _ | list _ | set _ | pair _ _ => simp [itemType, Value.scriptType, scriptAny]
    · rw [if_neg hk] at h
      rw [Value.scriptItemType, if_neg hk, itemType_of_ne hk]
      exact itemType_eq loops around h
termination_by (sizeOf es, 0)

end

/-- The first map under `items` gives the type of items. -/
theorem itemType_of_member? {loops : Nat} {schema : List (Scalar × Value)} {around : List Value} :
    ∀ {es : List (Scalar × Value)}, Value.member? "items" es = some (.map schema) →
      itemType loops es around = scriptTypeOf loops schema around
  | [], h => by cases h
  | (k, w) :: rest, h => by
    rw [Value.member?, List.lookup_cons] at h
    by_cases hk : k = .str "items"
    · rw [hk, BEq.rfl] at h
      cases h
      rw [hk, itemType_map]
    · rw [beq_eq_false_iff_ne.mpr (Ne.symm hk)] at h
      rw [itemType_of_ne hk, itemType_of_member? h]

theorem itemType_of_none {loops : Nat} {around : List Value} :
    ∀ {es : List (Scalar × Value)}, Value.member? "items" es = none →
      itemType loops es around = .ok scriptAny
  | [], _ => by rw [itemType]
  | (k, w) :: rest, h => by
    rw [Value.member?, List.lookup_cons] at h
    by_cases hk : k = .str "items"
    · rw [hk, BEq.rfl] at h
      cases h
    · rw [beq_eq_false_iff_ne.mpr (Ne.symm hk)] at h
      rw [itemType_of_ne hk, itemType_of_none h]

/-! ## 5. Fields -/

theorem lookup_items (f : Field) :
    (propertyEntries f).lookup "items"
      = if f.kind = .array then f.rules.items.map Value.obj else none := by
  have hlimits : (JsonSchema.limits f).lookup "items"
      = if f.kind = .array then f.rules.items.map Value.obj else none := by
    unfold JsonSchema.limits
    by_cases harray : f.kind = .array
    · simp [harray, FieldType.isText, FieldType.isNumeric, lookup_ofEntry]
    · simp only [harray, if_false]
      split
      · simp [List.lookup_append, lookup_ofEntry]
      · split
        · simp [List.lookup_append, lookup_ofEntry]
        · rfl
  simp [propertyEntries, List.lookup_cons, List.lookup_append, lookup_ofEntry, hlimits]

/-- The items of a field whose JSON type is that of lists. -/
theorem itemType_of (loops : Nat) {f : Field} (harray : f.kind = .array)
    (hend : f.itemsEnd = true) (outer around : List Value) :
    itemType loops (Members.of (propertyEntries f) outer).entries around
      = .ok (f.rules.items.elim scriptAny fun items => (Value.obj items).scriptType) := by
  have hmember : Value.member? "items" (Members.of (propertyEntries f) outer).entries
      = f.rules.items.map Value.obj := by
    rw [Members.of, Value.member?_obj, lookup_items, if_pos harray]
  cases hitems : f.rules.items with
  | none =>
    rw [hitems] at hmember
    rw [itemType_of_none hmember]
    rfl
  | some items =>
    rw [hitems] at hmember
    rw [Field.itemsEnd, hitems, Option.all_some] at hend
    rw [itemType_of_member? hmember, scriptTypeOf_eq _ _ hend]
    rfl

theorem scriptType_property (f : Field) (hend : f.itemsEnd = true) (around : List Value) :
    scriptType ⟨JsonSchema.property f, around⟩ = .ok f.scriptType := by
  have hoperations : scriptType ⟨JsonSchema.property f, around⟩
      = scriptTypeOf around.length (Members.of (propertyEntries f) around).entries around := rfl
  rw [hoperations, scriptTypeOf, typeOf_of, Field.scriptType]
  cases hk : f.kind with
  | array =>
    simp only [FieldType.jsonType, JsonType.name, if_true]
    rw [itemType_of _ hk hend]
    rfl
  | string | text | email | url | date | datetime | timestamp | unknown => rfl
  | number | integer | int | float | decimal | double => rfl
  | boolean | bool | json | object => rfl

theorem storeType_property (f : Field) (around : List Value) :
    storeType ⟨JsonSchema.property f, around⟩ = .ok f.storeType := by
  have hoperations : storeType ⟨JsonSchema.property f, around⟩
      = .ok (((typeOf (Members.of (propertyEntries f) around).entries).bind
        (storeTypes.lookup ·)).getD "String") := rfl
  rw [hoperations, typeOf_of, Field.storeType]
  cases f.kind <;> rfl

/-! ## 6. Definitions -/

/-- **The line of a field** in an interface, as the conversion writes it. -/
theorem scriptProperty_property {f : Field} (hend : f.itemsEnd = true) {required : List Value}
    (hrequired : isRequired required (.str f.name) = f.required) (around : List Value) :
    scriptProperty required (.str f.name, ⟨JsonSchema.property f, around⟩) = .ok f.scriptLine := by
  have hkey : shownKey (.str f.name) = .ok f.name := rfl
  simp only [scriptProperty, hkey, hrequired, scriptType_property f hend, bind, Except.bind]
  rfl

/-- **The lines of a field** in a collection, as the conversion writes them. -/
theorem storeProperty_property (f : Field) {required : List Value}
    (hrequired : isRequired required (.str f.name) = f.required) (around : List Value) :
    storeProperty required (.str f.name, ⟨JsonSchema.property f, around⟩) = .ok f.storeLines := by
  have hkey : shownKey (.str f.name) = .ok f.name := rfl
  simp only [storeProperty, hkey, hrequired, storeType_property, bind, Except.bind]
  rfl

/-- **The interface of an entity** without repeated fields, as the conversion writes it. -/
theorem scriptDefinition_definition {e : Entity} (hfields : e.fieldNames.Nodup)
    (hend : ∀ f ∈ e.fields, f.itemsEnd = true) {around : List Value} (h : Nonempty around) :
    scriptDefinition (.str e.name, ⟨JsonSchema.definition e, around⟩) = .ok e.interface := by
  obtain ⟨required, ps, inner, hrequired, hproperties, -, hplaced, hall⟩ :=
    parts_of_definition hfields (nonempty_cons h (v := .obj (definitionEntries e)) rfl)
  have hlines : ps.placed.mapM (scriptProperty required) = .ok (e.fields.map Field.scriptLine) := by
    rw [hplaced, List.mapM_map]
    exact mapM_eq_pure fun f hf => scriptProperty_property (hend f hf) (hall f hf) inner
  have hname : capitalized (.str e.name) = .ok (Text.capitalizeFirst e.name) := rfl
  simp only [scriptDefinition, definition_eq, members_obj, hrequired, hproperties, hname, hlines,
    bind, Except.bind]
  rfl

/-- **The collection of an entity** without repeated fields, as the conversion writes it. -/
theorem storeDefinition_definition {e : Entity} (hfields : e.fieldNames.Nodup)
    {around : List Value} (h : Nonempty around) :
    storeDefinition (.str e.name, ⟨JsonSchema.definition e, around⟩) = .ok e.collection := by
  obtain ⟨required, ps, inner, hrequired, hproperties, -, hplaced, hall⟩ :=
    parts_of_definition hfields (nonempty_cons h (v := .obj (definitionEntries e)) rfl)
  have hlines : (ps.placed.filter fun p => !isStoreKey p.1).mapM (storeProperty required)
      = .ok ((e.fields.filter fun f => f.name ≠ "id").map Field.storeLines) := by
    have hown : (ps.placed.filter fun p => !isStoreKey p.1)
        = (e.fields.filter fun f => f.name ≠ "id").map
          fun f => (.str f.name, ⟨JsonSchema.property f, inner⟩) := by
      rw [hplaced, List.filter_map]
      congr 1
      exact List.filter_congr fun f _ => by simp [isStoreKey]
    rw [hown, List.mapM_map]
    exact mapM_eq_pure fun f hf =>
      storeProperty_property f (hall f (List.mem_of_mem_filter hf)) inner
  have hname : capitalized (.str e.name) = .ok (Text.capitalizeFirst e.name) := rfl
  have hkey : shownKey (.str e.name) = .ok e.name := rfl
  simp only [storeDefinition, definition_eq, members_obj, hrequired, hproperties, hname, hkey,
    hlines, bind, Except.bind]
  rfl

/-! ## 7. Documents -/

/-- A conversion that writes every entity writes all of them. -/
theorem mapM_documentAt {m : Model} (hentities : m.entityNames.Nodup)
    {block : Scalar × Placed → Except Fault String} {written : Entity → String}
    (h : ∀ e ∈ m.entities, ∀ around, Nonempty around →
      block (.str e.name, ⟨JsonSchema.definition e, around⟩) = .ok (written e))
    (config : Config) (stamp : String) :
    ∃ ms, definitions (JsonSchema.documentAt config m stamp) = .ok ms ∧
      ms.placed.mapM block = .ok (m.entities.map written) := by
  obtain ⟨ms, around, hdefinitions, haround, hplaced⟩ :=
    definitions_documentAt hentities config stamp
  refine ⟨ms, hdefinitions, ?_⟩
  rw [hplaced, List.mapM_map]
  exact mapM_eq_pure fun e he => h e he around haround

/-- **The interfaces of a document** are those of its model, if items come to an end. -/
theorem typescript_documentAt {m : Model} (hentities : m.entityNames.Nodup)
    (hfields : ∀ e ∈ m.entities, e.fieldNames.Nodup) (hend : m.itemsEnd = true) (config : Config)
    (stamp : String) :
    typescript (JsonSchema.documentAt config m stamp) = .ok m.interfaces := by
  have hends : ∀ e ∈ m.entities, ∀ f ∈ e.fields, f.itemsEnd = true := fun e he =>
    List.all_eq_true.mp (List.all_eq_true.mp hend e he)
  obtain ⟨ms, hdefinitions, hblocks⟩ := mapM_documentAt hentities (fun e he _ haround =>
    scriptDefinition_definition (hfields e he) (hends e he) haround) config stamp
  simp only [typescript, hdefinitions, hblocks, bind, Except.bind]
  rfl

/-- **The collections of a document** are those of its model. -/
theorem mongoose_documentAt {m : Model} (hentities : m.entityNames.Nodup)
    (hfields : ∀ e ∈ m.entities, e.fieldNames.Nodup) (config : Config) (stamp : String) :
    mongoose (JsonSchema.documentAt config m stamp) = .ok m.collections := by
  obtain ⟨ms, hdefinitions, hblocks⟩ := mapM_documentAt hentities (fun e he _ haround =>
    storeDefinition_definition (hfields e he) haround) config stamp
  simp only [mongoose, hdefinitions, hblocks, bind, Except.bind]
  rfl

end Convert

/-! ## 8. What the input has to do with it -/

/-- A map of JSON is read as one. -/
theorem Coercion.isJson_of_dictionary {v : Value} {es : Entries String Value}
    (hjson : v.isJson = true) (h : dictionary v = .ok es) : (Value.obj es).isJson = true := by
  unfold dictionary at h
  split at h
  · rename_i entries
    obtain ⟨hes, -⟩ := Checked.withMore_eq_ok.mp h
    cases hes
    refine Value.isJson_obj.mpr fun p hp => ?_
    obtain ⟨q, hq, hspelled⟩ := List.mem_filterMap.mp (Entries.mem_ofList hp)
    obtain ⟨s, -, rfl⟩ := Option.map_eq_some_iff.mp hspelled
    exact Value.hereditary_isJson.entry hjson hq
  · cases h

theorem Field.itemsEnd_of_given {f : Field} {given : List (Scalar × Value)}
    (hrules : f.rules = Constraints.ofEntries given) (hjson : (Value.map given).isJson = true) :
    f.itemsEnd = true := by
  rw [itemsEnd, hrules, Option.all_eq_true]
  intro items hitems
  obtain ⟨v, hv, -, hread⟩ := Constraints.view?_eq_some.mp hitems
  exact Value.itemsEnd_of_isJson (Coercion.isJson_of_dictionary
    (Value.hereditary_isJson.field hjson hv) hread)

theorem Model.itemsEnd_of_isJson {raw : Value} {m : Model} (hjson : raw.isJson = true)
    (hm : Model.normalize raw = .ok m) : m.itemsEnd = true := by
  refine List.all_eq_true.mpr fun e he => List.all_eq_true.mpr fun f hf => ?_
  obtain ⟨given, hrules, hgiven⟩ := Model.exists_given Value.hereditary_isJson rfl hjson hm he hf
  exact Field.itemsEnd_of_given hrules hgiven

theorem Field.isWritable_columnLength {f : Field} {given : List (Scalar × Value)}
    (hrules : f.rules = Constraints.ofEntries given)
    (hwritable : (Value.map given).isWritable = true) :
    Written.isWritable f.columnLength = true := by
  have hstandard : Written.isWritable 255 = true :=
    Written.isWritable_of_lt (k := 3) (by decide) (by decide)
  have hmax : f.rules.maxLength.all Written.isWritable = true := by
    rw [hrules]
    exact Constraints.all_view? hwritable Coercion.isWritable_of_integer
  rw [Convert.columnLength_eq]
  split
  · cases hlength : f.rules.maxLength with
    | none => exact hstandard
    | some n =>
      rw [hlength, Option.all_some] at hmax
      by_cases hn : n = 0
      · subst hn
        exact hstandard
      · simpa [Option.filter, hn] using hmax
  · exact hstandard

theorem Model.lengthsAreWritable_of_isWritable {raw : Value} {m : Model}
    (hwritable : raw.isWritable = true) (hm : Model.normalize raw = .ok m) :
    m.entities.all Entity.lengthsAreWritable = true := by
  refine List.all_eq_true.mpr fun e he => List.all_eq_true.mpr fun f hf => ?_
  obtain ⟨given, hrules, hgiven⟩ :=
    Model.exists_given Value.hereditary_isWritable (by decide) hwritable hm he hf
  exact Field.isWritable_columnLength hrules hgiven

/-- **Conversions through the document lose nothing.**  For a model without repeated names, what is
converted from its schema document is what is written from the model at once: its collections; its
interfaces, if the items of lists come to an end; its tables, unless the length of a text has too
many digits to be written.  The tables have suffixes for keys, and are else written alike.  The
items of JSON come to an end, and an entity of JSON has a table name; an input that can be written
has no length with too many digits. -/
theorem convert_document {raw : Value} {m : Model} (hm : Model.normalize raw = .ok m)
    (hentities : m.entityNames.Nodup) (hfields : ∀ e ∈ m.entities, e.fieldNames.Nodup)
    {config : Config} {clock : Clock} {schema : Value}
    (hs : JsonSchema.document config clock m = .ok schema) :
    Convert.convert schema (.str "mongoose") = .ok m.collections ∧
    (m.itemsEnd = true → Convert.convert schema (.str "typescript") = .ok m.interfaces) ∧
    Convert.convert schema (.str "sql")
      = (if m.entities.all Entity.lengthsAreWritable then .ok (m.tablesWith Field.keySuffixes)
        else .error ⟨.conversion, Written.limitMessage ""⟩) ∧
    (raw.isJson = true → m.itemsEnd = true ∧ ∀ e ∈ m.entities, e.tableName ≠ "") ∧
    (raw.isWritable = true → m.entities.all Entity.lengthsAreWritable = true) := by
  obtain ⟨stamp, -, rfl⟩ := JsonSchema.document_eq_ok hs
  have hformat : ∀ {document : Value} (format : Convert.Format),
      Convert.convert document (.str format.name)
        = (Convert.render format document).mapError fun fault =>
          ⟨.conversion, fault.message⟩ := fun format => by
    cases format <;> rfl
  refine ⟨?_, fun hend => ?_, ?_, fun hjson => ⟨Model.itemsEnd_of_isJson hjson hm, ?_⟩,
    fun hwritable => Model.lengthsAreWritable_of_isWritable hwritable hm⟩
  · refine (hformat .mongoose).trans ?_
    rw [Convert.render, Convert.mongoose_documentAt hentities hfields]
    rfl
  · refine (hformat .typescript).trans ?_
    rw [Convert.render, Convert.typescript_documentAt hentities hfields hend]
    rfl
  · refine (hformat .sql).trans ?_
    rw [Convert.render, Convert.sql_documentAt hentities hfields, Model.tables_eq]
    split <;> rfl
  · exact fun e he => (Model.isNormal_of_normalize hjson hm he).tableName

/-- A chart whose cells are lists of numbers. -/
def chart : Value :=
  .obj [("entities", .list [.obj [("name", .str "chart"), ("fields", .list [
    .obj [("name", .str "cells"), ("type", .str "array"), ("constraints", .obj [("items", .obj
      [("type", .str "array"), ("items", .obj [("type", .str "integer")])])])],
    .obj [("name", .str "title"), ("type", .str "text"), ("required", .bool true),
      ("constraints", .obj [("maxLength", .int 40)])]])]])]

/-- Its interface. -/
def chartInterfaces : String :=
  "// Auto-generated TypeScript interfaces\n\nexport interface Chart \x7b\n" ++
    "  id: number;\n  cells?: number[][];\n  title: string;\n\x7d\n\n"

/-- Its table, with something at the end of the column of the key. -/
def chartTables (suffix : String) : String :=
  "-- Auto-generated SQL DDL\n\nCREATE TABLE charts (\n  id INT NOT NULL" ++ suffix ++
    ",\n  cells TEXT,\n  title VARCHAR(40) NOT NULL\n);\n\n"

/-- The cells are lists of lists in the interface, and the title has its length in the table. -/
theorem convert_document_chart :
    ∃ m schema, Model.normalize chart = .ok m ∧ JsonSchema.document {} .standard m = .ok schema ∧
      Convert.convert schema (.str "typescript") = .ok chartInterfaces ∧
      Convert.convert schema (.str "mongoose") = .ok m.collections ∧
      Convert.convert schema (.str "sql") = .ok (chartTables " PRIMARY KEY AUTO_INCREMENT") ∧
      m.tablesWith (fun _ => "") = chartTables "" := by
  obtain ⟨m, hm⟩ : ∃ m, Model.normalize chart = .ok m := ⟨_, rfl⟩
  obtain ⟨schema, hs⟩ : ∃ schema, JsonSchema.document {} .standard m = .ok schema := ⟨_, rfl⟩
  have hm' := hm
  cases hm'
  obtain ⟨hmongoose, htypescript, hsql, hjson, hwritable⟩ :=
    convert_document hm (by decide +kernel) (by decide +kernel) hs
  rw [if_pos (hwritable (by decide +kernel))] at hsql
  refine ⟨_, schema, hm, hs, (htypescript (hjson (by decide +kernel)).1).trans ?_, hmongoose,
    hsql.trans ?_, ?_⟩
  · decide +kernel
  · decide +kernel
  · decide +kernel

/-- A note whose text may have as many characters as a number with 4301 digits says. -/
def longNote : Value :=
  .obj [("entities", .list [.obj [("name", .str "note"), ("fields", .list [
    .obj [("name", .str "body"), ("type", .str "text"),
      ("constraints", .obj [("maxLength", .nat (10 ^ 4300))])]])]])]

/-- The note has a normal form without repeated names, and its tables cannot be written: the length
has more digits than a number may have that becomes text. -/
theorem convert_document_longNote :
    ∃ m schema, Model.normalize longNote = .ok m ∧ m.entityNames.Nodup ∧
      (∀ e ∈ m.entities, e.fieldNames.Nodup) ∧ m.itemsEnd = true ∧
      JsonSchema.document {} .standard m = .ok schema ∧
      Convert.convert schema (.str "sql") = .error ⟨.conversion, Written.limitMessage ""⟩ := by
  obtain ⟨m, hm, hentities, hfields, hend, hlength⟩ := any_toOption.mp
    (show (Model.normalize longNote).toOption.any (fun m => m.entityNames.Nodup ∧
      (∀ e ∈ m.entities, e.fieldNames.Nodup) ∧ m.itemsEnd = true ∧
      m.entities.all Entity.lengthsAreWritable = false) = true by decide +kernel)
  obtain ⟨schema, hs⟩ : ∃ schema, JsonSchema.document {} .standard m = .ok schema := ⟨_, rfl⟩
  obtain ⟨stamp, -, hschema⟩ := JsonSchema.document_eq_ok hs
  have hsql : Convert.sql schema = .error .tooLong := by
    rw [hschema, Convert.sql_documentAt hentities hfields, hlength]
    rfl
  have hconvert : Convert.convert schema (.str "sql")
      = (Convert.sql schema).mapError fun fault => ⟨.conversion, fault.message⟩ := rfl
  refine ⟨m, schema, hm, hentities, hfields, hend, hs, ?_⟩
  rw [hconvert, hsql]
  rfl

end Schemata
