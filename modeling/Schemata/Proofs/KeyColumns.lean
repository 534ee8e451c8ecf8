import Schemata.Proofs.Agreement
import Schemata.Proofs.Names
import Schemata.Proofs.Renderings
/-!
# Every table has a primary key

Normalizing sees to it that every entity has a field named `id`, and the lint reports such a field
that is not the primary key.  Between that and the tables stands the schema document.  It holds
entities and fields by their names and keeps the constraints as they were given, and the flag of a
key is shown wherever its value is truthy.

* `Model.exists_key`: every entity of a normalized model has a field named like the key.
* `Lint.fieldNames_keys_iff`: the lint has nothing to say of keys exactly if all are primary.
* `Field.isKeyLine_column`: the column of such a field is a line that ends in the flags of a key.
* `keys_of_tables`: the conversion writes such a line into the table of every definition.
-/

namespace Schemata

/-! ## 1. Keys of a model -/

/-- **Every entity has a key**, one that was given or one that was made up. -/
theorem Model.exists_key {raw : Value} {m : Model} (hm : Model.normalize raw = .ok m) {e : Entity}
    (he : e ∈ m.entities) : ∃ f ∈ e.fields, f.name = Entity.keyName := by
  obtain ⟨_, _, _, _, _, -, -, -, hprepare, hread⟩ := Model.exists_entity hm he
  exact Entity.exists_key_of_prepare hprepare hread

namespace Lint

theorem fieldNamesFrom_keys_iff (entity : String) : ∀ (fs : List Field) (names : List String),
    (∀ i ∈ fieldNamesFrom entity names fs, i.code ≠ "ID_NOT_PRIMARY") ↔
      ∀ f ∈ fs, f.name = Entity.keyName → f.isPrimary = true
  | [], _ => by simp [fieldNamesFrom]
  | f :: rest, names => by
    rw [List.forall_mem_cons, ← fieldNamesFrom_keys_iff entity rest (f.name :: names)]
    simp only [fieldNamesFrom, List.forall_mem_append, forall_mem_when]
    simp [Issue.code, Entity.keyName]

/-- **Keys are primary** exactly if the lint reports none that is not. -/
theorem fieldNames_keys_iff {m : Model} :
    (∀ i ∈ fieldNames m, i.code ≠ "ID_NOT_PRIMARY") ↔
      ∀ e ∈ m.entities, ∀ f ∈ e.fields, f.name = Entity.keyName → f.isPrimary = true := by
  rw [fieldNames]
  simp only [List.forall_mem_flatMap, fieldNamesFrom_keys_iff]

end Lint

/-! ## 2. Columns of keys -/

/-- A line that is the column of a key: its name, a type, and flags, of which the first says that it
is the primary key. -/
structure IsKeyLine (line : String) : Prop where
  /-- Nothing in the line breaks it. -/
  unbroken : '\n' ∉ line.toList
  shape : ∃ type, ∃ required ∈ ["", " NOT NULL"], ∃ counting ∈ ["", " AUTO_INCREMENT"],
    line = "  id " ++ type ++ required ++ " PRIMARY KEY" ++ counting

theorem unbroken_natural (n : Nat) : '\n' ∉ n.repr.toList := by
  intro h
  rw [Nat.toList_repr] at h
  exact absurd (Nat.isDigit_of_mem_toDigits (by decide) (by decide) h) (by decide)

theorem unbroken_integer (n : Int) : '\n' ∉ (toString n).toList := by
  cases n with
  | ofNat n => exact unbroken_natural n
  | negSucc n =>
    have htext : toString (Int.negSucc n) = "-" ++ (n + 1).repr := rfl
    rw [htext, String.toList_append, List.mem_append, not_or]
    exact ⟨by decide, unbroken_natural (n + 1)⟩

namespace Field

theorem unbroken_columnType (f : Field) : '\n' ∉ f.columnType.toList := by
  rw [Convert.columnType_eq]
  cases f.kind.jsonType with
  | string =>
    simp only [String.toList_append, List.mem_append, not_or]
    exact ⟨⟨by decide, unbroken_integer _⟩, by decide⟩
  | integer | number | boolean | array | object =>
    dsimp only
    decide

/-- **The column of a key**, if its flag goes on the wire. -/
theorem isKeyLine_column {f : Field} (hname : f.name = Entity.keyName)
    (hwire : KeyFlag.primary.onWire f = true) : IsKeyLine f.column := by
  obtain ⟨required, hrequired, hnull⟩ : ∃ required ∈ ["", " NOT NULL"],
      (if f.required then " NOT NULL" else "") = required := by
    cases f.required <;> simp
  obtain ⟨counting, hcounting, hauto⟩ : ∃ counting ∈ ["", " AUTO_INCREMENT"],
      (if KeyFlag.autoIncrement.onWire f then KeyFlag.autoIncrement.suffix else "") = counting := by
    cases KeyFlag.autoIncrement.onWire f <;> simp [KeyFlag.suffix]
  have hcolumn : f.column = "  id " ++ f.columnType ++ required ++ " PRIMARY KEY" ++ counting := by
    rw [column, columnStem, hname, hnull, hauto, if_pos hwire]
    rfl
  have hrequired' : ∀ s ∈ ["", " NOT NULL"], '\n' ∉ s.toList := by decide
  have hcounting' : ∀ s ∈ ["", " AUTO_INCREMENT"], '\n' ∉ s.toList := by decide
  refine ⟨?_, f.columnType, required, hrequired, counting, hcounting, hcolumn⟩
  rw [hcolumn]
  simp only [String.toList_append, List.mem_append, not_or]
  exact ⟨⟨⟨⟨by decide, f.unbroken_columnType⟩, hrequired' _ hrequired⟩, by decide⟩,
    hcounting' _ hcounting⟩

end Field

/-! ## 3. Lines of tables -/

/-- Whether a text has a line, as it is or with a comma at its end. -/
def HasLine (text line : String) : Prop :=
  ∃ before after, ∃ comma ∈ ["", ","], text = before ++ "\n" ++ line ++ comma ++ "\n" ++ after

theorem HasLine.append {text line : String} (h : HasLine text line) (before after : String) :
    HasLine (before ++ text ++ after) line := by
  obtain ⟨before', after', comma, hcomma, rfl⟩ := h
  exact ⟨before ++ before', after' ++ after, comma, hcomma, by simp only [String.append_assoc]⟩

/-- What is joined by commas and ends of lines has a line for every part. -/
theorem hasLine_intercalate {line : String} : ∀ {lines : List String}, line ∈ lines →
    HasLine ("\n" ++ ",\n".intercalate lines ++ "\n") line
  | [], h => absurd h List.not_mem_nil
  | [only], h => by
    rw [List.mem_singleton.mp h, String.intercalate_singleton]
    exact ⟨"", "", "", List.mem_cons_self, by simp⟩
  | first :: second :: rest, h => by
    have hcut : "\n" ++ ",\n".intercalate (first :: second :: rest) ++ "\n"
        = "\n" ++ first ++ "," ++ ("\n" ++ ",\n".intercalate (second :: rest) ++ "\n") := by
      have hcomma : ",\n" = "," ++ "\n" := rfl
      rw [String.intercalate_cons_cons, hcomma]
      simp only [String.append_assoc]
    rw [hcut]
    rcases List.mem_cons.mp h with rfl | hrest
    · refine ⟨"", ",\n".intercalate (second :: rest) ++ "\n", ",", by simp, ?_⟩
      simp only [String.append_assoc, String.empty_append]
    · have happend := (hasLine_intercalate hrest).append ("\n" ++ first ++ ",") ""
      rwa [String.append_empty] at happend

/-- A table has a line for every column. -/
theorem Entity.hasLine_table {e : Entity} {f : Field} (hf : f ∈ e.fields) :
    HasLine e.table f.column := by
  have hcolumns := hasLine_intercalate (List.mem_map_of_mem (f := Field.column) hf)
  unfold table
  generalize (if e.tableName = "" then e.name ++ "s" else e.tableName) = name
  generalize ",\n".intercalate (e.fields.map Field.column) = columns at hcolumns ⊢
  have hcut : "CREATE TABLE " ++ name ++ " (\n" ++ columns ++ "\n);\n\n"
      = "CREATE TABLE " ++ name ++ " (" ++ ("\n" ++ columns ++ "\n") ++ ");\n\n" := by
    have hopen : " (\n" = " (" ++ "\n" := rfl
    have hclose : "\n);\n\n" = "\n" ++ ");\n\n" := rfl
    rw [hopen, hclose]
    simp only [String.append_assoc]
  rw [hcut]
  exact hcolumns.append _ _

/-! ## 4. All tables -/

theorem Model.lengthsAreWritable_merged {m : Model}
    (h : m.entities.all Entity.lengthsAreWritable = true) :
    m.merged.entities.all Entity.lengthsAreWritable = true := by
  refine List.all_eq_true.mpr fun e he => List.all_eq_true.mpr fun f hf => ?_
  obtain ⟨e', he', rfl⟩ := mem_entities_merged he
  obtain ⟨f', hf', rfl⟩ := Entity.mem_fields_merged hf
  exact List.all_eq_true.mp (List.all_eq_true.mp h e' he') f' hf'

/-- **What is left of an entity has a key** whose flag goes on the wire, if the lint has nothing to
say of keys. -/
theorem exists_key_onWire {raw : Value} {m : Model} (hraw : raw.hasDistinctKeys = true)
    (hm : Model.normalize raw = .ok m) (hkeys : ∀ i ∈ Lint.fieldNames m, i.code ≠ "ID_NOT_PRIMARY")
    {e : Entity} (he : e ∈ m.merged.entities) :
    ∃ f ∈ e.fields, f.name = Entity.keyName ∧ KeyFlag.primary.onWire f = true := by
  obtain ⟨e', he', rfl⟩ := Model.mem_entities_merged he
  obtain ⟨given, hgiven, hname⟩ := Model.exists_key hm he'
  obtain ⟨key, hkey, hkeyName⟩ := Entity.exists_merged hgiven
  -- The key that is left may be another one than the one found first, but it has the same name.
  obtain ⟨f, hf, rfl⟩ := Entity.mem_fields_merged hkey
  have hfname : f.name = Entity.keyName := hkeyName.trans hname
  have hset : KeyFlag.primary.isSet f = true :=
    Lint.fieldNames_keys_iff.mp hkeys e' he' f hf hfname
  obtain ⟨entries, hrules, hentries⟩ :=
    Model.exists_given Value.hereditary_hasDistinctKeys (by decide) hraw hm he' hf
  have hsettled := KeyFlag.settled .primary hrules (Value.hasDistinctKeys_map.mp hentries).1
  exact ⟨_, hkey, hfname, hsettled.shown (KeyFlag.givenOnce_primary entries) hset⟩

/-- **Every table has a primary key.**  For any input whose maps have no key twice, repeated names
of entities and fields included: if the lint reports no key that is not primary, the tables of the
schema document are those of what is left of the model, one for every definition, and every one of
them has the line of a key.  The conversion gives these tables unless the length of a text has too
many digits, and no length has if the input can be written. -/
theorem keys_of_tables {raw : Value} {m : Model} (hraw : raw.hasDistinctKeys = true)
    (hm : Model.normalize raw = .ok m) (hkeys : ∀ i ∈ Lint.fieldNames m, i.code ≠ "ID_NOT_PRIMARY")
    {config : Config} {clock : Clock} {schema : Value}
    (hs : JsonSchema.document config clock m = .ok schema) :
    schema.keysAt? ["definitions"] = some (Value.textKeys m.merged.entityNames) ∧
    (Convert.sql schema
      = if m.merged.entities.all Entity.lengthsAreWritable then .ok m.merged.tables
        else .error .tooLong) ∧
    (raw.isWritable = true → m.merged.entities.all Entity.lengthsAreWritable = true) ∧
    ∀ e ∈ m.merged.entities, ∃ line, IsKeyLine line ∧ HasLine e.table line := by
  have hdefinitions := definitions_keysAt? hs
  rw [← Model.entityNames_merged] at hdefinitions
  obtain ⟨stamp, -, rfl⟩ := JsonSchema.document_eq_ok hs
  refine ⟨hdefinitions, Convert.sql_documentAt_merged m config stamp, fun hwritable => ?_,
    fun e he => ?_⟩
  · exact Model.lengthsAreWritable_merged (Model.lengthsAreWritable_of_isWritable hwritable hm)
  · obtain ⟨f, hf, hname, hwire⟩ := exists_key_onWire hraw hm hkeys he
    exact ⟨f.column, Field.isKeyLine_column hname hwire, Entity.hasLine_table hf⟩

/-- Two users, of whom the second has two keys. -/
def keyedTwice : Value :=
  let key (primary : Value) (required : Bool) : Value :=
    .obj [("name", .str "id"), ("type", .str "string"), ("required", .bool required),
      ("constraints", .obj [("primary", primary), ("maxLength", .int 40)])]
  .obj [("entities", .list [.obj [("name", .str "user"), ("fields", .list [])],
    .obj [("name", .str "user"),
      ("fields", .list [key (.bool true) true, key (.str "yes") false])]])]

/-- The last key is left, in a column that the first one requires. -/
theorem keys_of_tables_keyedTwice :
    ∃ m schema, Model.normalize keyedTwice = .ok m ∧
      (∀ i ∈ Lint.fieldNames m, i.code ≠ "ID_NOT_PRIMARY") ∧
      JsonSchema.document {} .standard m = .ok schema ∧
      schema.keysAt? ["definitions"] = some (Value.textKeys ["user"]) ∧
      Convert.sql schema = .ok ("-- Auto-generated SQL DDL\n\n" ++
        "CREATE TABLE users (\n  id VARCHAR(40) NOT NULL PRIMARY KEY\n);\n\n") ∧
      ∀ e ∈ m.merged.entities, ∃ line, IsKeyLine line ∧ HasLine e.table line := by
  obtain ⟨m, hm, hkeys, hnames, htables⟩ := any_toOption.mp
    (show (Model.normalize keyedTwice).toOption.any (fun m =>
      (∀ i ∈ Lint.fieldNames m, i.code ≠ "ID_NOT_PRIMARY") ∧ m.merged.entityNames = ["user"] ∧
      m.merged.tables = "-- Auto-generated SQL DDL\n\n" ++
        "CREATE TABLE users (\n  id VARCHAR(40) NOT NULL PRIMARY KEY\n);\n\n") = true by
          decide +kernel)
  obtain ⟨schema, hs⟩ : ∃ schema, JsonSchema.document {} .standard m = .ok schema := ⟨_, rfl⟩
  obtain ⟨hdefinitions, hsql, hwritable, hlines⟩ := keys_of_tables (by decide +kernel) hm hkeys hs
  rw [hnames] at hdefinitions
  rw [if_pos (hwritable (by decide +kernel)), htables] at hsql
  exact ⟨m, schema, hm, hkeys, hs, hdefinitions, hsql, hlines⟩

/-- The table of a note whose text is too long to be told has a primary key in the model, about
which the lint has nothing to say; but the conversion gives no table at all. -/
theorem keys_of_tables_longNote :
    ∃ m schema, Model.normalize longNote = .ok m ∧ longNote.hasDistinctKeys = true ∧
      Lint.fieldNames m = [] ∧ JsonSchema.document {} .standard m = .ok schema ∧
      schema.keysAt? ["definitions"] = some (Value.textKeys ["note"]) ∧
      Convert.sql schema = .error .tooLong := by
  obtain ⟨m, hm, hkeys, hnames, hlength⟩ := any_toOption.mp
    (show (Model.normalize longNote).toOption.any (fun m => Lint.fieldNames m = [] ∧
      m.entityNames = ["note"] ∧ m.merged.entities.all Entity.lengthsAreWritable = false) = true by
        decide +kernel)
  obtain ⟨schema, hs⟩ : ∃ schema, JsonSchema.document {} .standard m = .ok schema := ⟨_, rfl⟩
  obtain ⟨stamp, -, hschema⟩ := JsonSchema.document_eq_ok hs
  refine ⟨m, schema, hm, by decide, hkeys, hs, ?_, ?_⟩
  · rw [definitions_keysAt? hs, hnames]
    rfl
  · rw [hschema, Convert.sql_documentAt_merged, hlength]
    rfl

end Schemata
