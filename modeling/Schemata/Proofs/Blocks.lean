import Schemata.Diagram.Render
import Schemata.Proofs.Identifiers
/-!
# Blocks of entities in diagrams

In two notations an entity is a block of lines: one that opens it with a brace, one for each field,
and one that closes it.  Names are copied into these lines as they are.

* `Diagram.mermaid_eq`, `Diagram.plantUml_eq`: both texts are written line by line, block by block.
* `Diagram.blocks_whole_iff`: where the lint accepts all names, the lines that are read back are
  those of the blocks exactly if the names are bare.  The lint also accepts a name that ends in a
  line feed, and such a name breaks its block.
-/

namespace Schemata.Diagram

open Text

/-! ## 1. Lines of an entity -/

/-- The lines of a block. -/
def block (opening closing : String) (attributes : List String) : List String :=
  opening :: attributes ++ [closing]

/-- A field in an entity-relationship diagram. -/
def erAttribute (f : Field) : String :=
  "        " ++ f.kind.erName ++ " " ++ f.name ++
    (if tagText f = "" then "" else " \"" ++ tagText f ++ "\"")

/-- An entity in an entity-relationship diagram. -/
def erBlock (e : Entity) : List String :=
  block ("    " ++ upper e.tableName ++ " \x7b") "    \x7d" (e.fields.map erAttribute)

/-- A field in a class diagram. -/
def umlAttribute (f : Field) : String := "  " ++ keyMark f ++ f.name ++ " : " ++ f.kind.umlName

/-- An entity in a class diagram. -/
def umlBlock (e : Entity) : List String :=
  block ("entity \"" ++ e.tableName ++ "\" as " ++ e.name ++ " \x7b") "\x7d"
    (e.fields.map umlAttribute)

/-- What follows the blocks of a class diagram. -/
def umlEnd (links : List Model.Link) : String := String.join (links.map umlLink) ++ "\n@enduml"

theorem forall_mem_block {P : String → Prop} {opening closing : String} {attributes : List String} :
    (∀ l ∈ block opening closing attributes, P l) ↔
      P opening ∧ (∀ l ∈ attributes, P l) ∧ P closing := by
  unfold block
  rw [List.forall_mem_append, List.forall_mem_cons, List.forall_mem_singleton, and_assoc]

/-! ## 2. Both texts line by line -/

theorem ended_block (opening closing : String) (attributes : List String) :
    ended (block opening closing attributes) =
      opening ++ "\n" ++ ended attributes ++ (closing ++ "\n") := by
  unfold block
  rw [ended_append, ended_cons, ended_cons, ended_nil, String.append_empty]

theorem erEntity_eq (e : Entity) : erEntity e = ended ("" :: erBlock e) := by
  have hfields : ended (e.fields.map erAttribute) = String.join (e.fields.map erField) :=
    ended_map (fun _ => rfl) e.fields
  have hgap : "\n    " = "" ++ "\n" ++ "    " := rfl
  have hopening : " \x7b\n" = " \x7b" ++ "\n" := rfl
  have hclosing : "    \x7d\n" = "    \x7d" ++ "\n" := rfl
  rw [erEntity, hgap, hopening, hclosing, ended_cons, erBlock, ended_block, hfields]
  simp only [String.append_assoc]

theorem umlEntity_eq (e : Entity) : umlEntity e = ended (umlBlock e ++ [""]) := by
  have hfields : ended (e.fields.map umlAttribute) = String.join (e.fields.map umlField) :=
    ended_map (fun _ => rfl) e.fields
  have hopening : " \x7b\n" = " \x7b" ++ "\n" := rfl
  have hclosing : "\x7d\n\n" = "\x7d" ++ "\n" ++ ended [""] := rfl
  rw [umlEntity, hopening, hclosing, ended_append, umlBlock, ended_block, hfields]
  simp only [String.append_assoc]

/-- The lines of an entity-relationship diagram up to its relationships. -/
def erHead (m : Model) : List String :=
  "erDiagram" :: m.entities.flatMap fun e => "" :: erBlock e

/-- The lines of a class diagram up to its relationships. -/
def umlHead (m : Model) : List String :=
  ["@startuml", "!define RECTANGLE class", ""] ++ m.entities.flatMap fun e => umlBlock e ++ [""]

theorem mermaid_eq (m : Model) : mermaid m = ended (erHead m) ++ erLinks m.resolved := by
  rw [mermaid, funext erEntity_eq, erHead, ended_cons, ended_flatMap]
  rfl

theorem plantUml_eq (m : Model) : plantUml m = ended (umlHead m) ++ umlEnd m.resolved := by
  have hopening : "@startuml\n!define RECTANGLE class\n\n" =
      ended ["@startuml", "!define RECTANGLE class", ""] := rfl
  unfold plantUml umlHead umlEnd
  rw [funext umlEntity_eq, hopening, ended_append, ended_flatMap]
  simp only [String.append_assoc]

/-! ## 3. Lines that stay whole -/

/-- The characters that structure a text of blocks under headings. -/
def structural : List Char := ['\n', '\x7b', '\x7d', '%']

theorem erName_lacks (t : FieldType) : ∀ c ∈ structural, Lacks c t.erName := by
  cases t <;> decide

theorem umlName_lacks (t : FieldType) : ∀ c ∈ structural, Lacks c t.umlName := by
  cases t <;> decide

theorem keyMark_lacks (f : Field) : ∀ c ∈ structural, Lacks c (keyMark f) := by
  unfold keyMark
  split_ifs <;> decide

theorem tagText_lacks (f : Field) : ∀ c ∈ structural, Lacks c (tagText f) := by
  unfold tagText tags
  split_ifs <;> decide

/-- A line of a field has of these characters what its name has. -/
theorem erAttribute_lacks (f : Field) {c : Char} (hc : c ∈ structural) :
    Lacks c (erAttribute f) ↔ Lacks c f.name := by
  have hlead : Lacks c "        " := (by decide : ∀ c ∈ structural, Lacks c "        ") c hc
  have hblank : Lacks c " " := (by decide : ∀ c ∈ structural, Lacks c " ") c hc
  have htags : Lacks c (if tagText f = "" then "" else " \"" ++ tagText f ++ "\"") := by
    split
    · exact List.not_mem_nil
    · rw [lacks_append, lacks_append]
      exact ⟨⟨(by decide : ∀ c ∈ structural, Lacks c " \"") c hc, tagText_lacks f c hc⟩,
        (by decide : ∀ c ∈ structural, Lacks c "\"") c hc⟩
  rw [erAttribute, lacks_append, lacks_append, lacks_append, lacks_append]
  exact ⟨fun h => h.1.2, fun h => ⟨⟨⟨⟨hlead, erName_lacks f.kind c hc⟩, hblank⟩, h⟩, htags⟩⟩

theorem umlAttribute_lacks (f : Field) {c : Char} (hc : c ∈ structural) :
    Lacks c (umlAttribute f) ↔ Lacks c f.name := by
  have hlead : Lacks c "  " := (by decide : ∀ c ∈ structural, Lacks c "  ") c hc
  have hcolon : Lacks c " : " := (by decide : ∀ c ∈ structural, Lacks c " : ") c hc
  rw [umlAttribute, lacks_append, lacks_append, lacks_append, lacks_append]
  exact ⟨fun h => h.1.1.2,
    fun h => ⟨⟨⟨⟨hlead, keyMark_lacks f c hc⟩, h⟩, hcolon⟩, umlName_lacks f.kind c hc⟩⟩

/-- The line that opens an entity's block is broken by its table's name only. -/
theorem erOpening_unbroken {e : Entity} (h : Lint.AcceptsNames e) :
    Unbroken ("    " ++ upper e.tableName ++ " \x7b") ↔ Lint.IsBareName e.tableName := by
  rw [unbroken_append, unbroken_append, unbroken_upper h.tableName]
  exact ⟨fun hl => hl.1.2, fun hl => ⟨⟨by decide, hl⟩, by decide⟩⟩

theorem umlOpening_unbroken {e : Entity} (h : Lint.AcceptsNames e) :
    Unbroken ("entity \"" ++ e.tableName ++ "\" as " ++ e.name ++ " \x7b") ↔
      Lint.IsBareName e.tableName ∧ Lint.IsBareName e.name := by
  rw [unbroken_append, unbroken_append, unbroken_append, unbroken_append,
    Lint.isBareName_iff_unbroken h.tableName, Lint.isBareName_iff_unbroken h.name]
  exact ⟨fun hl => ⟨hl.1.1.1.2, hl.1.2⟩,
    fun hl => ⟨⟨⟨⟨by decide, hl.1⟩, by decide⟩, hl.2⟩, by decide⟩⟩

theorem erBlock_unbroken {e : Entity} (h : Lint.AcceptsNames e) :
    (∀ l ∈ erBlock e, Unbroken l) ↔
      Lint.IsBareName e.tableName ∧ ∀ f ∈ e.fields, Lint.IsBareName f.name := by
  have hfields : (∀ l ∈ e.fields.map erAttribute, Unbroken l) ↔
      ∀ f ∈ e.fields, Lint.IsBareName f.name := by
    rw [List.forall_mem_map]
    exact forall₂_congr fun f hf =>
      (erAttribute_lacks f (by decide)).trans (Lint.isBareName_iff_unbroken (h.fields f hf)).symm
  rw [erBlock, forall_mem_block, hfields, erOpening_unbroken h]
  exact ⟨fun hl => ⟨hl.1, hl.2.1⟩, fun hl => ⟨hl.1, hl.2, by decide⟩⟩

theorem umlBlock_unbroken {e : Entity} (h : Lint.AcceptsNames e) :
    (∀ l ∈ umlBlock e, Unbroken l) ↔ ∀ name ∈ Lint.givenNames e, Lint.IsBareName name := by
  have hfields : (∀ l ∈ e.fields.map umlAttribute, Unbroken l) ↔
      ∀ f ∈ e.fields, Lint.IsBareName f.name := by
    rw [List.forall_mem_map]
    exact forall₂_congr fun f hf =>
      (umlAttribute_lacks f (by decide)).trans (Lint.isBareName_iff_unbroken (h.fields f hf)).symm
  rw [umlBlock, forall_mem_block, hfields, umlOpening_unbroken h, Lint.givenNames,
    Entity.fieldNames, List.forall_mem_cons, List.forall_mem_cons, List.forall_mem_map]
  exact ⟨fun hl => ⟨hl.1.2, hl.1.1, hl.2.1⟩, fun hl => ⟨⟨hl.2.1, hl.1⟩, hl.2.2, by decide⟩⟩

theorem erHead_unbroken {m : Model} (h : ∀ e ∈ m.entities, Lint.AcceptsNames e) :
    (∀ l ∈ erHead m, Unbroken l) ↔
      ∀ e ∈ m.entities, Lint.IsBareName e.tableName ∧ ∀ f ∈ e.fields, Lint.IsBareName f.name := by
  have hblocks : (∀ l ∈ m.entities.flatMap fun e => "" :: erBlock e, Unbroken l) ↔
      ∀ e ∈ m.entities, ∀ l ∈ erBlock e, Unbroken l := by
    rw [List.forall_mem_flatMap]
    refine forall₂_congr fun e he => ?_
    rw [List.forall_mem_cons]
    exact and_iff_right (by decide)
  rw [erHead, List.forall_mem_cons, hblocks, and_iff_right (by decide)]
  exact forall₂_congr fun e he => erBlock_unbroken (h e he)

theorem umlHead_unbroken {m : Model} (h : ∀ e ∈ m.entities, Lint.AcceptsNames e) :
    (∀ l ∈ umlHead m, Unbroken l) ↔
      ∀ e ∈ m.entities, ∀ name ∈ Lint.givenNames e, Lint.IsBareName name := by
  have hblocks : (∀ l ∈ m.entities.flatMap fun e => umlBlock e ++ [""], Unbroken l) ↔
      ∀ e ∈ m.entities, ∀ l ∈ umlBlock e, Unbroken l := by
    rw [List.forall_mem_flatMap]
    refine forall₂_congr fun e he => ?_
    rw [List.forall_mem_append]
    exact and_iff_left (by decide)
  rw [umlHead, List.forall_mem_append, hblocks, and_iff_right (by decide)]
  exact forall₂_congr fun e he => umlBlock_unbroken (h e he)

/-! ## 4. Blocks of accepted names -/

/-- **Accepted names keep their blocks whole, but for a line feed at their end.**  Where the lint
has nothing against the form of a model's names, each is bare, or bare with one line feed behind it.
The lines that are read back are the blocks, an opening line, a line for each field in order and a
closing line, exactly if the names copied into them are bare; and no line of a field has a brace, so
that it neither opens nor closes a block. -/
theorem blocks_whole_iff {m : Model}
    (hentities : ∀ i ∈ Lint.entityNames m,
      i.code ≠ "INVALID_ENTITY_NAME" ∧ i.code ≠ "INVALID_TABLE_NAME")
    (hfields : ∀ i ∈ Lint.fieldNames m, i.code ≠ "INVALID_FIELD_NAME") :
    (∀ e ∈ m.entities, ∀ name ∈ Lint.givenNames e,
      Lint.IsBareName name ∨ ∃ bare, Lint.IsBareName bare ∧ name = bare ++ "\n") ∧
    (lines (mermaid m) = erHead m ++ lines (erLinks m.resolved) ↔
      ∀ e ∈ m.entities, Lint.IsBareName e.tableName ∧ ∀ f ∈ e.fields, Lint.IsBareName f.name) ∧
    (lines (plantUml m) = umlHead m ++ lines (umlEnd m.resolved) ↔
      ∀ e ∈ m.entities, ∀ name ∈ Lint.givenNames e, Lint.IsBareName name) ∧
    ∀ e ∈ m.entities, ∀ f ∈ e.fields, ∀ brace ∈ ['\x7b', '\x7d'],
      Lacks brace (erAttribute f) ∧ Lacks brace (umlAttribute f) := by
  have haccepted : ∀ e ∈ m.entities, Lint.AcceptsNames e :=
    Lint.acceptsNames_iff.mp ⟨hentities, hfields⟩
  refine ⟨fun e he name hname => ?_, ?_, ?_, fun e he f hf brace hbrace => ?_⟩
  · exact Lint.isIdentifier_iff.mp ((haccepted e he).isIdentifier name hname)
  · rw [mermaid_eq, lines_ended_iff, erHead_unbroken haccepted]
  · rw [plantUml_eq, lines_ended_iff, umlHead_unbroken haccepted]
  · have hstructural : brace ∈ structural :=
      (by decide : ∀ brace ∈ ['\x7b', '\x7d'], brace ∈ structural) brace hbrace
    have hnone : ∀ c ∈ ['\x7b', '\x7d'], ¬ Lint.IsNameChar c ∧ c ≠ '\n' := by decide
    have hname : Lacks brace f.name :=
      Lint.lacks_of_isIdentifier ((haccepted e he).fields f hf) (hnone brace hbrace)
    exact ⟨(erAttribute_lacks f hstructural).mpr hname,
      (umlAttribute_lacks f hstructural).mpr hname⟩

/-- A model of one entity with one field. -/
def oneEntity (name table field : String) : Model :=
  .of [⟨name, table, none, [⟨field, "number", true, none, none⟩]⟩] []

/-- A user with an identifier. -/
theorem blocks_whole_iff_user :
    lines (mermaid (oneEntity "user" "users" "id")) =
        ["erDiagram", "", "    USERS \x7b", "        int id \"NOT NULL\"", "    \x7d", ""] ∧
      lines (plantUml (oneEntity "user" "users" "id")) =
        ["@startuml", "!define RECTANGLE class", "", "entity \"users\" as user \x7b",
          "  - id : INTEGER", "\x7d", "", "", "@enduml"] := by
  obtain ⟨-, hmermaid, hplantUml, -⟩ := blocks_whole_iff (m := oneEntity "user" "users" "id")
    (by decide +kernel) (by decide +kernel)
  have hbare : ∀ name ∈ ["user", "users", "id"], Lint.IsBareName name := by
    intro name hname
    rw [← Lint.isBareList_toList]
    exact (by decide : ∀ name ∈ ["user", "users", "id"], Lint.isBareList name.toList = true)
      name hname
  rw [hmermaid.mpr, hplantUml.mpr]
  · decide +kernel
  · exact List.forall_mem_singleton.mpr hbare
  · rw [oneEntity, Model.of, List.forall_mem_singleton, List.forall_mem_singleton]
    exact ⟨hbare _ (by decide), hbare _ (by decide)⟩

/-- A line feed at the end of a user's name is accepted, and the line that opens the block is broken
before its brace. -/
theorem block_broken :
    (∀ i ∈ Lint.entityNames (oneEntity "user\n" "users" "id"),
        i.code ≠ "INVALID_ENTITY_NAME" ∧ i.code ≠ "INVALID_TABLE_NAME") ∧
      (∀ i ∈ Lint.fieldNames (oneEntity "user\n" "users" "id"), i.code ≠ "INVALID_FIELD_NAME") ∧
      ¬ Lint.IsBareName "user\n" ∧
      lines (plantUml (oneEntity "user\n" "users" "id")) =
        ["@startuml", "!define RECTANGLE class", "", "entity \"users\" as user", " \x7b",
          "  - id : INTEGER", "\x7d", "", "", "@enduml"] :=
  ⟨by decide +kernel, by decide +kernel, Lint.not_isBareName_of_lineFeed "user", by decide +kernel⟩

end Schemata.Diagram
