import Mathlib.Data.List.DropRight
import Schemata.Proofs.Blocks
import Schemata.Proofs.Resolution
/-!
# Lines of relationships in diagrams

A relationship with both of its ends is a line in two notations.  Its label, the description of the
relationship or else its type, is copied into the line as it is.

* `Lint.passed`: a model about which the lint has neither errors nor warnings has entities, and all
  names in it are accepted.
* `Diagram.erSection_mermaid`, `Diagram.umlSection_plantUml`: what stands in both texts at the place
  of the relationships.
* `Diagram.one_line_per_link_iff`: there is one line for each link, in order, exactly if neither the
  labels nor the names of the ends break a line.
-/

namespace Schemata

/-! ## 1. Models that pass the lint -/

namespace Lint

theorem subset_everything {m : Model} {config : Config} {issues : List Issue}
    (h : everything m config = .ok issues) :
    entityNames m ⊆ issues ∧ fieldNames m ⊆ issues ∧ size m ⊆ issues := by
  obtain ⟨ofModel, hmodel, hissues⟩ := bind_eq_ok.mp h
  obtain ⟨ofConstraints, -, hofModel⟩ := bind_eq_ok.mp hmodel
  cases hofModel
  cases hissues
  refine ⟨fun i hi => ?_, fun i hi => ?_, fun i hi => ?_⟩ <;>
    simp only [List.mem_append, hi, true_or, or_true]

/-- What the lint only mentions. -/
theorem Issue.code_of_info {i : Issue} (h : i.severity = .info) :
    i.code = "DUPLICATE_RELATIONSHIP_PATH" ∨ i.code = "MODEL_STATS" := by
  cases i with
  | pathTaken => exact .inl rfl
  | statistics => exact .inr rfl
  | _ => cases h

/-- **A model that passes the lint** has entities, and their names are accepted. -/
theorem passed {m : Model} {config : Config} {issues : List Issue}
    (h : everything m config = .ok issues) (hclean : ∀ i ∈ issues, i.severity = .info) :
    m.entities ≠ [] ∧ ∀ e ∈ m.entities, AcceptsNames e := by
  obtain ⟨hentities, hfields, hsize⟩ := subset_everything h
  have hcode : ∀ i ∈ issues, ∀ code,
      code ≠ "DUPLICATE_RELATIONSHIP_PATH" → code ≠ "MODEL_STATS" → i.code ≠ code := by
    rintro i hi code hpath hstats rfl
    exact (Issue.code_of_info (hclean i hi)).elim hpath hstats
  refine ⟨fun hempty => ?_, acceptsNames_iff.mp ⟨fun i hi => ⟨?_, ?_⟩, fun i hi => ?_⟩⟩
  · have hmem : Issue.emptyModel ∈ size m := by
      unfold size
      rw [hempty]
      exact List.mem_cons_of_mem _ List.mem_cons_self
    cases hclean _ (hsize hmem)
  · exact hcode i (hentities hi) _ (by decide) (by decide)
  · exact hcode i (hentities hi) _ (by decide) (by decide)
  · exact hcode i (hfields hi) _ (by decide) (by decide)

end Lint

namespace Diagram

open Text

/-! ## 2. Lines of relationships -/

/-- A relationship in an entity-relationship diagram. -/
def erLinkLine (l : Model.Link) : String :=
  "    " ++ upper l.source.tableName ++ " " ++ l.relationship.cardinality.edge ++ " " ++
    upper l.target.tableName ++ " : \"" ++ l.relationship.label ++ "\""

/-- A relationship in a class diagram. -/
def umlLinkLine (l : Model.Link) : String :=
  l.relationship.source ++ " " ++ l.relationship.cardinality.edge ++ " " ++
    l.relationship.target ++ " : " ++ l.relationship.label

theorem erLink_eq (l : Model.Link) : erLink l = erLinkLine l ++ "\n" := by
  have hend : "\"\n" = "\"" ++ "\n" := rfl
  unfold erLink erLinkLine
  rw [hend]
  exact String.append_assoc.symm

theorem umlLink_eq (l : Model.Link) : umlLink l = umlLinkLine l ++ "\n" := rfl

/-- The heading of the relationships. -/
def erHeading : String := "    %% Relationships"

/-- The lines under the heading, but for empty ones. -/
def erSection (text : String) : List String :=
  ((lines text).dropWhile (· ≠ erHeading)).tail.filter (· ≠ "")

/-- The line that closes a block. -/
def umlClosing : String := "\x7d"

/-- The line that closes the diagram. -/
def umlLast : String := "@enduml"

/-- The lines between the last block and the end of the diagram, but for empty ones. -/
def umlSection (text : String) : List String :=
  (((lines text).rtakeWhile (· ≠ umlClosing)).takeWhile (· ≠ umlLast)).filter (· ≠ "")

/-! ## 3. The place of the relationships -/

/-- No line up to the relationships is their heading: that has a character which no name has. -/
theorem erHead_ne_heading {m : Model} (h : ∀ e ∈ m.entities, Lint.AcceptsNames e) :
    ∀ l ∈ (erHead m).flatMap lines, l ≠ erHeading := by
  have hnone : ¬ Lint.IsNameChar '%' ∧ '%' ≠ '\n' := by decide
  have hblock : ∀ e ∈ m.entities, ∀ l ∈ "" :: erBlock e, Lacks '%' l := by
    intro e he
    rw [List.forall_mem_cons, erBlock, forall_mem_block, List.forall_mem_map]
    refine ⟨by decide, ?_, fun f hf => ?_, by decide⟩
    · rw [lacks_append, lacks_append, lacks_upper (Lint.ascii_of_isIdentifier (h e he).tableName)
        (by decide)]
      exact ⟨⟨by decide, Lint.lacks_of_isIdentifier (h e he).tableName hnone⟩, by decide⟩
    · exact (erAttribute_lacks f (by decide)).mpr
        (Lint.lacks_of_isIdentifier ((h e he).fields f hf) hnone)
  have hhead : ∀ l ∈ erHead m, Lacks '%' l := by
    rw [erHead, List.forall_mem_cons, List.forall_mem_flatMap]
    exact ⟨by decide, hblock⟩
  intro l hl heq
  obtain ⟨text, htext, hmem⟩ := List.mem_flatMap.mp hl
  have hlacks : Lacks '%' l := (lacks_of_mem_pieces hmem).2 _ (hhead text htext)
  rw [heq] at hlacks
  exact absurd hlacks (by decide)

/-- A line of a relationship has a blank, which the lines around it have not. -/
theorem not_lacks_erLinkLine (l : Model.Link) : ¬ Lacks ' ' (erLinkLine l) := by
  intro h
  unfold erLinkLine at h
  simp only [lacks_append] at h
  exact absurd h.1.1.1.1.2 (by decide)

theorem not_lacks_umlLinkLine (l : Model.Link) : ¬ Lacks ' ' (umlLinkLine l) := by
  intro h
  unfold umlLinkLine at h
  simp only [lacks_append] at h
  exact absurd h.1.1.1.2 (by decide)

theorem tail_dropWhile_append_cons {mark : String} {before after : List String}
    (h : ∀ l ∈ before, l ≠ mark) :
    ((before ++ mark :: after).dropWhile (· ≠ mark)).tail = after := by
  rw [List.dropWhile_append_of_pos fun l hl => decide_eq_true (h l hl),
    List.dropWhile_cons_of_neg (by simp), List.tail_cons]

theorem takeWhile_append_cons {mark : String} {before after : List String}
    (h : ∀ l ∈ before, l ≠ mark) : (before ++ mark :: after).takeWhile (· ≠ mark) = before := by
  rw [List.takeWhile_append_of_pos fun l hl => decide_eq_true (h l hl),
    List.takeWhile_cons_of_neg (by simp), List.append_nil]

theorem rtakeWhile_append_cons {mark : String} {before after : List String}
    (h : ∀ l ∈ after, l ≠ mark) : (before ++ mark :: after).rtakeWhile (· ≠ mark) = after := by
  have hreverse : (before ++ mark :: after).reverse = after.reverse ++ mark :: before.reverse := by
    simp
  rw [List.rtakeWhile, hreverse, takeWhile_append_cons fun l hl => h l (List.mem_reverse.mp hl),
    List.reverse_reverse]

theorem erLinks_cons (link : Model.Link) (rest : List Model.Link) :
    erLinks (link :: rest) = ended ("" :: erHeading :: (link :: rest).map erLinkLine) := by
  rw [ended_cons, ended_cons, ended_map erLink_eq]
  have hheading : "\n    %% Relationships\n" = "" ++ "\n" ++ (erHeading ++ "\n") := rfl
  change "\n    %% Relationships\n" ++ _ = _
  rw [hheading, String.append_assoc, String.append_assoc]

/-- **What stands under the heading** are the lines of the relationships, if nothing breaks them. -/
theorem erSection_mermaid {m : Model} (h : ∀ e ∈ m.entities, Lint.AcceptsNames e)
    (hlines : ∀ l ∈ m.resolved.map erLinkLine, Unbroken l) :
    erSection (mermaid m) = m.resolved.map erLinkLine := by
  have hfull : ∀ l ∈ m.resolved.map erLinkLine, l ≠ "" := by
    rintro l hl rfl
    obtain ⟨link, -, hlink⟩ := List.mem_map.mp hl
    exact not_lacks_erLinkLine link (hlink ▸ by decide)
  have hhead : ∀ l ∈ (erHead m).flatMap lines ++ [""], l ≠ erHeading := by
    rw [List.forall_mem_append]
    exact ⟨erHead_ne_heading h, by decide⟩
  unfold erSection
  rw [mermaid_eq, lines_ended]
  cases hlinks : m.resolved with
  | nil =>
    have hnone : lines (erLinks []) = [""] := by decide
    rw [hnone, List.dropWhile_eq_nil_iff.mpr fun l hl => decide_eq_true (hhead l hl)]
    rfl
  | cons link rest =>
    rw [hlinks] at hlines hfull
    have hwhole : ∀ l ∈ "" :: erHeading :: (link :: rest).map erLinkLine, Unbroken l := by
      rw [List.forall_mem_cons, List.forall_mem_cons]
      exact ⟨by decide, by decide, hlines⟩
    have hsection : (erHead m).flatMap lines ++ lines (erLinks (link :: rest)) =
        (erHead m).flatMap lines ++ [""] ++
          erHeading :: ((link :: rest).map erLinkLine ++ [""]) := by
      rw [erLinks_cons, lines_ended_of_unbroken hwhole]
      simp only [List.append_assoc, List.cons_append, List.nil_append]
    rw [hsection, tail_dropWhile_append_cons hhead, List.filter_append,
      List.filter_eq_self.mpr fun l hl => decide_eq_true (hfull l hl)]
    exact List.append_nil _

theorem umlEnd_eq (links : List Model.Link) :
    umlEnd links = ended (links.map umlLinkLine ++ [""]) ++ umlLast := by
  have hend : "\n@enduml" = ended [""] ++ umlLast := rfl
  rw [umlEnd, ended_append, ended_map umlLink_eq, hend, String.append_assoc]

/-- The last of the entities' lines, but for an empty one, closes its block. -/
theorem umlHead_concat {m : Model} (h : m.entities ≠ []) :
    ∃ before, (umlHead m).flatMap lines = before ++ [umlClosing, ""] := by
  have hclosing : [umlClosing, ""].flatMap lines = [umlClosing, ""] := by decide
  obtain ⟨init, e, he⟩ := (List.eq_nil_or_concat m.entities).resolve_left h
  have hhead : umlHead m = (["@startuml", "!define RECTANGLE class", ""] ++
      init.flatMap (fun e => umlBlock e ++ [""]) ++
      ("entity \"" ++ e.tableName ++ "\" as " ++ e.name ++ " \x7b") :: e.fields.map umlAttribute) ++
        [umlClosing, ""] := by
    rw [umlHead, he, List.concat_eq_append, List.flatMap_append, List.flatMap_singleton]
    simp only [umlBlock, block, umlClosing, List.append_assoc, List.cons_append, List.nil_append]
  exact ⟨_, by rw [hhead, List.flatMap_append, hclosing]⟩

/-- **What stands between the blocks and the end** are the lines of the relationships, if nothing
breaks them. -/
theorem umlSection_plantUml {m : Model} (hentities : m.entities ≠ [])
    (hlines : ∀ l ∈ m.resolved.map umlLinkLine, Unbroken l) :
    umlSection (plantUml m) = m.resolved.map umlLinkLine := by
  have hne : ∀ mark : String, Lacks ' ' mark → ∀ l ∈ m.resolved.map umlLinkLine, l ≠ mark := by
    rintro mark hmark l hl rfl
    obtain ⟨link, -, rfl⟩ := List.mem_map.mp hl
    exact not_lacks_umlLinkLine link hmark
  have hsection : ∀ mark : String, Lacks ' ' mark → mark ≠ "" →
      ∀ l ∈ "" :: m.resolved.map umlLinkLine ++ [""], l ≠ mark := by
    intro mark hmark hfull
    rw [List.forall_mem_append, List.forall_mem_cons, List.forall_mem_singleton]
    exact ⟨⟨hfull.symm, hne mark hmark⟩, hfull.symm⟩
  have hafter : ∀ l ∈ ("" :: m.resolved.map umlLinkLine ++ [""]) ++ [umlLast], l ≠ umlClosing := by
    rw [List.forall_mem_append]
    exact ⟨hsection umlClosing (by decide) (by decide), by decide⟩
  have hwhole : ∀ l ∈ m.resolved.map umlLinkLine ++ [""], Unbroken l := by
    rw [List.forall_mem_append]
    exact ⟨hlines, by decide⟩
  have hlast : lines umlLast = [umlLast] := by decide
  obtain ⟨before, hbefore⟩ := umlHead_concat hentities
  have htext : lines (plantUml m) =
      before ++ umlClosing :: (("" :: m.resolved.map umlLinkLine ++ [""]) ++ [umlLast]) := by
    rw [plantUml_eq, lines_ended, hbefore, umlEnd_eq, lines_ended_iff.mpr hwhole, hlast]
    simp only [List.append_assoc, List.cons_append, List.nil_append]
  rw [umlSection, htext, rtakeWhile_append_cons hafter,
    takeWhile_append_cons (hsection umlLast (by decide) (by decide)), List.filter_append,
    List.filter_cons_of_neg (by decide),
    List.filter_eq_self.mpr fun l hl => decide_eq_true (hne "" (by decide) l hl)]
  exact List.append_nil _

/-! ## 4. Whole lines -/

theorem edge_lacks (c : Cardinality) : ∀ mark ∈ ['\n', ' '], Lacks mark c.edge := by
  cases c <;> decide

theorem erLinkLine_unbroken {l : Model.Link} (hs : Lint.AcceptsNames l.source)
    (ht : Lint.AcceptsNames l.target) : Unbroken (erLinkLine l) ↔
      Lint.IsBareName l.source.tableName ∧ Lint.IsBareName l.target.tableName ∧
        Unbroken l.relationship.label := by
  have hedge : Unbroken l.relationship.cardinality.edge := edge_lacks _ _ (by decide)
  have hmargin : Unbroken "    " := by decide
  have hblank : Unbroken " " := by decide
  have hcolon : Unbroken " : \"" := by decide
  have hquote : Unbroken "\"" := by decide
  simp only [erLinkLine, unbroken_append, unbroken_upper hs.tableName, unbroken_upper ht.tableName,
    hedge, hmargin, hblank, hcolon, hquote, true_and, and_true, and_assoc]

theorem umlLinkLine_unbroken {l : Model.Link} (hs : Lint.isIdentifier l.relationship.source = true)
    (ht : Lint.isIdentifier l.relationship.target = true) : Unbroken (umlLinkLine l) ↔
      Lint.IsBareName l.relationship.source ∧ Lint.IsBareName l.relationship.target ∧
        Unbroken l.relationship.label := by
  have hedge : Unbroken l.relationship.cardinality.edge := edge_lacks _ _ (by decide)
  have hblank : Unbroken " " := by decide
  have hcolon : Unbroken " : " := by decide
  simp only [umlLinkLine, unbroken_append, ← Lint.isBareName_iff_unbroken hs,
    ← Lint.isBareName_iff_unbroken ht, hedge, hblank, hcolon, and_true, and_assoc]

/-! ## 5. Words of lines -/

/-- The words of a line. -/
def words (line : String) : List String := (pieces ' ' line).filter (· ≠ "")

theorem words_append (a b : String) : words (a ++ " " ++ b) = words a ++ words b := by
  unfold words
  rw [← List.filter_append]
  exact congrArg _ (pieces_append_cons ' ' a b)

theorem words_of_lacks {s : String} (h : Lacks ' ' s) (hs : s ≠ "") : words s = [s] := by
  unfold words
  rw [pieces_of_lacks h]
  exact List.filter_cons_of_pos (decide_eq_true hs)

theorem words_edge (c : Cardinality) : words c.edge = [c.edge] := by
  cases c <;> decide

/-- The second word of a line that starts with a name and an edge. -/
theorem second_word (name : String) (c : Cardinality) (rest : String) (hname : Lacks ' ' name)
    (hfull : name ≠ "") : (words (name ++ " " ++ c.edge ++ " " ++ rest))[1]? = some c.edge := by
  rw [words_append, words_append, words_of_lacks hname hfull, words_edge]
  rfl

theorem second_word_erLinkLine {l : Model.Link} (h : Lint.AcceptsNames l.source) :
    (words (erLinkLine l))[1]? = some l.relationship.cardinality.edge := by
  have hmargin : "    " = "   " ++ " " := rfl
  have hblanks : words "   " = [] := by decide
  have hline : erLinkLine l = "   " ++ " " ++ (upper l.source.tableName ++ " " ++
      l.relationship.cardinality.edge ++ " " ++ (upper l.target.tableName ++ " : \"" ++
        l.relationship.label ++ "\"")) := by
    unfold erLinkLine
    rw [hmargin]
    simp only [String.append_assoc]
  have hname : Lacks ' ' (upper l.source.tableName) :=
    (lacks_upper (Lint.ascii_of_isIdentifier h.tableName) (by decide)).mpr
      (Lint.lacks_of_isIdentifier h.tableName (by decide))
  rw [hline, words_append, hblanks, List.nil_append]
  exact second_word _ _ _ hname (upper_ne_empty h.tableName)

theorem second_word_umlLinkLine {l : Model.Link}
    (h : Lint.isIdentifier l.relationship.source = true) :
    (words (umlLinkLine l))[1]? = some l.relationship.cardinality.edge := by
  have hline : umlLinkLine l = l.relationship.source ++ " " ++ l.relationship.cardinality.edge ++
      " " ++ (l.relationship.target ++ " : " ++ l.relationship.label) := by
    unfold umlLinkLine
    simp only [String.append_assoc]
  rw [hline]
  exact second_word _ _ _ (Lint.lacks_of_isIdentifier h (by decide))
    (Lint.ne_empty_of_isIdentifier h)

/-! ## 6. One line for each link -/

theorem unbroken_of_mem_erSection {text l : String} (h : l ∈ erSection text) : Unbroken l := by
  have hline : l ∈ lines text := (List.dropWhile_suffix _).subset
    (List.mem_of_mem_tail (List.mem_of_mem_filter h))
  exact (lacks_of_mem_pieces hline).1

theorem unbroken_of_mem_umlSection {text l : String} (h : l ∈ umlSection text) : Unbroken l := by
  have hline : l ∈ lines text := (List.rtakeWhile_suffix _ _).subset
    ((List.takeWhile_prefix _).subset (List.mem_of_mem_filter h))
  exact (lacks_of_mem_pieces hline).1

/-- The entities at the ends of a link. -/
theorem acceptsNames_ends {raw : Value} {m : Model} (hm : Model.normalize raw = .ok m)
    (h : ∀ e ∈ m.entities, Lint.AcceptsNames e) {l : Model.Link} (hl : l ∈ m.resolved) :
    Lint.AcceptsNames l.source ∧ Lint.AcceptsNames l.target := by
  have hindexed := Model.isIndexed_of_normalize hm
  exact ⟨h _ (Model.source_mem hindexed hl).1, h _ (Model.target_mem hindexed hl).1⟩

/-- **One line for each link, but for line feeds.**  In a normalized model about which the lint has
neither errors nor warnings, the lines under the heading of the entity-relationship diagram are
those of the links, in their order, exactly if no label and no name of a table at an end breaks its
line; the lines between the blocks and the end of the class diagram likewise, with the names of
entities.  The second word of both lines of a link is the same edge. -/
theorem one_line_per_link_iff {raw : Value} {m : Model} {config : Config} {issues : List Lint.Issue}
    (hm : Model.normalize raw = .ok m) (hlint : Lint.everything m config = .ok issues)
    (hclean : ∀ i ∈ issues, i.severity = .info) :
    (erSection (mermaid m) = m.resolved.map erLinkLine ↔ ∀ l ∈ m.resolved,
      Lint.IsBareName l.source.tableName ∧ Lint.IsBareName l.target.tableName ∧
        Unbroken l.relationship.label) ∧
    (umlSection (plantUml m) = m.resolved.map umlLinkLine ↔ ∀ l ∈ m.resolved,
      Lint.IsBareName l.relationship.source ∧ Lint.IsBareName l.relationship.target ∧
        Unbroken l.relationship.label) ∧
    ∀ l ∈ m.resolved, (words (erLinkLine l))[1]? = some l.relationship.cardinality.edge ∧
      (words (umlLinkLine l))[1]? = some l.relationship.cardinality.edge := by
  obtain ⟨hentities, haccepted⟩ := Lint.passed hlint hclean
  have hends : ∀ l ∈ m.resolved, Lint.AcceptsNames l.source ∧ Lint.AcceptsNames l.target :=
    fun l hl => acceptsNames_ends hm haccepted hl
  have hnames : ∀ l ∈ m.resolved, Lint.isIdentifier l.relationship.source = true ∧
      Lint.isIdentifier l.relationship.target = true := by
    intro l hl
    have hindexed := Model.isIndexed_of_normalize hm
    rw [← (Model.source_mem hindexed hl).2, ← (Model.target_mem hindexed hl).2]
    exact ⟨(hends l hl).1.name, (hends l hl).2.name⟩
  refine ⟨?_, ?_, fun l hl => ?_⟩
  · rw [← forall₂_congr fun l hl => erLinkLine_unbroken (hends l hl).1 (hends l hl).2,
      ← List.forall_mem_map (f := erLinkLine) (P := Unbroken)]
    exact ⟨fun h l hl => unbroken_of_mem_erSection (h ▸ hl), erSection_mermaid haccepted⟩
  · rw [← forall₂_congr fun l hl => umlLinkLine_unbroken (hnames l hl).1 (hnames l hl).2,
      ← List.forall_mem_map (f := umlLinkLine) (P := Unbroken)]
    exact ⟨fun h l hl => unbroken_of_mem_umlSection (h ▸ hl), umlSection_plantUml hentities⟩
  · exact ⟨second_word_erLinkLine (hends l hl).1, second_word_umlLinkLine (hnames l hl).1⟩

/-- A relationship of users with users, under a label. -/
def selfLink (label : String) : Entries String Value :=
  [("from", .str "user"), ("to", .str "user"), ("type", .str "oneToMany"),
    ("description", .str label)]

/-- A user without fields, and its relationship with itself. -/
def linkedUser (label : String) : Value :=
  .obj [("entities", .list [.obj [("name", .str "user"), ("fields", .list [])]]),
    ("relationships", .list [.obj (selfLink label)])]

/-- The normal form of `linkedUser`. -/
def linkedModel (label : String) : Model :=
  .of [⟨"user", "users", some "", [⟨"id", "number", true, some "Unique identifier",
      some (.ofEntries [(.str "primary", .bool true), (.str "autoIncrement", .bool true)])⟩]⟩]
    [⟨"user", "user", some "oneToMany", some label, selfLink label⟩]

/-- A label of one line. -/
theorem one_line_per_link_iff_manages :
    ∃ issues, Model.normalize (linkedUser "manages") = .ok (linkedModel "manages") ∧
      Lint.everything (linkedModel "manages") {} = .ok issues ∧
      (∀ i ∈ issues, i.severity = .info) ∧
      erSection (mermaid (linkedModel "manages")) = ["    USERS ||--o\x7b USERS : \"manages\""] ∧
      umlSection (plantUml (linkedModel "manages")) = ["user ||--o\x7b user : manages"] := by
  have hm : Model.normalize (linkedUser "manages") = .ok (linkedModel "manages") := rfl
  obtain ⟨issues, hlint, hclean⟩ := any_toOption.mp
    (show (Lint.everything (linkedModel "manages") {}).toOption.any
      (fun issues => ∀ i ∈ issues, i.severity = .info) = true by decide +kernel)
  obtain ⟨hmermaid, hplantUml, -⟩ := one_line_per_link_iff hm hlint hclean
  have hbare : ∀ name ∈ ["user", "users"], Lint.IsBareName name := by
    intro name hname
    rw [← Lint.isBareList_toList]
    exact (by decide : ∀ name ∈ ["user", "users"], Lint.isBareList name.toList = true) name hname
  refine ⟨issues, hm, hlint, hclean, ?_, ?_⟩
  · rw [hmermaid.mpr]
    · decide +kernel
    · exact List.forall_mem_singleton.mpr ⟨hbare _ (by decide), hbare _ (by decide), by decide⟩
  · rw [hplantUml.mpr]
    · decide +kernel
    · exact List.forall_mem_singleton.mpr ⟨hbare _ (by decide), hbare _ (by decide), by decide⟩

/-- A label of two lines passes the lint, and one relationship becomes two lines. -/
theorem two_lines_of_link :
    ∃ issues, Model.normalize (linkedUser "is\nmanager of") = .ok (linkedModel "is\nmanager of") ∧
      Lint.everything (linkedModel "is\nmanager of") {} = .ok issues ∧
      (∀ i ∈ issues, i.severity = .info) ∧
      (linkedModel "is\nmanager of").resolved.length = 1 ∧
      erSection (mermaid (linkedModel "is\nmanager of")) =
        ["    USERS ||--o\x7b USERS : \"is", "manager of\""] ∧
      umlSection (plantUml (linkedModel "is\nmanager of")) =
        ["user ||--o\x7b user : is", "manager of"] := by
  obtain ⟨issues, hlint, hclean⟩ := any_toOption.mp
    (show (Lint.everything (linkedModel "is\nmanager of") {}).toOption.any
      (fun issues => ∀ i ∈ issues, i.severity = .info) = true by decide +kernel)
  exact ⟨issues, rfl, hlint, hclean, rfl, by decide +kernel, by decide +kernel⟩

end Diagram

end Schemata
