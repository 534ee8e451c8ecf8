import Mathlib.Data.List.Find
import Schemata.Proofs.Interface
import Schemata.Proofs.Names
import Schemata.Proofs.Resolution
/-!
# The paths of the interface

The paths are a map that is filled twice: entities put theirs, overwriting; relationships add
theirs, unless they are there.  The rules of the lint that look at table names make both harmless.

* `paths_eq`: the map as one `ofList` of the entities' paths and one `addAll` of the links'.
* `linkPath_inj`, `slashes_collectionPath`, `slashes_recordPath`, `slashes_linkPath`: a table name
  without a slash can be read back from a path, and so can the kind of the path.
* `cleanTables_of_lint`: what the lint leaves uncommented has distinct table names without slashes.
* `relationshipsFrom_pathTaken`: the loop of the lint keeps the first index of every path, which is
  the place where the generator keeps the first operation.
* `paths_of_clean_tables`: the paths of a model whose tables the lint accepts, one by one, and the
  relationships that the lint reports for having none.
-/

namespace Schemata

open OpenApi
open Value (textKeys)

/-! ## 1. Names without slashes -/

namespace Lint

theorem mem_withoutFinalBreak {c : Char} {cs : List Char} (h : c ∈ cs) :
    c ∈ withoutFinalBreak cs ∨ c = '\n' := by
  unfold withoutFinalBreak
  split
  · rename_i hlast
    obtain ⟨init, rfl⟩ := List.getLast?_eq_some_iff.mp hlast
    rw [List.dropLast_concat]
    exact (List.mem_append.mp h).imp_right List.mem_singleton.mp
  · exact Or.inl h

theorem slash_not_mem_of_isIdentifier {s : String} (h : isIdentifier s = true) :
    '/' ∉ s.toList := by
  intro hmem
  rcases mem_withoutFinalBreak hmem with hin | hbreak
  · unfold isIdentifier at h
    split at h
    · cases h
    · rename_i c rest hcs
      rw [hcs] at hin
      rw [Bool.and_eq_true, List.all_eq_true] at h
      rcases List.mem_cons.mp hin with rfl | hrest
      · exact absurd h.1 (by decide)
      · exact absurd (h.2 _ hrest) (by decide)
  · exact absurd hbreak (by decide)

end Lint

/-! ## 2. Reading a path back -/

/-- The first separator tells where a list was cut. -/
theorem eq_of_append_cons_eq {α : Type} {c : α} : ∀ {a a' rest rest' : List α}, c ∉ a → c ∉ a' →
    a ++ c :: rest = a' ++ c :: rest' → a = a' ∧ rest = rest'
  | [], [], _, _, _, _, h => ⟨rfl, (List.cons.inj h).2⟩
  | [], _ :: _, _, _, _, h', h => absurd ((List.cons.inj h).1 ▸ List.mem_cons_self) h'
  | _ :: _, [], _, _, hc, _, h => absurd ((List.cons.inj h).1 ▸ List.mem_cons_self) hc
  | x :: a, y :: a', _, _, hc, hc', h => by
    obtain ⟨rfl, htail⟩ := List.cons.inj h
    obtain ⟨rfl, hrest⟩ := eq_of_append_cons_eq (fun hm => hc (List.mem_cons_of_mem _ hm))
      (fun hm => hc' (List.mem_cons_of_mem _ hm)) htail
    exact ⟨rfl, hrest⟩

/-- The number of slashes in a text. -/
def slashes (s : String) : Nat := s.toList.count '/'

theorem toList_collectionPath (e : Entity) :
    (collectionPath e).toList = '/' :: e.tableName.toList := by
  rw [collectionPath, String.toList_append]
  rfl

theorem toList_recordPath (e : Entity) :
    (recordPath e).toList = '/' :: (e.tableName.toList ++ ['/', '\x7b', 'i', 'd', '\x7d']) := by
  rw [recordPath, String.toList_append, toList_collectionPath]
  rfl

theorem toList_linkPath (s t : Entity) :
    (linkPath s t).toList
      = '/' :: (s.tableName.toList ++
          '/' :: (['\x7b', 'i', 'd', '\x7d', '/'] ++ t.tableName.toList)) := by
  rw [linkPath, String.toList_append, String.toList_append, toList_recordPath]
  simp

theorem slashes_collectionPath {e : Entity} (h : '/' ∉ e.tableName.toList) :
    slashes (collectionPath e) = 1 := by
  rw [slashes, toList_collectionPath, List.count_cons, List.count_eq_zero.mpr h]
  rfl

theorem slashes_recordPath {e : Entity} (h : '/' ∉ e.tableName.toList) :
    slashes (recordPath e) = 2 := by
  rw [slashes, toList_recordPath, List.count_cons, List.count_append, List.count_eq_zero.mpr h]
  rfl

theorem slashes_linkPath {s t : Entity} (hs : '/' ∉ s.tableName.toList)
    (ht : '/' ∉ t.tableName.toList) : slashes (linkPath s t) = 3 := by
  rw [slashes, toList_linkPath, List.count_cons, List.count_append, List.count_cons,
    List.count_append, List.count_eq_zero.mpr hs, List.count_eq_zero.mpr ht]
  rfl

theorem collectionPath_inj {e e' : Entity} :
    collectionPath e = collectionPath e' ↔ e.tableName = e'.tableName := by
  rw [← String.toList_inj, toList_collectionPath, toList_collectionPath, List.cons.injEq,
    ← String.toList_inj]
  exact and_iff_right rfl

theorem recordPath_inj {e e' : Entity} :
    recordPath e = recordPath e' ↔ e.tableName = e'.tableName := by
  rw [← String.toList_inj, toList_recordPath, toList_recordPath, List.cons.injEq,
    List.append_left_inj, ← String.toList_inj]
  exact and_iff_right rfl

theorem collectionPath_ne_recordPath (e : Entity) : collectionPath e ≠ recordPath e := by
  intro h
  have hlen := congrArg (fun s => s.toList.length) h
  simp [toList_collectionPath, toList_recordPath] at hlen

/-- The tables at the ends of a link. -/
def Model.Link.tables (l : Model.Link) : String × String := (l.source.tableName, l.target.tableName)

/-- **A link's path gives its tables back.**  The source ends at the second slash, which is the
first one behind it if its name has none. -/
theorem linkPath_inj {l l' : Model.Link} (h : '/' ∉ l.source.tableName.toList)
    (h' : '/' ∉ l'.source.tableName.toList) :
    linkPath l.source l.target = linkPath l'.source l'.target ↔ l.tables = l'.tables := by
  constructor
  · intro hpath
    have hlists := congrArg String.toList hpath
    rw [toList_linkPath, toList_linkPath, List.cons.injEq] at hlists
    obtain ⟨hsource, hrest⟩ := eq_of_append_cons_eq h h' hlists.2
    exact Prod.ext (String.toList_inj.mp hsource)
      (String.toList_inj.mp (List.append_cancel_left hrest))
  · intro htables
    obtain ⟨hsource, htarget⟩ := Prod.mk.inj htables
    rw [linkPath, linkPath, recordPath, recordPath, collectionPath, collectionPath, hsource,
      htarget]

/-! ## 3. The map of paths -/

/-- What stands under the path of a collection. -/
def collectionItem (config : Config) (e : Entity) : Value :=
  .obj [("get", listOperation config e), ("post", createOperation e)]

/-- What stands under the path of a record. -/
def recordItem (e : Entity) : Value :=
  .obj [("get", readOperation e), ("put", updateOperation e), ("delete", deleteOperation e)]

/-- What stands under the path of a link. -/
def linkItem (l : Model.Link) : Value := .obj [("get", linkOperation l)]

/-- The path of a link with what stands under it. -/
def linkEntry (l : Model.Link) : String × Value := (linkPath l.source l.target, linkItem l)

theorem entityPaths_eq (config : Config) (e : Entity) :
    entityPaths config e
      = [(collectionPath e, collectionItem config e), (recordPath e, recordItem e)] := by
  refine Entries.ofList_of_nodup ?_
  simp [collectionPath_ne_recordPath]

/-- **The paths.**  Entities put theirs, the later ones overwriting the earlier; links add theirs
where nothing is. -/
theorem paths_eq (config : Config) (m : Model) :
    paths config m
      = Entries.addAll (Entries.ofList (m.entities.flatMap (entityPaths config)))
          (m.resolved.map linkEntry) := by
  rw [Entries.addAll, List.foldl_map, Entries.ofList_eq_putAll, ← Entries.foldl_putAll]
  rfl

theorem mem_paths {config : Config} {m : Model} {p : String × Value} (h : p ∈ paths config m) :
    (∃ e ∈ m.entities, p = (collectionPath e, collectionItem config e) ∨
      p = (recordPath e, recordItem e)) ∨ ∃ l ∈ m.resolved, p = linkEntry l := by
  rw [paths_eq] at h
  rcases Entries.mem_addAll h with hlink | hentity
  · obtain ⟨l, hl, rfl⟩ := List.mem_map.mp hlink
    exact Or.inr ⟨l, hl, rfl⟩
  · obtain ⟨e, he, hp⟩ := List.mem_flatMap.mp (Entries.mem_ofList hentity)
    refine Or.inl ⟨e, he, ?_⟩
    rw [entityPaths_eq] at hp
    simpa using hp

/-! ## 4. Clean tables -/

/-- The two paths of an entity. -/
def pathsOf (e : Entity) : List String := [collectionPath e, recordPath e]

/-- Tables with names of their own, in which there is no slash. -/
structure CleanTables (m : Model) : Prop where
  distinct : (m.entities.map Entity.tableName).Nodup
  slashFree : ∀ e ∈ m.entities, '/' ∉ e.tableName.toList

theorem slashes_of_mem_pathsOf {e : Entity} (h : '/' ∉ e.tableName.toList) {p : String}
    (hp : p ∈ pathsOf e) :
    p = collectionPath e ∧ slashes p = 1 ∨ p = recordPath e ∧ slashes p = 2 := by
  simp only [pathsOf, List.mem_cons, List.not_mem_nil, or_false] at hp
  rcases hp with rfl | rfl
  · exact Or.inl ⟨rfl, slashes_collectionPath h⟩
  · exact Or.inr ⟨rfl, slashes_recordPath h⟩

/-- Two entities with a path in common have one table. -/
theorem tableName_eq_of_mem_pathsOf {e e' : Entity} (h : '/' ∉ e.tableName.toList)
    (h' : '/' ∉ e'.tableName.toList) {p : String} (hp : p ∈ pathsOf e) (hp' : p ∈ pathsOf e') :
    e.tableName = e'.tableName := by
  rcases slashes_of_mem_pathsOf h hp with ⟨he, hn⟩ | ⟨he, hn⟩ <;>
    rcases slashes_of_mem_pathsOf h' hp' with ⟨he', hn'⟩ | ⟨he', hn'⟩
  · exact collectionPath_inj.mp (he ▸ he')
  · exact absurd (hn.symm.trans hn') (by decide)
  · exact absurd (hn.symm.trans hn') (by decide)
  · exact recordPath_inj.mp (he ▸ he')

theorem entityKeys_nodup {m : Model} (h : CleanTables m) : (m.entities.flatMap pathsOf).Nodup := by
  rw [List.nodup_flatMap]
  constructor
  · intro e _
    simp [pathsOf, collectionPath_ne_recordPath]
  · have hdistinct := List.pairwise_map.mp h.distinct
    refine List.Pairwise.imp_of_mem (fun {e e'} he he' hne => ?_) hdistinct
    intro p hp hp'
    exact hne (tableName_eq_of_mem_pathsOf (h.slashFree e he) (h.slashFree e' he') hp hp')

theorem keys_entityPaths (config : Config) (m : Model) :
    Entries.keys (m.entities.flatMap (entityPaths config)) = m.entities.flatMap pathsOf := by
  rw [Entries.keys, List.map_flatMap]
  congr 1
  funext e
  rw [entityPaths_eq]
  rfl

theorem slashFree_ends {m : Model} (h : CleanTables m) (hk : m.IsIndexed)
    {l : Model.Link} (hl : l ∈ m.resolved) :
    '/' ∉ l.source.tableName.toList ∧ '/' ∉ l.target.tableName.toList :=
  ⟨h.slashFree _ (Model.source_mem hk hl).1, h.slashFree _ (Model.target_mem hk hl).1⟩

/-- No path of a link is one of an entity. -/
theorem linkPath_not_mem {m : Model} (h : CleanTables m) (hk : m.IsIndexed)
    {l : Model.Link} (hl : l ∈ m.resolved) :
    linkPath l.source l.target ∉ m.entities.flatMap pathsOf := by
  intro hmem
  obtain ⟨e, he, hp⟩ := List.mem_flatMap.mp hmem
  obtain ⟨hs, ht⟩ := slashFree_ends h hk hl
  have hthree := slashes_linkPath hs ht
  rcases slashes_of_mem_pathsOf (h.slashFree e he) hp with ⟨-, hn⟩ | ⟨-, hn⟩
  · exact absurd (hn.symm.trans hthree) (by decide)
  · exact absurd (hn.symm.trans hthree) (by decide)

/-! ## 5. Keys and look-up -/

/-- The path between two tables. -/
def tablesPath (t : String × String) : String := "/" ++ t.1 ++ "/\x7bid\x7d/" ++ t.2

theorem linkPath_eq (l : Model.Link) : linkPath l.source l.target = tablesPath l.tables := by
  have hcut : "/\x7bid\x7d/" = "/\x7bid\x7d" ++ "/" := rfl
  rw [linkPath, recordPath, collectionPath, tablesPath, hcut, ← String.append_assoc]
  rfl

/-- The pairs of tables that relationships link, each where it first occurs. -/
def Model.linkedTables (m : Model) : List (String × String) :=
  (m.resolved.map Model.Link.tables).eraseDups

theorem linkPaths_eraseDups {m : Model} (h : CleanTables m) (hk : m.IsIndexed) :
    (m.resolved.map fun l => linkPath l.source l.target).eraseDups
      = m.linkedTables.map tablesPath := by
  have hmap : (m.resolved.map fun l => linkPath l.source l.target)
      = (m.resolved.map Model.Link.tables).map tablesPath := by
    rw [List.map_map]
    exact List.map_congr_left fun l _ => linkPath_eq l
  rw [hmap, Model.linkedTables, eraseDups_map]
  intro t ht t' ht' heq
  obtain ⟨l, hl, rfl⟩ := List.mem_map.mp ht
  obtain ⟨l', hl', rfl⟩ := List.mem_map.mp ht'
  rw [← linkPath_eq, ← linkPath_eq] at heq
  exact (linkPath_inj (slashFree_ends h hk hl).1 (slashFree_ends h hk hl').1).mp heq

theorem ofList_entityPaths (config : Config) {m : Model} (h : CleanTables m) :
    Entries.ofList (m.entities.flatMap (entityPaths config))
      = m.entities.flatMap (entityPaths config) := by
  refine Entries.ofList_of_nodup ?_
  rw [← Entries.keys, keys_entityPaths]
  exact entityKeys_nodup h

/-- The keys of the paths: two for every entity, then one for every linked pair of tables. -/
theorem keys_paths (config : Config) {m : Model} (h : CleanTables m) (hk : m.IsIndexed) :
    (paths config m).keys = m.entities.flatMap pathsOf ++ m.linkedTables.map tablesPath := by
  have hkeys : Entries.keys (m.resolved.map linkEntry)
      = m.resolved.map fun l => linkPath l.source l.target := by
    rw [Entries.keys, List.map_map]
    rfl
  have hnew : (Entries.keys (m.resolved.map linkEntry)).filter
      (fun k => !(m.entities.flatMap pathsOf).contains k)
        = m.resolved.map fun l => linkPath l.source l.target := by
    rw [hkeys, List.filter_eq_self]
    intro p hp
    obtain ⟨l, hl, rfl⟩ := List.mem_map.mp hp
    simpa using linkPath_not_mem h hk hl
  rw [paths_eq, ofList_entityPaths config h, Entries.keys_addAll, keys_entityPaths, hnew,
    linkPaths_eraseDups h hk]

theorem keys_paths_nodup (config : Config) {m : Model} (h : CleanTables m) :
    (paths config m).keys.Nodup := by
  rw [paths_eq, ofList_entityPaths config h]
  refine Entries.keys_addAll_nodup ?_ _
  rw [keys_entityPaths]
  exact entityKeys_nodup h

/-- What entities put is still there in the end. -/
theorem lookup_paths_entity (config : Config) {m : Model} (h : CleanTables m) {e : Entity}
    (he : e ∈ m.entities) :
    (paths config m).lookup (collectionPath e) = some (collectionItem config e) ∧
      (paths config m).lookup (recordPath e) = some (recordItem e) := by
  have hput : ∀ p ∈ entityPaths config e, (paths config m).lookup p.1 = some p.2 := by
    intro p hp
    have hnodup : (Entries.keys (m.entities.flatMap (entityPaths config))).Nodup := by
      rw [keys_entityPaths]
      exact entityKeys_nodup h
    rw [paths_eq, ofList_entityPaths config h, Entries.lookup_addAll,
      Entries.lookup_of_mem hnodup (List.mem_flatMap.mpr ⟨e, he, hp⟩)]
    rfl
  rw [entityPaths_eq] at hput
  exact ⟨hput _ List.mem_cons_self, hput _ (List.mem_cons_of_mem _ List.mem_cons_self)⟩

/-- The first link between two tables, with the index of its relationship. -/
def Model.firstBetween? (m : Model) (tables : String × String) : Option (Nat × Model.Link) :=
  m.indexedLinks.find? fun x => x.2.tables = tables

/-- A look-up by path among links is one by tables. -/
theorem find?_linkPath {m : Model} (h : CleanTables m) (hk : m.IsIndexed)
    {l : Model.Link} (hl : l ∈ m.resolved) :
    m.indexedLinks.find? (fun x => linkPath l.source l.target == linkPath x.2.source x.2.target)
      = m.firstBetween? l.tables := by
  refine List.find?_congr fun x hx => ?_
  have hx' : x.2 ∈ m.resolved := m.indexedLinks_links ▸ List.mem_map_of_mem hx
  rw [Bool.eq_iff_iff, beq_iff_eq, decide_eq_true_eq,
    linkPath_inj (slashFree_ends h hk hl).1 (slashFree_ends h hk hx').1]
  exact eq_comm

/-- Under the path of a link stands the operation of the first link between its tables. -/
theorem lookup_paths_link (config : Config) {m : Model} (h : CleanTables m)
    (hk : m.IsIndexed) {l : Model.Link} (hl : l ∈ m.resolved) :
    (paths config m).lookup (linkPath l.source l.target)
      = (m.firstBetween? l.tables).map fun x => linkItem x.2 := by
  have hbase : (m.entities.flatMap (entityPaths config)).lookup (linkPath l.source l.target)
      = none := by
    refine Entries.lookup_of_not_mem ?_
    rw [keys_entityPaths]
    exact linkPath_not_mem h hk hl
  have hlinks : m.resolved.map linkEntry
      = m.indexedLinks.map fun x => (linkPath x.2.source x.2.target, linkItem x.2) := by
    rw [← m.indexedLinks_links, List.map_map]
    rfl
  rw [paths_eq, ofList_entityPaths config h, Entries.lookup_addAll, hbase, Option.none_or, hlinks,
    Entries.lookup_map, find?_linkPath h hk hl]

/-! ## 6. What the lint says of tables and paths -/

namespace Lint

/-- Whether an issue is about the name of a table. -/
def isAboutTable (i : Issue) : Bool :=
  i.code = "DUPLICATE_TABLE_NAME" || i.code = "INVALID_TABLE_NAME"

/-- Entities about whose tables there is nothing to say have tables of their own, none among those
that came before. -/
theorem entityNamesFrom_clean : ∀ (es : List Entity) (names tables : List String),
    (∀ i ∈ entityNamesFrom names tables es, isAboutTable i = false) →
    (es.map Entity.tableName).Nodup ∧ (∀ e ∈ es, e.tableName ∉ tables) ∧
      ∀ e ∈ es, isIdentifier e.tableName = true
  | [], _, _, _ => by simp
  | e :: rest, names, tables, h => by
    simp only [entityNamesFrom, List.forall_mem_append, forall_mem_when] at h
    obtain ⟨⟨⟨⟨-, htable⟩, -⟩, hform⟩, hrest⟩ := h
    obtain ⟨hnodup, hnew, hforms⟩ := entityNamesFrom_clean rest _ _ hrest
    have hfresh : e.tableName ∉ tables := fun hmem => by
      have hissue := htable (by simpa using hmem)
      simp [isAboutTable, Issue.code] at hissue
    have hident : isIdentifier e.tableName = true := by
      cases hid : isIdentifier e.tableName with
      | true => rfl
      | false =>
        have hissue := hform (by rw [hid]; rfl)
        simp [isAboutTable, Issue.code] at hissue
    obtain ⟨htables, hseen⟩ := nodup_cons_iff.mpr ⟨hfresh, hnodup, hnew⟩
    exact ⟨htables, hseen, List.forall_mem_cons.mpr ⟨hident, hforms⟩⟩

theorem cleanTables_of_lint {m : Model} (h : ∀ i ∈ entityNames m, isAboutTable i = false) :
    CleanTables m := by
  obtain ⟨hnodup, -, hform⟩ := entityNamesFrom_clean m.entities [] [] h
  exact ⟨hnodup, fun e he => slash_not_mem_of_isIdentifier (hform e he)⟩

/-- Whether an issue says that a path is taken. -/
def isPathTaken (i : Issue) : Bool := i.code = "DUPLICATE_RELATIONSHIP_PATH"

/-- The issue of a link, given the index of the relationship that has its path. -/
def pathIssue (keeper? : String → Option Nat) (x : Nat × Model.Link) : Option Issue :=
  (keeper? (linkPath x.2.source x.2.target)).bind fun first =>
    if first = x.1 then none
    else some (.pathTaken x.1 x.2.relationship (linkPath x.2.source x.2.target) first)

/-- The paths of links with the indexes of their relationships. -/
def numberedPaths (links : List (Nat × Model.Link)) : List (String × Nat) :=
  links.map fun x => (linkPath x.2.source x.2.target, x.1)

theorem filter_unknownCardinality (index : Nat) (r : Relationship) (more : List Issue) :
    (when (r.cardinality = .unknown) (.unknownCardinality index r) ++ more).filter isPathTaken
      = more.filter isPathTaken := by
  unfold when
  split <;> simp [isPathTaken, Issue.code]

/-- **The loop of the lint.**  The paths it remembers are those of the links it has passed, under
the index of the first: looking a path up among them and all links still to come gives the
relationship that keeps it. -/
theorem relationshipsFrom_pathTaken (m : Model) : ∀ (rs : List Relationship) (index : Nat)
    (taken : List (String × Nat)), (∀ p ∈ taken, p.2 < index) →
    (relationshipsFrom m index taken rs).filter isPathTaken
      = (m.linksFrom index rs).filterMap
          (pathIssue fun p => (taken ++ numberedPaths (m.linksFrom index rs)).lookup p)
  | [], _, _, _ => rfl
  | r :: rest, index, taken, htaken => by
    have hlater : ∀ p ∈ taken, p.2 < index + 1 := fun p hp => Nat.lt_succ_of_lt (htaken p hp)
    rw [Model.linksFrom_cons]
    simp only [relationshipsFrom]
    cases hr : m.resolve r with
    | none =>
      have hlink : m.link? r = none := by rw [Model.link?, hr]; rfl
      simp only [hlink]
      rw [filter_unknownCardinality, List.filter_cons_of_neg (by simp [isPathTaken, Issue.code]),
        relationshipsFrom_pathTaken m rest (index + 1) taken hlater]
      rfl
    | some ends =>
      obtain ⟨s, t⟩ := ends
      have hlink : m.link? r = some ⟨r, s, t⟩ := by rw [Model.link?, hr]; rfl
      simp only [hlink]
      cases hpath : taken.lookup (linkPath s t) with
      | some first =>
        -- Taken before: the link is reported, and its own number is never looked up.
        obtain ⟨before, after, hsplit, -⟩ := List.lookup_eq_some_iff.mp hpath
        have hearlier : first < index :=
          htaken (linkPath s t, first) (by rw [hsplit]; exact List.mem_append_cons_self)
        have hsame : ∀ p, (taken ++ numberedPaths ((index, ⟨r, s, t⟩) ::
            m.linksFrom (index + 1) rest)).lookup p
              = (taken ++ numberedPaths (m.linksFrom (index + 1) rest)).lookup p := by
          intro p
          rw [numberedPaths, List.map_cons, List.lookup_append, List.lookup_append,
            List.lookup_cons]
          cases hp : p == linkPath s t with
          | true => rw [beq_iff_eq.mp hp, hpath]; rfl
          | false => rfl
        have hissue : pathIssue (fun p => (taken ++ numberedPaths ((index, ⟨r, s, t⟩) ::
            m.linksFrom (index + 1) rest)).lookup p) (index, ⟨r, s, t⟩)
              = some (.pathTaken index r (linkPath s t) first) := by
          simp only [pathIssue, List.lookup_append, hpath]
          exact if_neg (Nat.ne_of_lt hearlier)
        rw [filter_unknownCardinality, List.filter_cons_of_pos (by simp [isPathTaken, Issue.code]),
          relationshipsFrom_pathTaken m rest (index + 1) taken hlater]
        simp only [Option.map_some, Option.toList_some, List.singleton_append]
        rw [List.filterMap_cons_some hissue]
        simp only [hsame]
      | none =>
        -- The first link with this path keeps it: looking it up gives its own number.
        have hkept : ∀ p ∈ taken ++ [(linkPath s t, index)], p.2 < index + 1 := by
          intro p hp
          rcases List.mem_append.mp hp with hold | hnew
          · exact hlater p hold
          · rw [List.mem_singleton.mp hnew]
            exact Nat.lt_succ_self index
        have hissue : pathIssue (fun p => (taken ++ numberedPaths ((index, ⟨r, s, t⟩) ::
            m.linksFrom (index + 1) rest)).lookup p) (index, ⟨r, s, t⟩) = none := by
          simp only [pathIssue, numberedPaths, List.map_cons, List.lookup_append, hpath,
            List.lookup_cons_self]
          exact if_pos rfl
        rw [filter_unknownCardinality,
          relationshipsFrom_pathTaken m rest (index + 1) _ hkept]
        simp only [Option.map_some, Option.toList_some, List.singleton_append]
        rw [List.filterMap_cons_none hissue, List.append_assoc]
        rfl

/-- The paths of links by the first relationship between the same tables. -/
theorem numberedPaths_lookup {m : Model} (h : CleanTables m) (hk : m.IsIndexed)
    {l : Model.Link} (hl : l ∈ m.resolved) :
    (numberedPaths m.indexedLinks).lookup (linkPath l.source l.target)
      = (m.firstBetween? l.tables).map Prod.fst := by
  rw [numberedPaths, Entries.lookup_map, find?_linkPath h hk hl]

/-- The report on a link whose path has gone to an earlier relationship, which it names. -/
def laterPath (m : Model) (x : Nat × Model.Link) : Option Issue :=
  (m.firstBetween? x.2.tables).bind fun first =>
    if first.1 = x.1 then none
    else some (.pathTaken x.1 x.2.relationship (linkPath x.2.source x.2.target) first.1)

theorem relationships_pathTaken {m : Model} (h : CleanTables m) (hk : m.IsIndexed) :
    (relationships m).filter isPathTaken = m.indexedLinks.filterMap (laterPath m) := by
  rw [relationships, relationshipsFrom_pathTaken m m.relationships 0 [] (by simp)]
  refine List.filterMap_congr fun x hx => ?_
  have hx' : x.2 ∈ m.resolved := m.indexedLinks_links ▸ List.mem_map_of_mem hx
  rw [pathIssue, List.nil_append, ← Model.indexedLinks, numberedPaths_lookup h hk hx', laterPath,
    Option.bind_map]
  rfl

end Lint

/-! ## 7. Paths of a linted model -/

theorem length_paths (config : Config) {m : Model} (h : CleanTables m) (hk : m.IsIndexed) :
    (paths config m).length = 2 * m.entities.length + m.linkedTables.length := by
  have hkeys := congrArg List.length (keys_paths config h hk)
  have hlength : (m.entities.flatMap pathsOf).length = 2 * m.entities.length := by
    rw [List.length_flatMap]
    simp [pathsOf, Nat.mul_comm]
  rwa [List.length_append, List.length_map, hlength, Entries.keys, List.length_map] at hkeys

theorem firstBetween?_isSome {m : Model} {l : Model.Link} (hl : l ∈ m.resolved) :
    ∃ x ∈ m.indexedLinks, m.firstBetween? l.tables = some x ∧ x.2.tables = l.tables := by
  rw [← m.indexedLinks_links] at hl
  obtain ⟨y, hy, rfl⟩ := List.mem_map.mp hl
  have hsome : (m.firstBetween? y.2.tables).isSome = true := by
    rw [Model.firstBetween?, List.find?_isSome]
    exact ⟨y, hy, by simp⟩
  obtain ⟨x, hx⟩ := Option.isSome_iff_exists.mp hsome
  refine ⟨x, List.mem_of_find?_eq_some hx, hx, ?_⟩
  simpa using List.find?_some hx

/-- **Paths of a linted model.**  Where the lint has nothing to say about the tables of a normalized
model, no path is written twice: the paths are two for every entity and one for every pair of linked
tables, under which stands the operation of the first relationship between them, and the later ones
are those that the lint reports, each with the one that has its path. -/
theorem paths_of_clean_tables {raw api : Value} {m : Model} {config : Config} {clock : Clock}
    (hm : Model.normalize raw = .ok m)
    (hlint : ∀ i ∈ Lint.entityNames m, Lint.isAboutTable i = false)
    (ha : OpenApi.generate config clock m = .ok api) :
    api.keysAt? ["openApiSpec", "paths"]
      = some (textKeys (m.entities.flatMap pathsOf ++ m.linkedTables.map tablesPath)) ∧
    (m.entities.flatMap pathsOf ++ m.linkedTables.map tablesPath).Nodup ∧
    api.at? ["summary", "totalEndpoints"]
      = some (.nat (2 * m.entities.length + m.linkedTables.length)) ∧
    (∀ e ∈ m.entities,
      api.at? ["openApiSpec", "paths", collectionPath e] = some (collectionItem config e) ∧
      api.at? ["openApiSpec", "paths", recordPath e] = some (recordItem e)) ∧
    (∀ l ∈ m.resolved, ∃ first ∈ m.indexedLinks, m.firstBetween? l.tables = some first ∧
      first.2.tables = l.tables ∧
      api.at? ["openApiSpec", "paths", linkPath l.source l.target] = some (linkItem first.2)) ∧
    (Lint.relationships m).filter Lint.isPathTaken
      = m.indexedLinks.filterMap (Lint.laterPath m) := by
  have hk := Model.isIndexed_of_normalize hm
  have hclean := Lint.cleanTables_of_lint hlint
  obtain ⟨stamp, spec, -, hd⟩ := exists_description ha
  refine ⟨?_, ?_, ?_, ?_, ?_, Lint.relationships_pathTaken hclean hk⟩
  · rw [Value.keysAt?, hd.at?_spec, ← Value.keysAt?, Value.keysAt?_of_at? hd.pathsAt,
      keys_paths config hclean hk]
  · rw [← keys_paths config hclean hk]
    exact keys_paths_nodup config hclean
  · rw [hd.endpointsAt, length_paths config hclean hk]
  · intro e he
    rw [hd.at?_path, hd.at?_path]
    exact lookup_paths_entity config hclean he
  · intro l hl
    obtain ⟨first, hmem, hfirst, htables⟩ := firstBetween?_isSome hl
    refine ⟨first, hmem, hfirst, htables, ?_⟩
    rw [hd.at?_path, lookup_paths_link config hclean hk hl, hfirst]
    rfl

/-- Users and orders.  A relationship from users to themselves and one to orders are repeated, and
another one starts nowhere. -/
def repeatedLinks : Value :=
  .obj [("entities", .list [entity "user" "users", entity "order" "orders"]),
    ("relationships", .list [link "user" "user", link "user" "order", link "ghost" "user",
      link "user" "user", link "order" "user", link "user" "order"])]
where
  entity (name table : String) : Value :=
    .obj [("name", .str name), ("tableName", .str table), ("fields", .list [])]
  link (source target : String) : Value := .obj [("from", .str source), ("to", .str target)]

theorem paths_of_clean_tables_repeatedLinks :
    ∃ m api, Model.normalize repeatedLinks = .ok m ∧
      (∀ i ∈ Lint.entityNames m, Lint.isAboutTable i = false) ∧
      OpenApi.generate {} .standard m = .ok api ∧
      api.keysAt? ["openApiSpec", "paths"]
        = some (textKeys ["/users", "/users/\x7bid\x7d", "/orders", "/orders/\x7bid\x7d",
            "/users/\x7bid\x7d/users", "/users/\x7bid\x7d/orders", "/orders/\x7bid\x7d/users"]) ∧
      api.at? ["summary", "totalEndpoints"] = some (.nat 7) ∧
      ((Lint.relationships m).filter Lint.isPathTaken).map Lint.Issue.message
        = ["Relationship #3 maps to existing path /users/\x7bid\x7d/users; relationship #0 is kept.",
          "Relationship #5 maps to existing path /users/\x7bid\x7d/orders; " ++
            "relationship #1 is kept."] := by
  obtain ⟨m, hm, hlint, hgenerates, hkeys, htotal, hreports⟩ := any_toOption.mp
    (show (Model.normalize repeatedLinks).toOption.any (fun m =>
      (∀ i ∈ Lint.entityNames m, Lint.isAboutTable i = false) ∧
      (OpenApi.generate {} .standard m).toBool = true ∧
      m.entities.flatMap pathsOf ++ m.linkedTables.map tablesPath
        = ["/users", "/users/\x7bid\x7d", "/orders", "/orders/\x7bid\x7d",
            "/users/\x7bid\x7d/users", "/users/\x7bid\x7d/orders", "/orders/\x7bid\x7d/users"] ∧
      2 * m.entities.length + m.linkedTables.length = 7 ∧
      (m.indexedLinks.filterMap (Lint.laterPath m)).map Lint.Issue.message
        = ["Relationship #3 maps to existing path /users/\x7bid\x7d/users; relationship #0 is kept.",
          "Relationship #5 maps to existing path /users/\x7bid\x7d/orders; " ++
            "relationship #1 is kept."]) = true by decide +kernel)
  obtain ⟨api, hapi⟩ := toBool_eq_true.mp hgenerates
  obtain ⟨hpaths, -, hendpoints, -, -, hissues⟩ := paths_of_clean_tables hm hlint hapi
  rw [hkeys] at hpaths
  rw [htotal] at hendpoints
  exact ⟨m, api, hm, hlint, hapi, hpaths, hendpoints, hissues ▸ hreports⟩

end Schemata
