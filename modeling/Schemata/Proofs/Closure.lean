import Schemata.Proofs.Paths
/-!
# References of the interface

What stands under the paths refers to schemas, to responses and to tags by name.  The entities fill
the schemas and the tags in loops of their own; all of them keep every name.

* `Closed`: a document has what its paths refer to.
* `RefersTo`: a part of a document that refers to certain names only; `RefersTo.collectionItem`,
  `RefersTo.recordItem` and `RefersTo.linkItem` for what stands under a path.
* `paths_refersTo`: all paths of a model refer to its entities.
* `document_closed`: generated documents are closed.
-/

namespace Schemata

open OpenApi
open Value (under textKeys)

/-! ## 1. Closed documents -/

/-- The text of a reference to an entry in a section of the components. -/
def reference (kind name : String) : String := "#/components/" ++ kind ++ "/" ++ name

/-- The sections of the components that may be referred to. -/
def componentKinds : List String := ["schemas", "responses"]

/-- Whatever stands under `$ref` is a reference to an entry that the components have. -/
def RefsResolve (spec paths : Value) : Prop :=
  ∀ r ∈ under "$ref" paths, ∃ kind ∈ componentKinds, ∃ names name,
    spec.keysAt? ["components", kind] = some (textKeys names) ∧ name ∈ names ∧
      r = .str (reference kind name)

/-- Whatever stands under `tags` is a list of names of entries of the document's own tags. -/
def TagsDeclared (spec paths : Value) : Prop :=
  ∀ t ∈ under "tags" paths, ∃ used entries, t = .texts used ∧
    spec.at? ["tags"] = some (.list entries) ∧
    ∀ name ∈ used, ∃ entry ∈ entries, entry.at? ["name"] = some (.str name)

/-- A document in which everything that the paths refer to is there, however deep they do so. -/
def Closed (spec : Value) : Prop :=
  ∃ paths, spec.at? ["paths"] = some paths ∧ RefsResolve spec paths ∧ TagsDeclared spec paths

/-! ## 2. What parts refer to -/

/-- A reference to one of some entities or to a shared response. -/
def IsReference (names : List String) (v : Value) : Prop :=
  (∃ n ∈ names, v = .str (reference "schemas" n)) ∨
    ∃ n ∈ sharedResponses.keys, v = .str (reference "responses" n)

/-- The tags of an operation on one of some entities. -/
def IsTagged (names : List String) (v : Value) : Prop := ∃ n ∈ names, v = .texts [n]

theorem isTagged {names : List String} {n : String} (h : n ∈ names) :
    IsTagged names (.texts [n]) :=
  ⟨n, h, rfl⟩

/-- A part of a document that refers to entities of certain names only. -/
structure RefersTo (names : List String) (v : Value) : Prop where
  refs : ∀ r ∈ under "$ref" v, IsReference names r
  tags : ∀ t ∈ under "tags" v, IsTagged names t

namespace RefersTo

variable {names : List String}

@[simp] theorem atom (s : Scalar) : RefersTo names (.atom s) := by
  constructor <;> simp [Value.under_atom]

@[simp] theorem texts (items : List String) : RefersTo names (.texts items) := by
  constructor <;> simp [Value.under_texts]

@[simp] theorem list_iff {items : List Value} :
    RefersTo names (.list items) ↔ ∀ item ∈ items, RefersTo names item := by
  constructor
  · rintro ⟨hrefs, htags⟩ item hitem
    exact ⟨fun r hr => hrefs r (Value.mem_under_list.mpr ⟨item, hitem, hr⟩),
      fun t ht => htags t (Value.mem_under_list.mpr ⟨item, hitem, ht⟩)⟩
  · intro h
    constructor
    · intro r hr
      obtain ⟨item, hitem, hr⟩ := Value.mem_under_list.mp hr
      exact (h item hitem).refs r hr
    · intro t ht
      obtain ⟨item, hitem, ht⟩ := Value.mem_under_list.mp ht
      exact (h item hitem).tags t ht

/-- A map refers to what its own references and tags name, and to what its values refer to. -/
@[simp] theorem obj_iff {es : Entries String Value} :
    RefersTo names (.obj es) ↔ ∀ p ∈ es, (p.1 = "$ref" → IsReference names p.2) ∧
      (p.1 = "tags" → IsTagged names p.2) ∧ RefersTo names p.2 := by
  constructor
  · rintro ⟨hrefs, htags⟩ p hp
    refine ⟨fun hkey => hrefs _ (Value.mem_under_obj.mpr ⟨p, hp, Or.inl ⟨hkey, rfl⟩⟩),
      fun hkey => htags _ (Value.mem_under_obj.mpr ⟨p, hp, Or.inl ⟨hkey, rfl⟩⟩), ?_, ?_⟩
    · exact fun r hr => hrefs r (Value.mem_under_obj.mpr ⟨p, hp, Or.inr hr⟩)
    · exact fun t ht => htags t (Value.mem_under_obj.mpr ⟨p, hp, Or.inr ht⟩)
  · intro h
    constructor
    · intro r hr
      obtain ⟨p, hp, ⟨hkey, rfl⟩ | hdeep⟩ := Value.mem_under_obj.mp hr
      · exact (h p hp).1 hkey
      · exact (h p hp).2.2.refs r hdeep
    · intro t ht
      obtain ⟨p, hp, ⟨hkey, rfl⟩ | hdeep⟩ := Value.mem_under_obj.mp ht
      · exact (h p hp).2.1 hkey
      · exact (h p hp).2.2.tags t hdeep

/-! The parts of operations refer to whatever they are given. -/

theorem schemaRef {n : String} (h : n ∈ names) : RefersTo names (schemaRef n) := by
  simp [OpenApi.schemaRef, IsReference, reference, h]

theorem responseRef {n : String} (h : n ∈ sharedResponses.keys) :
    RefersTo names (responseRef n) := by
  simp [OpenApi.responseRef, IsReference, reference, h]

theorem notFoundRef : RefersTo names (OpenApi.responseRef notFound) :=
  responseRef List.mem_cons_self

theorem validationErrorRef : RefersTo names (OpenApi.responseRef validationError) :=
  responseRef (List.mem_cons_of_mem _ List.mem_cons_self)

theorem response (description : String) {schema : Value} (h : RefersTo names schema) :
    RefersTo names (response description schema) := by
  simp [OpenApi.response, jsonContent, h]

theorem recordBody {n : String} (h : n ∈ names) : RefersTo names (recordBody n) := by
  simp [OpenApi.recordBody, jsonContent, schemaRef h]

theorem typeOnly (t : JsonType) : RefersTo names (typeOnly t) := by
  simp [OpenApi.typeOnly]

theorem idParameter (owner : String) : RefersTo names (idParameter owner) := by
  simp [OpenApi.idParameter, typeOnly]

theorem queryParameter (name description : String) {schema : Value} (h : RefersTo names schema) :
    RefersTo names (queryParameter name description schema) := by
  simp [OpenApi.queryParameter, h]

/-! The operations on an entity refer to it. -/

variable {e : Entity}

theorem listOperation (config : Config) (h : e.name ∈ names) :
    RefersTo names (listOperation config e) := by
  have hpage : RefersTo names (OpenApi.response ("List of " ++ e.tableName)
      (Value.obj [("type", .str "object"),
        ("properties", .obj
          [("data", .obj [("type", .str "array"), ("items", OpenApi.schemaRef e.name)]),
            ("pagination", pagination)])])) := by
    refine response _ ?_
    simp [pagination, typeOnly, schemaRef h]
  simp [OpenApi.listOperation, isTagged h, queryParameter, typeOnly, hpage]

theorem createOperation (h : e.name ∈ names) : RefersTo names (createOperation e) := by
  simp [OpenApi.createOperation, isTagged h, recordBody h, response, schemaRef h,
    validationErrorRef]

theorem readOperation (h : e.name ∈ names) : RefersTo names (readOperation e) := by
  simp [OpenApi.readOperation, isTagged h, idParameter, response, schemaRef h, notFoundRef]

theorem updateOperation (h : e.name ∈ names) : RefersTo names (updateOperation e) := by
  simp [OpenApi.updateOperation, isTagged h, idParameter, recordBody h, response, schemaRef h,
    notFoundRef, validationErrorRef]

theorem deleteOperation (h : e.name ∈ names) : RefersTo names (deleteOperation e) := by
  simp [OpenApi.deleteOperation, isTagged h, idParameter, notFoundRef]

theorem collectionItem (config : Config) (h : e.name ∈ names) :
    RefersTo names (collectionItem config e) := by
  simp [Schemata.collectionItem, listOperation config h, createOperation h]

theorem recordItem (h : e.name ∈ names) : RefersTo names (recordItem e) := by
  simp [Schemata.recordItem, readOperation h, updateOperation h, deleteOperation h]

/-- The operation of a link is listed with its source and gives records of its target. -/
theorem linkItem {l : Model.Link} (hs : l.relationship.source ∈ names)
    (ht : l.relationship.target ∈ names) : RefersTo names (linkItem l) := by
  simp [Schemata.linkItem, linkOperation, isTagged hs, idParameter, response, schemaRef ht,
    notFoundRef]

end RefersTo

/-! ## 3. Whole documents -/

/-- Paths start with a slash. -/
theorem head?_of_mem_paths {config : Config} {m : Model} {p : String × Value}
    (h : p ∈ paths config m) : p.1.toList.head? = some '/' := by
  rcases mem_paths h with ⟨e, -, rfl | rfl⟩ | ⟨l, -, rfl⟩
  · rw [toList_collectionPath, List.head?_cons]
  · rw [toList_recordPath, List.head?_cons]
  · rw [linkEntry, toList_linkPath, List.head?_cons]

/-- **The paths refer to the entities of the model.**  A relationship with an end that has no entity
has no path, so that it refers to nothing. -/
theorem paths_refersTo (config : Config) {m : Model} (hk : m.IsIndexed) :
    RefersTo m.entityNames (.obj (paths config m)) := by
  have hname : ∀ {e : Entity}, e ∈ m.entities → e.name ∈ m.entityNames := fun he =>
    List.mem_map_of_mem he
  rw [RefersTo.obj_iff]
  intro p hp
  have hslash := head?_of_mem_paths hp
  refine ⟨fun hkey => ?_, fun hkey => ?_, ?_⟩
  · rw [hkey] at hslash
    exact absurd hslash (by decide)
  · rw [hkey] at hslash
    exact absurd hslash (by decide)
  · rcases mem_paths hp with ⟨e, he, rfl | rfl⟩ | ⟨l, hl, rfl⟩
    · exact RefersTo.collectionItem config (hname he)
    · exact RefersTo.recordItem (hname he)
    · obtain ⟨hs, hsource⟩ := Model.source_mem hk hl
      obtain ⟨ht, htarget⟩ := Model.target_mem hk hl
      exact RefersTo.linkItem (hsource ▸ hname hs) (htarget ▸ hname ht)

/-- **Generated documents are closed**, whatever the names of the entities and their tables and
wherever relationships lead. -/
theorem document_closed {raw api : Value} {m : Model} {config : Config} {clock : Clock}
    (hm : Model.normalize raw = .ok m) (ha : OpenApi.generate config clock m = .ok api) :
    ∃ spec, api.at? ["openApiSpec"] = some spec ∧ Closed spec := by
  obtain ⟨stamp, spec, -, hd⟩ := exists_description ha
  obtain ⟨hrefs, htags⟩ := paths_refersTo config (Model.isIndexed_of_normalize hm)
  refine ⟨spec, hd.specAt, _, hd.pathsAt, ?_, ?_⟩
  · intro r hr
    rcases hrefs r hr with ⟨n, hn, rfl⟩ | ⟨n, hn, rfl⟩
    · refine ⟨"schemas", by simp [componentKinds], m.entityNames.eraseDups, n, ?_,
        List.mem_eraseDups.mpr hn, rfl⟩
      rw [Value.keysAt?_of_at? hd.schemasAt, schemas, Entries.keys_ofList_map]
      rfl
    · exact ⟨"responses", by simp [componentKinds], sharedResponses.keys, n,
        Value.keysAt?_of_at? hd.responsesAt, hn, rfl⟩
  · intro t ht
    obtain ⟨n, hn, rfl⟩ := htags t ht
    refine ⟨[n], _, rfl, hd.tagsAt, ?_⟩
    intro name hname
    rw [List.mem_singleton.mp hname]
    obtain ⟨e, he, rfl⟩ := List.mem_map.mp hn
    refine ⟨tag e, List.mem_map_of_mem he, ?_⟩
    simp [tag, Value.at?_cons, Value.at?_nil, Value.get?_obj]

/-- Two entities with one name and one table, and relationships of which one leads nowhere. -/
def doubled : Value :=
  .obj [("entities", .list [user, user]),
    ("relationships", .list [link "user" "user", link "user" "ghost"])]
where
  user : Value :=
    .obj [("name", .str "user"), ("tableName", .str "tags"), ("fields", .list [])]
  link (source target : String) : Value := .obj [("from", .str source), ("to", .str target)]

theorem document_closed_doubled :
    ∃ m api spec, Model.normalize doubled = .ok m ∧ m.entityNames = ["user", "user"] ∧
      OpenApi.generate {} .standard m = .ok api ∧
      api.at? ["openApiSpec"] = some spec ∧ Closed spec := by
  obtain ⟨m, hm, hnames, hgenerates⟩ := any_toOption.mp
    (show (Model.normalize doubled).toOption.any (fun m => m.entityNames = ["user", "user"] ∧
      (OpenApi.generate {} .standard m).toBool = true) = true by decide +kernel)
  obtain ⟨api, ha⟩ := toBool_eq_true.mp hgenerates
  obtain ⟨spec, hspec, hclosed⟩ := document_closed hm ha
  exact ⟨m, api, spec, hm, hnames, ha, hspec, hclosed⟩

end Schemata
