import Mathlib.Algebra.Ring.Nat
import Schemata.Export.Exporter
import Schemata.Proofs.Completeness
import Schemata.Proofs.Files
/-!
# What an export says of itself

An export writes files one after another, then a list of them, and then says what it has done.  Any
of the writes may fail.  Here the attempts to write are told first (`Attempted`), and what the
export says is read off them.

* `attempted_writeFiles`: the loop of the exporter makes one attempt for every file, in order.
* `node?_of_attempted`: attempts touch nothing at the place of a path apart from theirs, so that
  files that are rendered never get in the way of the manifest (`isDirectory_of_attempted`).
* `accounts_perform`: the account of one export, whatever the exporter remembers.
* `session_accounted`: every export of a session gives its own account and nothing else.
-/

namespace Schemata

/-! ## 1. Paths of rendered files -/

namespace Export

/-- Paths neither of which leads to the other one or below it. -/
structure Apart (path path' : String) : Prop where
  left : ¬ (Path.ofText path).parts <+: (Path.ofText path').parts
  right : ¬ (Path.ofText path').parts <+: (Path.ofText path).parts

theorem Apart.symm {path path' : String} (h : Apart path path') : Apart path' path :=
  ⟨h.right, h.left⟩

/-- Whether a path leads neither to the manifest nor below a directory of that name. -/
def isApart (path : String) : Bool :=
  (Path.ofText path).parts.head?.any fun first => first ≠ Manifest.fileName

/-- A path with another first part than the manifest's only one is apart from it. -/
theorem apart_of_isApart {path : String} (h : isApart path = true) :
    Apart Manifest.fileName path := by
  have hmanifest : (Path.ofText Manifest.fileName).parts = [Manifest.fileName] := by decide
  unfold isApart at h
  cases hparts : (Path.ofText path).parts with
  | nil =>
    rw [hparts] at h
    cases h
  | cons first rest =>
    rw [hparts] at h
    have hne : first ≠ Manifest.fileName := by simpa using h
    constructor
    · rw [hmanifest, hparts]
      exact fun hpre => hne (List.cons_prefix_cons.mp hpre).1.symm
    · rw [hmanifest, hparts]
      exact fun hpre => hne (List.cons_prefix_cons.mp hpre).1

theorem parts_alternative (name : String) :
    (Path.ofText ("alternatives/" ++ name)).parts
      = "alternatives" :: Path.partsOf name.toList := by
  have hsplit : ("alternatives/" ++ name).toList = "alternatives/".toList ++ name.toList :=
    String.toList_append
  simp only [Path.ofText, hsplit, Path.partsOf, List.foldr_append]
  rfl

theorem isApart_alternative (name : String) :
    isApart ("alternatives/" ++ name ++ ".mmd") = true := by
  have hne : decide ("alternatives" ≠ Manifest.fileName) = true := by decide
  rw [String.append_assoc, isApart, parts_alternative]
  exact hne

theorem isApart_artifact : ∀ path ∈ ["schema.json", "openapi.json", "openapi.yaml",
    "code_examples.json", "erd.mmd", "erd.puml", "description.txt"], isApart path = true := by
  decide

theorem map_fst_schemaFiles {v : Value} {files : Files} (h : schemaFiles v = .ok files) :
    files.map Prod.fst = ["schema.json"] := by
  obtain ⟨text, -, hfiles⟩ := bind_eq_ok.mp h
  cases hfiles
  rfl

theorem map_fst_apiFiles {format : ApiFormat} {identity : Yaml.Identity OpenApi.Origin} {v : Value}
    {files : Files} (h : apiFiles format identity v = .ok files) :
    files.map Prod.fst = ["openapi." ++ format.name, "code_examples.json"] := by
  cases format with
  | json | yaml =>
    obtain ⟨description, -, hrest⟩ := bind_eq_ok.mp h
    obtain ⟨examples, -, hfiles⟩ := bind_eq_ok.mp hrest
    cases hfiles
    rfl

theorem isApart_schemaFiles {v : Value} {files : Files} (h : schemaFiles v = .ok files) :
    ∀ f ∈ files, isApart f.1 = true := by
  rw [← List.forall_mem_map (P := fun path => isApart path = true), map_fst_schemaFiles h,
    List.forall_mem_singleton]
  exact isApart_artifact "schema.json" (by decide)

theorem isApart_apiFiles {format : ApiFormat} {identity : Yaml.Identity OpenApi.Origin} {v : Value}
    {files : Files} (h : apiFiles format identity v = .ok files) :
    ∀ f ∈ files, isApart f.1 = true := by
  rw [← List.forall_mem_map (P := fun path => isApart path = true), map_fst_apiFiles h,
    List.forall_mem_cons, List.forall_mem_singleton]
  constructor
  · cases format
    · exact isApart_artifact "openapi.json" (by decide)
    · exact isApart_artifact "openapi.yaml" (by decide)
  · exact isApart_artifact "code_examples.json" (by decide)

theorem isApart_diagramFiles (v : Value) : ∀ f ∈ diagramFiles v, isApart f.1 = true := by
  unfold diagramFiles
  rw [List.forall_mem_append]
  constructor
  · rw [List.forall_mem_cons, List.forall_mem_cons, List.forall_mem_singleton]
    exact ⟨isApart_artifact "erd.mmd" (by decide), isApart_artifact "erd.puml" (by decide),
      isApart_artifact "description.txt" (by decide)⟩
  · split
    · rw [List.forall_mem_map]
      exact fun p _ => isApart_alternative p.1.display
    · exact fun f hf => absurd hf List.not_mem_nil

/-- Files that are rendered one artifact after another. -/
theorem render_eq_ok {format : Value} {b : Bundle} {files : Files} :
    render format b = .ok files ↔ ∃ format' schema api, ApiFormat.parse format = .ok format' ∧
      (match b.schema with
        | some v => schemaFiles v
        | none => .ok []) = .ok schema ∧
      (match b.api with
        | some v => apiFiles format' b.apiIdentity v
        | none => .ok []) = .ok api ∧
      schema ++ api ++ (b.diagrams.map diagramFiles).getD [] = files := by
  unfold render
  rw [bind_eq_ok]
  refine exists_congr fun format' => ?_
  cases b.schema <;> cases b.api <;> simp [bind_eq_ok, pure, Except.pure]

/-- **Rendered files stay apart from the manifest.** -/
theorem isApart_render {format : Value} {b : Bundle} {files : Files}
    (h : render format b = .ok files) : ∀ f ∈ files, isApart f.1 = true := by
  have hnone : ∀ f ∈ ([] : Files), isApart f.1 = true := fun f hf => absurd hf List.not_mem_nil
  obtain ⟨format', schema, api, -, hschema, hapi, rfl⟩ := render_eq_ok.mp h
  rw [List.forall_mem_append, List.forall_mem_append]
  refine ⟨⟨?_, ?_⟩, ?_⟩
  · cases hb : b.schema with
    | none =>
      rw [hb] at hschema
      cases hschema
      exact hnone
    | some v =>
      rw [hb] at hschema
      exact isApart_schemaFiles hschema
  · cases hb : b.api with
    | none =>
      rw [hb] at hapi
      cases hapi
      exact hnone
    | some v =>
      rw [hb] at hapi
      exact isApart_apiFiles hapi
  · cases b.diagrams with
    | none => exact hnone
    | some v => exact isApart_diagramFiles v

end Export

/-! ## 2. The text of a manifest -/

namespace Manifest

theorem isJson_toValue (m : Manifest) : m.toValue.isJson = true := by
  have hrecord (r : Record) : r.toValue.isJson = true := rfl
  have hfiles : (Value.list (m.records.map Record.toValue)).isJson = true := by
    rw [Value.isJson, Value.areJson_iff, List.forall_mem_map]
    exact fun r _ => hrecord r
  rw [toValue, Value.isJson_obj]
  simp only [List.forall_mem_cons, List.not_mem_nil, false_implies, implies_true, and_true]
  exact ⟨rfl, rfl, rfl, rfl, rfl, rfl, hfiles⟩

/-- The text of a manifest is its JSON, numbers with too many digits to be written aside. -/
theorem write_text {m : Manifest} (h : m.toValue.isWritable = true) :
    Json.write (.indented 2) m.toValue = .ok m.text := by
  have hfault : fault? (Json.write (.indented 2) m.toValue) = none := by
    rw [Json.fault?_write _ m.isJson_toValue, h]
    rfl
  obtain ⟨s, hs⟩ := fault?_eq_none.mp hfault
  rw [Manifest.text, hs]
  rfl

theorem totalBytes_eq (m : Manifest) : m.totalBytes = (m.records.map Record.size).sum := by
  rw [totalBytes, List.sum_eq_foldl_nat, List.foldl_map]

theorem totalLines_eq (m : Manifest) : m.totalLines = (m.records.map Record.lines).sum := by
  rw [totalLines, List.sum_eq_foldl_nat, List.foldl_map]

end Manifest

namespace Exporter

/-! ## 3. Attempts -/

/-- An attempt to write a file, and the fault that it ended with if it failed. -/
structure Attempt where
  path : String
  text : String
  fault : Option FileTree.Fault := none

namespace Attempt

/-- The file of an attempt. -/
def file (a : Attempt) : String × String := (a.path, a.text)

/-- The record of a file that was written: its path, its size, its lines and its digest. -/
def record? (a : Attempt) : Option Manifest.Record :=
  if a.fault.isNone then
    some ⟨a.path, a.text.utf8ByteSize, Text.lineCount a.text, Digest.hexOf a.text⟩
  else none

/-- The error of a file that was not written. -/
def error? (a : Attempt) : Option String := a.fault.map (writeError a.path)

end Attempt

/-- Attempts that follow each other, from files as they are before to files as they are after: the
files as one attempt leaves them are there for the next, whether it fails or not. -/
inductive Attempted (x : Exporter) : FileTree → List Attempt → FileTree → Prop
  | none (t : FileTree) : Attempted x t [] t
  | next {t t' t'' : FileTree} {path text : String} {fault : Option FileTree.Fault}
      {rest : List Attempt} (h : t.attempt x.mode (x.destination path) text = (t', fault)) :
      Attempted x t' rest t'' → Attempted x t (⟨path, text, fault⟩ :: rest) t''

theorem Attempted.append {x : Exporter} {t t' t'' : FileTree} {first second : List Attempt}
    (h : Attempted x t first t') (h' : Attempted x t' second t'') :
    Attempted x t (first ++ second) t'' := by
  induction h with
  | none t => exact h'
  | next hend _ ih => exact .next hend (ih h')

/-- Attempts with what is remembered before and after them. -/
structure Extends (x : Exporter) (p : Progress) (attempts : List Attempt) (p' : Progress) :
    Prop where
  attempted : Attempted x p.tree attempts p'.tree
  records : p'.records = p.records ++ attempts.filterMap Attempt.record?
  errors : p'.errors = p.errors ++ attempts.filterMap Attempt.error?

theorem Extends.nothing (x : Exporter) (p : Progress) : Extends x p [] p :=
  ⟨.none p.tree, (List.append_nil _).symm, (List.append_nil _).symm⟩

theorem Extends.append {x : Exporter} {p p' p'' : Progress} {first second : List Attempt}
    (h : Extends x p first p') (h' : Extends x p' second p'') :
    Extends x p (first ++ second) p'' where
  attempted := h.attempted.append h'.attempted
  records := by rw [h'.records, h.records, List.append_assoc, List.filterMap_append]
  errors := by rw [h'.errors, h.errors, List.append_assoc, List.filterMap_append]

/-- **One file, one attempt**: a record if the file was written, and an error if not. -/
theorem extends_writeFile (x : Exporter) (p : Progress) (path text : String) :
    ∃ a, a.file = (path, text) ∧ Extends x p [a] (x.writeFile p path text) := by
  unfold writeFile
  rcases hend : p.tree.attempt x.mode (x.destination path) text with ⟨t, _ | f⟩
  · exact ⟨⟨path, text, none⟩, rfl, .next hend (.none t), rfl, (List.append_nil _).symm⟩
  · exact ⟨⟨path, text, some f⟩, rfl, .next hend (.none t), (List.append_nil _).symm, rfl⟩

/-- **The loop over the files** makes one attempt for every file, in order, whatever came of those
before. -/
theorem extends_writeFiles (x : Exporter) : ∀ (files : Export.Files) (p : Progress),
    ∃ attempts, attempts.map Attempt.file = files ∧ Extends x p attempts (x.writeFiles p files)
  | [], p => ⟨[], rfl, .nothing x p⟩
  | f :: rest, p => by
    obtain ⟨a, ha, hfirst⟩ := extends_writeFile x p f.1 f.2
    obtain ⟨attempts, hfiles, hrest⟩ := extends_writeFiles x rest (x.writeFile p f.1 f.2)
    exact ⟨a :: attempts, by rw [List.map_cons, ha, hfiles], hfirst.append hrest⟩

/-- The files that an export writes last: the manifest, if there is to be one. -/
def ownFiles (x : Exporter) (records : List Manifest.Record) : Export.Files :=
  if x.withManifest then [(Manifest.fileName, (x.manifestOf records).text)] else []

theorem extends_writeManifest (x : Exporter) (p : Progress) :
    ∃ own, own.map Attempt.file = x.ownFiles p.records ∧ Extends x p own (x.writeManifest p) := by
  unfold writeManifest ownFiles
  cases x.withManifest with
  | false => exact ⟨[], rfl, .nothing x p⟩
  | true =>
    obtain ⟨a, ha, hown⟩ := extends_writeFile x p Manifest.fileName (x.manifestOf p.records).text
    exact ⟨[a], congrArg (fun f => [f]) ha, hown⟩

/-! ## 4. What attempts leave alone -/

theorem map_path_eq (attempts : List Attempt) :
    attempts.map Attempt.path = (attempts.map Attempt.file).map Prod.fst := by
  rw [List.map_map]
  rfl

/-- An attempt touches nothing at the place of a path apart from its own. -/
theorem node?_of_apart {x : Exporter} {mode : FileTree.WriteMode} {t t' : FileTree}
    {path path' text : String} {fault : Option FileTree.Fault} (hapart : Export.Apart path path')
    (h : t.attempt mode (x.destination path) text = (t', fault)) :
    t'.node? (x.destination path') = t.node? (x.destination path') := by
  have htree : t' = (t.attempt mode (x.destination path) text).1 := (congrArg Prod.fst h).symm
  rw [htree]
  refine FileTree.node?_attempt_of_apart ?_ ?_
  · rw [destination, destination, List.prefix_append_right_inj]
    exact hapart.left
  · rw [destination, destination, List.prefix_append_right_inj]
    exact hapart.right

/-- Attempts touch nothing at the place of a path apart from theirs. -/
theorem node?_of_attempted {x : Exporter} {path : String} {t t' : FileTree}
    {attempts : List Attempt} (h : Attempted x t attempts t')
    (hapart : ∀ path' ∈ attempts.map Attempt.path, Export.Apart path path') :
    t'.node? (x.destination path) = t.node? (x.destination path) := by
  induction h with
  | none t => rfl
  | next hend _ ih =>
    rw [List.map_cons, List.forall_mem_cons] at hapart
    rw [ih hapart.2, node?_of_apart hapart.1.symm hend]

/-- What an attempt that does not fail leaves at its place. -/
theorem text?_of_end {t t' : FileTree} {mode : FileTree.WriteMode} {p : Place} {text : String}
    (hp : p ≠ []) (h : t.attempt mode p text = (t', none)) :
    t'.text? p = if t.isDirectory p then none else some text := by
  have hok := FileTree.text?_attempt hp (congrArg Prod.snd h)
  rw [h] at hok
  exact hok

theorem destination_manifest (x : Exporter) :
    x.destination Manifest.fileName = x.place ++ [Manifest.fileName] := rfl

/-- Attempts for rendered files change nothing at the place of the manifest. -/
theorem isDirectory_of_attempted {x : Exporter} {t t' : FileTree} {attempts : List Attempt}
    (h : Attempted x t attempts t')
    (hapart : ∀ f ∈ attempts.map Attempt.file, Export.isApart f.1 = true) :
    t'.isDirectory (x.destination Manifest.fileName)
      = t.isDirectory (x.destination Manifest.fileName) := by
  refine FileTree.isDirectory_congr (node?_of_attempted h ?_)
  rw [map_path_eq, List.forall_mem_map]
  exact fun f hf => Export.apart_of_isApart (hapart f hf)

/-- What the manifest's own attempt leaves, if it does not fail. -/
theorem text?_of_own {x : Exporter} {t t' : FileTree} {a : Attempt} {text : String}
    (hfile : a.file = (Manifest.fileName, text)) (h : Attempted x t [a] t') (hok : a.fault = none) :
    t'.text? (x.destination Manifest.fileName)
      = if t.isDirectory (x.destination Manifest.fileName) then none else some text := by
  obtain ⟨path, text', fault⟩ := a
  cases hfile
  cases hok
  cases h with
  | next hend hrest =>
    cases hrest
    exact text?_of_end (by simp [destination_manifest]) hend

/-! ## 5. The account of an export -/

/-- **The account of an export** whose files were rendered: the attempts for its files and for its
manifest, and what it says of them. -/
structure Accounts (x : Exporter) (before after : FileTree) (files : Export.Files) (r : Result)
    (attempts own : List Attempt) : Prop where
  /-- Every file is attempted once, in order. -/
  all : attempts.map Attempt.file = files
  /-- The manifest comes last, and lists the files that were written before it. -/
  last : own.map Attempt.file = x.ownFiles (attempts.filterMap Attempt.record?)
  order : Attempted x before (attempts ++ own) after
  /-- What failed has an error, and nothing else. -/
  errors : r.errors = (attempts ++ own).filterMap Attempt.error?
  /-- What was written has a record, and nothing else. -/
  records : r.manifest.records = (attempts ++ own).filterMap Attempt.record?
  bytes : r.manifest.totalBytes = (r.manifest.records.map Manifest.Record.size).sum
  lines : r.manifest.totalLines = (r.manifest.records.map Manifest.Record.lines).sum
  /-- A manifest whose write succeeds is there, unless a directory stands in its place. -/
  manifest : ∀ a ∈ own, a.fault = none →
    after.text? (x.destination Manifest.fileName)
      = if before.isDirectory (x.destination Manifest.fileName) then none else some a.text
  /-- The manifest is the JSON of what it lists, if its numbers can be written. -/
  json : ∀ a ∈ own,
    (x.manifestOf (attempts.filterMap Attempt.record?)).toValue.isWritable = true →
    Json.write (.indented 2) (x.manifestOf (attempts.filterMap Attempt.record?)).toValue
      = .ok a.text

theorem mem_ownFiles {x : Exporter} {records : List Manifest.Record} {own : List Attempt}
    {a : Attempt} (hown : own.map Attempt.file = x.ownFiles records) (ha : a ∈ own) :
    own = [a] ∧ a.file = (Manifest.fileName, (x.manifestOf records).text) := by
  unfold ownFiles at hown
  split at hown
  · obtain ⟨b, rfl, hb⟩ := List.map_eq_singleton_iff.mp hown
    rw [List.mem_singleton.mp ha]
    exact ⟨rfl, hb⟩
  · rw [List.map_eq_nil_iff.mp hown] at ha
    cases ha

theorem accounts_perform (x : Exporter) (p : Progress) {b : Bundle} {files : Export.Files}
    (h : Export.render x.format b = .ok files) :
    ∃ attempts own, Accounts x p.tree (x.perform p b).tree files (x.result (x.perform p b))
      attempts own := by
  obtain ⟨attempts, hall, hfiles⟩ := extends_writeFiles x files p.restart
  obtain ⟨own, hlast, hmanifest⟩ := extends_writeManifest x (x.writeFiles p.restart files)
  have hperform : x.perform p b = x.writeManifest (x.writeFiles p.restart files) := by
    rw [perform, h]
  have hrecords : (x.writeFiles p.restart files).records = attempts.filterMap Attempt.record? :=
    hfiles.records
  have hwhole := hfiles.append hmanifest
  rw [hrecords] at hlast
  rw [hperform]
  refine ⟨attempts, own, hall, hlast, hwhole.attempted, hwhole.errors, hwhole.records,
    Manifest.totalBytes_eq _, Manifest.totalLines_eq _, ?_, ?_⟩
  · intro a ha hok
    obtain ⟨rfl, hfile⟩ := mem_ownFiles hlast ha
    have htext : a.text = _ := congrArg Prod.snd hfile
    rw [text?_of_own hfile hmanifest.attempted hok, htext,
      isDirectory_of_attempted hfiles.attempted (hall ▸ Export.isApart_render h)]
    rfl
  · intro a ha hwritable
    have htext : a.text = _ := congrArg Prod.snd (mem_ownFiles hlast ha).2
    rw [Manifest.write_text hwritable, htext]

/-- What every export says: that its files cannot be rendered, which changes nothing, or the account
of its attempts; and that it succeeded exactly if it has no errors. -/
structure Accounted (x : Exporter) (e : Exported) : Prop where
  unrendered : ∀ f, Export.render x.format e.bundle = .error f →
    e.after = e.before ∧ e.result.errors = [fatalError f] ∧ e.result.manifest.records = []
  rendered : ∀ files, Export.render x.format e.bundle = .ok files →
    ∃ attempts own, Accounts x e.before e.after files e.result attempts own
  success : e.result.success = true ↔ e.result.errors = []

theorem accounted_perform (x : Exporter) (p : Progress) (b : Bundle) :
    Accounted x ⟨b, p.tree, (x.perform p b).tree, x.result (x.perform p b)⟩ where
  unrendered f hf := by
    simp only [perform, hf]
    exact ⟨rfl, rfl, rfl⟩
  rendered files hfiles := accounts_perform x p hfiles
  success := List.isEmpty_iff

/-- **Every export of a session accounts for itself**, from the files as it finds them, whatever
happened before: no error and no record is carried over from an earlier one. -/
theorem session_accounted (x : Exporter) : ∀ (events : List Event) (p : Progress),
    ∀ e ∈ x.session p events, Accounted x e
  | [], _, e, he => by cases he
  | .files t :: rest, p, e, he => session_accounted x rest { p with tree := t } e he
  | .bundle b :: rest, p, e, he => by
    rcases List.mem_cons.mp he with rfl | hrest
    · exact accounted_perform x p b
    · exact session_accounted x rest (x.perform p b) e hrest

/-- An exporter into a directory below the root. -/
def toOut : Exporter :=
  { place := ["out"], directory := "/out", timestamp := "2024-01-15T10:30:00.123Z" }

/-- A file in the place of its directory. -/
def blocked : FileTree := ⟨[(["out"], .file "in the way")]⟩

/-- The paths of a bundle of one model, with the manifest. -/
def allPaths : List String :=
  ["schema.json", "openapi.json", "code_examples.json", "erd.mmd", "erd.puml", "description.txt",
    "manifest.json"]

/-- An export that finds a file in its way, and one by the same exporter once it is gone. -/
theorem session_accounted_blocked :
    ∃ b first second, Bundle.generate {} .standard true "" Bundle.loneUser = .ok b ∧
      toOut.session { tree := {} } [.files blocked, .bundle b, .files {}, .bundle b]
        = [first, second] ∧
      first.result.success = false ∧ first.result.errors.length = allPaths.length ∧
      first.result.manifest.records.map Manifest.Record.path = [] ∧
      second.result.errors = [] ∧
      second.result.manifest.records.map Manifest.Record.path = allPaths ∧
      Accounted toOut first ∧ Accounted toOut second := by
  obtain ⟨b, hb, hfails, hcount, hnothing, hsecond, hpaths⟩ := any_toOption.mp
    (show (Bundle.generate {} .standard true "" Bundle.loneUser).toOption.any (fun b =>
      (toOut.result (toOut.perform { tree := blocked } b)).success = false ∧
      (toOut.perform { tree := blocked } b).errors.length = allPaths.length ∧
      (toOut.perform { tree := blocked } b).records.map Manifest.Record.path = [] ∧
      (toOut.perform { tree := {} } b).errors = [] ∧
      (toOut.perform { tree := {} } b).records.map Manifest.Record.path = allPaths) = true by
        decide +kernel)
  have hsession := session_accounted toOut [.files blocked, .bundle b, .files {}, .bundle b]
    { tree := {} }
  exact ⟨b, _, _, hb, rfl, hfails, hcount, hnothing, hsecond, hpaths,
    hsession _ List.mem_cons_self, hsession _ (List.mem_cons_of_mem _ List.mem_cons_self)⟩

/-- A directory in the place of the manifest. -/
def occupied : FileTree :=
  ⟨[(["out"], .directory), (["out", Manifest.fileName], .directory)]⟩

/-- A manifest that is moved onto a directory is said to be written, and is not there. -/
theorem manifest_lost :
    ∃ b, Bundle.generate {} .standard true "" Bundle.loneUser = .ok b ∧
      (toOut.run occupied b).2.success = true ∧
      (toOut.run occupied b).2.manifest.records.map Manifest.Record.path = allPaths ∧
      (toOut.run occupied b).1.text? (toOut.destination Manifest.fileName) = none :=
  any_toOption.mp (by decide +kernel)

end Exporter

end Schemata
