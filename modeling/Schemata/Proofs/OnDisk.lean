import Schemata.Proofs.Exports
import Schemata.Proofs.Tasks
/-!
# What a successful export leaves on the disk

An export succeeds if no write fails.  A write that does not fail has left its text in its place,
with one exception: where a directory stands, an atomic write ends up inside of it, and a plain one
fails.

* `Export.AreSeparate`: paths that do not get in each other's way.  Those of a bundle that was
  generated are separate (`areSeparate_paths`).
* `text?_of_attempted`: what a run of attempts leaves, place by place.
* `perform_mode`: where no directory is in the way, both ways of writing do the same.
* `success_on_disk`: the files that a successful export lists are there exactly if no directory was
  in the way.  With one in the way a plain export does not succeed; otherwise both succeed alike.
-/

namespace Schemata

/-! ## 1. Paths that are separate -/

/-- A path that leads downwards from where it is read. -/
structure Path.IsPlain (p : Path) : Prop where
  relative : p.root = ""
  nonempty : p.parts ≠ []
  downwards : ".." ∉ p.parts

/-- Walking down through parts none of which leads up. -/
theorem Path.foldl_downwards : ∀ {parts : List String} (here : Place), ".." ∉ parts →
    parts.foldl (fun here part => if part = ".." then here.dropLast else here ++ [part]) here
      = here ++ parts
  | [], here, _ => (List.append_nil here).symm
  | part :: rest, here, h => by
    rw [List.mem_cons, not_or] at h
    rw [List.foldl_cons, if_neg (Ne.symm h.1), foldl_downwards _ h.2, List.append_assoc,
      List.singleton_append]

theorem Path.resolve_of_isPlain {p : Path} (home : Place) (h : p.IsPlain) :
    p.resolve home = home ++ p.parts := by
  rw [resolve, base, if_pos h.relative, foldl_downwards _ h.downwards]

namespace Export

/-- Paths that lead downwards, each apart from all others. -/
structure AreSeparate (paths : List String) : Prop where
  plain : ∀ path ∈ paths, (Path.ofText path).IsPlain
  apart : paths.Pairwise Apart

theorem AreSeparate.sublist {paths paths' : List String} (h : AreSeparate paths')
    (hsub : paths.Sublist paths') : AreSeparate paths :=
  ⟨fun path hpath => h.plain path (hsub.subset hpath), h.apart.sublist hsub⟩

theorem AreSeparate.tail {path : String} {paths : List String}
    (h : AreSeparate (path :: paths)) : AreSeparate paths := h.sublist (List.sublist_cons_self _ _)

theorem AreSeparate.head {path : String} {paths : List String}
    (h : AreSeparate (path :: paths)) : ∀ path' ∈ paths, Apart path path' :=
  (List.pairwise_cons.mp h.apart).1

/-- The paths of all diagrams. -/
def diagramPaths : List String :=
  ["erd.mmd", "erd.puml", "description.txt", "alternatives/simple.mmd",
    "alternatives/detailed.mmd", "alternatives/conceptual.mmd"]

/-- The paths of all files that an export can write, with the description in one format. -/
def pathsIn (format : ApiFormat) : List String :=
  ["schema.json"] ++ ["openapi." ++ format.name, "code_examples.json"] ++ diagramPaths ++
    [Manifest.fileName]

instance (p : Path) : Decidable p.IsPlain :=
  decidable_of_iff (p.root = "" ∧ p.parts ≠ [] ∧ ".." ∉ p.parts)
    ⟨fun h => ⟨h.1, h.2.1, h.2.2⟩, fun h => ⟨h.relative, h.nonempty, h.downwards⟩⟩

instance (path path' : String) : Decidable (Apart path path') :=
  decidable_of_iff
    (¬ (Path.ofText path).parts <+: (Path.ofText path').parts ∧
      ¬ (Path.ofText path').parts <+: (Path.ofText path).parts)
    ⟨fun h => ⟨h.1, h.2⟩, fun h => ⟨h.left, h.right⟩⟩

theorem areSeparate_pathsIn (format : ApiFormat) : AreSeparate (pathsIn format) := by
  cases format with
  | json | yaml => exact ⟨by decide, by decide⟩

theorem map_fst_diagramFiles (config : Config) (m : Model) (stamp : String) :
    ((diagramFiles (Diagram.generateAt config m stamp)).map Prod.fst).Sublist diagramPaths := by
  unfold Diagram.generateAt
  cases config.includeAlternatives
  · exact List.sublist_append_left ["erd.mmd", "erd.puml", "description.txt"] _
  · exact List.Sublist.refl _

end Export

theorem Bundle.make_of_outcome? {config : Config} {clock : Clock} {m : Model}
    {order : List Artifact} {a : Artifact} {v : Value}
    (h : outcome? (Task.run config clock m order) a = some v) : a.make config clock m = .ok v := by
  obtain ⟨outcome, hlookup, hv⟩ := Option.bind_eq_some_iff.mp h
  obtain ⟨a', -, htask⟩ := List.mem_map.mp (Entries.mem_of_lookup hlookup)
  cases htask
  exact toOption_eq_some.mp hv

/-- The bundle of a model that has a normal form is made of the outcomes of its tasks. -/
theorem Bundle.exists_ofTasks {order : List Artifact} {config : Config} {clock : Clock}
    {lint : Bool} {source : String} {raw : Value} {m : Model} {b : Bundle}
    (hm : Model.normalize raw = .ok m)
    (h : generateIn order config clock lint source raw = .ok b) :
    ∃ findings, b = ofTasks source m findings (Task.run config clock m order) := by
  rw [generateIn, hm] at h
  cases lint with
  | false =>
    cases h
    exact ⟨none, rfl⟩
  | true =>
    obtain ⟨findings, -, hb⟩ := bind_eq_ok.mp h
    cases hb
    exact ⟨findings, rfl⟩

/-- The diagrams of a bundle are those of a model, made at a time. -/
theorem Bundle.diagrams_eq_some {order : List Artifact} {config : Config} {clock : Clock}
    {lint : Bool} {source : String} {raw v : Value} {b : Bundle}
    (h : generateIn order config clock lint source raw = .ok b) (hv : b.diagrams = some v) :
    ∃ m stamp, v = Diagram.generateAt config m stamp := by
  cases hm : Model.normalize raw with
  | error f =>
    simp only [generateIn, hm] at h
    split at h
    · cases h
      cases hv
    · cases h
  | ok m =>
    obtain ⟨findings, rfl⟩ := exists_ofTasks hm h
    have hmake : Diagram.generate config clock m = .ok v := make_of_outcome? hv
    unfold Diagram.generate at hmake
    split at hmake
    · cases hmake
    · split at hmake
      · cases hmake
        exact ⟨m, _, rfl⟩
      · cases hmake

namespace Exporter

/-- The paths of the files that an export of a bundle writes, the manifest last; none if its files
cannot be rendered. -/
def paths (x : Exporter) (b : Bundle) : List String :=
  match Export.render x.format b with
  | .error _ => []
  | .ok files => files.map Prod.fst ++ if x.withManifest then [Manifest.fileName] else []

theorem paths_of_render {x : Exporter} {b : Bundle} {files : Export.Files}
    (h : Export.render x.format b = .ok files) :
    x.paths b = files.map Prod.fst ++ if x.withManifest then [Manifest.fileName] else [] := by
  rw [paths, h]

/-- **The files of a bundle are separate** if its diagrams are those of a model. -/
theorem areSeparate_of_diagrams (x : Exporter) {b : Bundle}
    (h : ∀ v, b.diagrams = some v → ∃ config m stamp, v = Diagram.generateAt config m stamp) :
    Export.AreSeparate (x.paths b) := by
  cases hrender : Export.render x.format b with
  | error f =>
    rw [paths, hrender]
    exact ⟨fun _ hpath => absurd hpath List.not_mem_nil, .nil⟩
  | ok files =>
    rw [paths_of_render hrender]
    obtain ⟨format, schema, api, -, hschema, hapi, rfl⟩ := Export.render_eq_ok.mp hrender
    have hschemaPaths : (schema.map Prod.fst).Sublist ["schema.json"] := by
      cases hb : b.schema with
      | none =>
        rw [hb] at hschema
        cases hschema
        exact List.nil_sublist _
      | some v =>
        rw [hb] at hschema
        rw [Export.map_fst_schemaFiles hschema]
    have hapiPaths :
        (api.map Prod.fst).Sublist ["openapi." ++ format.name, "code_examples.json"] := by
      cases hb : b.api with
      | none =>
        rw [hb] at hapi
        cases hapi
        exact List.nil_sublist _
      | some v =>
        rw [hb] at hapi
        rw [Export.map_fst_apiFiles hapi]
    have hdiagramPaths :
        (((b.diagrams.map Export.diagramFiles).getD []).map Prod.fst).Sublist
          Export.diagramPaths := by
      cases hb : b.diagrams with
      | none => exact List.nil_sublist _
      | some v =>
        obtain ⟨config, m, stamp, rfl⟩ := h v hb
        exact Export.map_fst_diagramFiles config m stamp
    have hownPaths : (if x.withManifest then [Manifest.fileName] else []).Sublist
        [Manifest.fileName] := by
      cases x.withManifest
      · exact List.nil_sublist _
      · exact List.Sublist.refl _
    rw [List.map_append, List.map_append]
    exact (Export.areSeparate_pathsIn format).sublist
      (((hschemaPaths.append hapiPaths).append hdiagramPaths).append hownPaths)

/-- The files of a bundle that was generated are separate. -/
theorem areSeparate_paths (x : Exporter) {order : List Artifact} {config : Config} {clock : Clock}
    {lint : Bool} {source : String} {raw : Value} {b : Bundle}
    (h : Bundle.generateIn order config clock lint source raw = .ok b) :
    Export.AreSeparate (x.paths b) :=
  x.areSeparate_of_diagrams fun _ hv => ⟨config, Bundle.diagrams_eq_some h hv⟩

/-! ## 2. What attempts leave -/

theorem destination_ne_nil {x : Exporter} {path : String} (h : (Path.ofText path).IsPlain) :
    x.destination path ≠ [] := by
  rw [destination]
  exact List.append_ne_nil_of_right_ne_nil _ h.nonempty

theorem destination_eq_resolve {x : Exporter} {path : String} (h : (Path.ofText path).IsPlain) :
    (Path.ofText path).resolve x.place = x.destination path :=
  Path.resolve_of_isPlain _ h

/-- **What attempts leave**: an attempt that did not fail has left its text at its place, unless a
directory stood there before all of them. -/
theorem text?_of_attempted {x : Exporter} {t t' : FileTree} {attempts : List Attempt}
    (h : Attempted x t attempts t') (hpaths : Export.AreSeparate (attempts.map Attempt.path)) :
    ∀ a ∈ attempts, a.fault = none →
      t'.text? (x.destination a.path)
        = if t.isDirectory (x.destination a.path) then none else some a.text := by
  induction h with
  | none t => exact fun a ha => absurd ha List.not_mem_nil
  | next hend hrest ih =>
    have hhere := destination_ne_nil (x := x) (hpaths.plain _ List.mem_cons_self)
    refine List.forall_mem_cons.mpr ⟨fun hok => ?_, fun a ha hok => ?_⟩
    · cases hok
      rw [FileTree.text?, node?_of_attempted hrest hpaths.head, ← FileTree.text?,
        text?_of_end hhere hend]
    · have hapart := hpaths.head _ (List.mem_map_of_mem ha)
      rw [ih hpaths.tail a ha hok, FileTree.isDirectory_congr (node?_of_apart hapart hend)]

/-- A plain attempt that did not fail found no directory at its place. -/
theorem not_isDirectory_of_attempted {x : Exporter} (hx : x.mode = .plain) {t t' : FileTree}
    {attempts : List Attempt} (h : Attempted x t attempts t')
    (hpaths : Export.AreSeparate (attempts.map Attempt.path)) :
    ∀ a ∈ attempts, a.fault = none → t.isDirectory (x.destination a.path) = false := by
  induction h with
  | none t => exact fun a ha => absurd ha List.not_mem_nil
  | next hend hrest ih =>
    have hhere := destination_ne_nil (x := x) (hpaths.plain _ List.mem_cons_self)
    refine List.forall_mem_cons.mpr ⟨fun hok => ?_, fun a ha hok => ?_⟩
    · cases hok
      rw [hx] at hend
      exact FileTree.not_isDirectory_of_plain hhere (congrArg Prod.snd hend)
    · have hapart := hpaths.head _ (List.mem_map_of_mem ha)
      rw [← FileTree.isDirectory_congr (node?_of_apart hapart hend)]
      exact ih hpaths.tail a ha hok

/-! ## 3. Two ways of writing -/

/-- Whether nothing is in the way of the files of a bundle: no directory stands at the place of
one. -/
def Unobstructed (x : Exporter) (t : FileTree) (b : Bundle) : Prop :=
  ∀ path ∈ x.paths b, t.isDirectory (x.destination path) = false

theorem writeFile_mode (x : Exporter) (mode : FileTree.WriteMode) {p : Progress} {path : String}
    (text : String) (hpath : (Path.ofText path).IsPlain)
    (h : p.tree.isDirectory (x.destination path) = false) :
    { x with mode := mode }.writeFile p path text = x.writeFile p path text := by
  have hattempt := FileTree.attempt_mode mode x.mode text (destination_ne_nil hpath) h
  unfold writeFile
  rw [← hattempt]
  rfl

theorem isDirectory_writeFiles {x : Exporter} {path : String} (files : Export.Files)
    (p : Progress) (hapart : ∀ path' ∈ files.map Prod.fst, Export.Apart path path') :
    (x.writeFiles p files).tree.isDirectory (x.destination path)
      = p.tree.isDirectory (x.destination path) := by
  obtain ⟨attempts, rfl, hwritten⟩ := extends_writeFiles x files p
  rw [List.map_map] at hapart
  exact FileTree.isDirectory_congr (node?_of_attempted hwritten.attempted hapart)

/-- Where no directory is in the way the loop over the files does the same in both ways: no file
that it writes puts a directory in the way of one that comes later. -/
theorem writeFiles_mode (x : Exporter) (mode : FileTree.WriteMode) :
    ∀ {files : Export.Files} {p : Progress}, Export.AreSeparate (files.map Prod.fst) →
      (∀ path ∈ files.map Prod.fst, p.tree.isDirectory (x.destination path) = false) →
      { x with mode := mode }.writeFiles p files = x.writeFiles p files
  | [], _, _, _ => rfl
  | f :: rest, p, hfiles, h => by
    rw [List.map_cons] at hfiles h
    rw [List.forall_mem_cons] at h
    have hfirst := writeFile_mode x mode f.2 (hfiles.plain _ List.mem_cons_self) h.1
    have hrest : ∀ path ∈ rest.map Prod.fst,
        (x.writeFile p f.1 f.2).tree.isDirectory (x.destination path) = false := by
      intro path hpath
      have hapart := (hfiles.head path hpath).symm
      rw [← h.2 path hpath]
      exact isDirectory_writeFiles [f] p (List.forall_mem_singleton.mpr hapart)
    calc { x with mode := mode }.writeFiles p (f :: rest)
      _ = { x with mode := mode }.writeFiles (x.writeFile p f.1 f.2) rest := by
        rw [← hfirst]
        rfl
      _ = x.writeFiles (x.writeFile p f.1 f.2) rest := writeFiles_mode x mode hfiles.tail hrest

/-- **Where no directory is in the way, both ways of writing do the same.** -/
theorem perform_mode (x : Exporter) (mode : FileTree.WriteMode) {p : Progress} {b : Bundle}
    (hb : Export.AreSeparate (x.paths b)) (h : x.Unobstructed p.tree b) :
    { x with mode := mode }.perform p b = x.perform p b := by
  cases hrender : Export.render x.format b with
  | error f => simp only [perform, hrender]
  | ok files =>
    have hpaths := paths_of_render hrender
    rw [Unobstructed, hpaths, List.forall_mem_append] at h
    rw [hpaths] at hb
    have hfiles :
        { x with mode := mode }.writeFiles p.restart files = x.writeFiles p.restart files :=
      writeFiles_mode x mode (hb.sublist (List.sublist_append_left _ _)) h.1
    simp only [perform, hrender, hfiles]
    unfold writeManifest
    cases hown : x.withManifest with
    | false => rfl
    | true =>
      rw [hown] at hb h
      have hapart := fun path hpath =>
        ((List.pairwise_append.mp hb.apart).2.2 path hpath _ List.mem_cons_self).symm
      refine writeFile_mode x mode _ (hb.plain _ (List.mem_append_right _ List.mem_cons_self)) ?_
      rw [isDirectory_writeFiles _ _ hapart]
      exact h.2 _ List.mem_cons_self

/-! ## 4. Success -/

/-- Whether the file of a record is where it is to be, below the directory of the exporter, with the
size, the lines and the digest that the record has. -/
def OnDisk (x : Exporter) (t : FileTree) (r : Manifest.Record) : Prop :=
  let p := (Path.ofText r.path).resolve x.place
  x.place <+: p ∧ p ≠ x.place ∧ ∃ text, t.text? p = some text ∧ r = .ofFile r.path text

theorem onDisk_ofFile {x : Exporter} {t : FileTree} {path text : String}
    (hpath : (Path.ofText path).IsPlain) (h : t.text? (x.destination path) = some text) :
    x.OnDisk t (.ofFile path text) := by
  have hplace : (Path.ofText path).resolve x.place = x.destination path :=
    destination_eq_resolve hpath
  refine ⟨?_, ?_, text, ?_, rfl⟩
  · rw [Manifest.Record.ofFile, hplace]
    exact List.prefix_append _ _
  · rw [Manifest.Record.ofFile, hplace, destination]
    exact fun hsame => hpath.nonempty (List.append_right_eq_self.mp hsame)
  · rw [Manifest.Record.ofFile, hplace, h]

theorem isSome_of_onDisk {x : Exporter} {t : FileTree} {r : Manifest.Record}
    (hpath : (Path.ofText r.path).IsPlain) (h : x.OnDisk t r) :
    (t.text? (x.destination r.path)).isSome := by
  obtain ⟨-, -, text', htext, -⟩ := h
  rw [← destination_eq_resolve hpath]
  exact Option.isSome_of_eq_some htext

theorem Attempt.record?_of_fault {a : Attempt} (h : a.fault = none) :
    a.record? = some (.ofFile a.path a.text) := by
  rw [record?, h]
  rfl

theorem map_fst_ownFiles (x : Exporter) (records : List Manifest.Record) :
    (x.ownFiles records).map Prod.fst = if x.withManifest then [Manifest.fileName] else [] := by
  unfold ownFiles
  cases x.withManifest <;> rfl

/-- An export that succeeds has made all of its attempts, and none of them failed. -/
theorem attempted_of_success {x : Exporter} {t : FileTree} {b : Bundle}
    (h : (x.run t b).2.success = true) :
    ∃ attempts, Attempted x t attempts (x.run t b).1 ∧
      attempts.map Attempt.path = x.paths b ∧ (∀ a ∈ attempts, a.fault = none) ∧
      (x.run t b).2.manifest.records = attempts.map fun a => .ofFile a.path a.text := by
  cases hrender : Export.render x.format b with
  | error f =>
    simp only [run, perform, hrender] at h
    cases h
  | ok files =>
    obtain ⟨attempts, own, hall⟩ := accounts_perform x { tree := t } hrender
    have herrors : (attempts ++ own).filterMap Attempt.error? = [] := by
      rw [← hall.errors]
      exact List.isEmpty_iff.mp h
    have hfault : ∀ a ∈ attempts ++ own, a.fault = none := by
      intro a ha
      exact Option.map_eq_none_iff.mp (List.filterMap_eq_nil_iff.mp herrors a ha)
    refine ⟨attempts ++ own, hall.order, ?_, hfault, ?_⟩
    · rw [paths_of_render hrender, List.map_append, map_path_eq attempts, map_path_eq own, hall.all,
        hall.last, map_fst_ownFiles]
    · refine hall.records.trans ?_
      rw [List.filterMap_congr fun a ha => Attempt.record?_of_fault (hfault a ha)]
      exact congrFun List.filterMap_eq_map _

/-- The files that a successful export lists are on the disk exactly if no directory was in the way
of one of them. -/
theorem onDisk_iff {x : Exporter} {t : FileTree} {b : Bundle}
    (hb : Export.AreSeparate (x.paths b)) (h : (x.run t b).2.success = true) :
    (x.run t b).2.manifest.records.map Manifest.Record.path = x.paths b ∧
      ((∀ r ∈ (x.run t b).2.manifest.records, x.OnDisk (x.run t b).1 r) ↔ x.Unobstructed t b) := by
  obtain ⟨attempts, hattempted, hpaths, hfault, hrecords⟩ := attempted_of_success h
  rw [Unobstructed, ← hpaths]
  rw [← hpaths] at hb
  have htext := fun a ha => text?_of_attempted hattempted hb a ha (hfault a ha)
  have hplain := fun a (ha : a ∈ attempts) => hb.plain a.path (List.mem_map_of_mem ha)
  rw [hrecords, List.map_map, List.forall_mem_map, List.forall_mem_map]
  refine ⟨rfl, fun hdisk a ha => ?_, fun hclear a ha => ?_⟩
  · have hsome : ((x.run t b).1.text? (x.destination a.path)).isSome :=
      isSome_of_onDisk (r := .ofFile a.path a.text) (hplain a ha) (hdisk a ha)
    rw [htext a ha] at hsome
    cases hdirectory : t.isDirectory (x.destination a.path) with
    | false => rfl
    | true =>
      rw [hdirectory] at hsome
      cases hsome
  · refine onDisk_ofFile (hplain a ha) ?_
    rw [htext a ha, hclear a ha]
    rfl

/-- A plain export that succeeds found no directory in the way. -/
theorem unobstructed_of_plain {x : Exporter} (hx : x.mode = .plain) {t : FileTree} {b : Bundle}
    (hb : Export.AreSeparate (x.paths b)) (h : (x.run t b).2.success = true) :
    x.Unobstructed t b := by
  obtain ⟨attempts, hattempted, hpaths, hfault, -⟩ := attempted_of_success h
  rw [← hpaths] at hb
  rw [Unobstructed, ← hpaths, List.forall_mem_map]
  exact fun a ha => not_isDirectory_of_attempted hx hattempted hb a ha (hfault a ha)

/-- Where no directory is in the way, both ways of writing come to the same. -/
theorem run_mode (x : Exporter) (mode : FileTree.WriteMode) {t : FileTree} {b : Bundle}
    (hb : Export.AreSeparate (x.paths b)) (h : x.Unobstructed t b) :
    { x with mode := mode }.run t b = x.run t b := by
  have hperform := x.perform_mode mode (p := { tree := t }) hb h
  simp only [run, hperform]
  rfl

/-- **What success means.**  For files that are separate, and whatever is there before them:

* an export that succeeds lists all of its files, and they are on the disk as they are listed if and
  only if no directory was in the way of one of them;
* a plain export succeeds if and only if an atomic one does and no directory is in the way. -/
theorem success_on_disk (x : Exporter) (t : FileTree) (b : Bundle)
    (hb : Export.AreSeparate (x.paths b)) :
    ((x.run t b).2.success = true →
      (x.run t b).2.manifest.records.map Manifest.Record.path = x.paths b ∧
      ((∀ r ∈ (x.run t b).2.manifest.records, x.OnDisk (x.run t b).1 r) ↔ x.Unobstructed t b)) ∧
    (({ x with mode := .plain }.run t b).2.success = true ↔
      ({ x with mode := .atomic }.run t b).2.success = true ∧ x.Unobstructed t b) := by
  have hmode (mode : FileTree.WriteMode) (hclear : x.Unobstructed t b) :
      ({ x with mode := mode }.run t b).2.success = (x.run t b).2.success := by
    rw [x.run_mode mode hb hclear]
  refine ⟨onDisk_iff hb, fun hplain => ?_, fun ⟨hatomic, hclear⟩ => ?_⟩
  · have hclear : x.Unobstructed t b :=
      unobstructed_of_plain (x := { x with mode := .plain }) rfl hb hplain
    exact ⟨(hmode .atomic hclear).trans ((hmode .plain hclear).symm.trans hplain), hclear⟩
  · exact (hmode .plain hclear).trans ((hmode .atomic hclear).symm.trans hatomic)

/-- A first export into an empty tree. -/
theorem success_on_disk_empty :
    ∃ b, Bundle.generate {} .standard true "" Bundle.loneUser = .ok b ∧
      (toOut.run {} b).2.success = true ∧
      (toOut.run {} b).2.manifest.records.map Manifest.Record.path = allPaths ∧
      (∀ r ∈ (toOut.run {} b).2.manifest.records, toOut.OnDisk (toOut.run {} b).1 r) ∧
      ({ toOut with mode := .plain }.run {} b).2.success = true := by
  obtain ⟨b, hb, hsuccess, hpaths, hclear⟩ := any_toOption.mp
    (show (Bundle.generate {} .standard true "" Bundle.loneUser).toOption.any (fun b =>
      (toOut.run {} b).2.success = true ∧
      (toOut.run {} b).2.manifest.records.map Manifest.Record.path = allPaths ∧
      ∀ path ∈ toOut.paths b, FileTree.isDirectory {} (toOut.destination path) = false) = true by
        decide +kernel)
  obtain ⟨hdisk, hmode⟩ := success_on_disk toOut {} b (toOut.areSeparate_paths hb)
  exact ⟨b, hb, hsuccess, hpaths, (hdisk hsuccess).2.mpr hclear, hmode.mpr ⟨hsuccess, hclear⟩⟩

/-- A directory in the place of the schema, with a file inside. -/
def furnished : FileTree :=
  ⟨[(["out"], .directory), (["out", "schema.json"], .directory),
    (["out", "schema.json", "note"], .file "kept")]⟩

/-- An export that succeeds lists a schema that it moved onto a directory, where it is not; without
scratch files the same export does not succeed. -/
theorem schema_lost :
    ∃ b, Bundle.generate {} .standard true "" Bundle.loneUser = .ok b ∧
      (toOut.run furnished b).2.success = true ∧
      (¬ ∀ r ∈ (toOut.run furnished b).2.manifest.records,
        toOut.OnDisk (toOut.run furnished b).1 r) ∧
      ({ toOut with mode := .plain }.run furnished b).2.success = false := by
  obtain ⟨b, hb, hsuccess, hpaths, hnone, hplain⟩ := any_toOption.mp
    (show (Bundle.generate {} .standard true "" Bundle.loneUser).toOption.any (fun b =>
      (toOut.run furnished b).2.success = true ∧
      (toOut.run furnished b).2.manifest.records.map Manifest.Record.path = allPaths ∧
      (toOut.run furnished b).1.text? (toOut.destination "schema.json") = none ∧
      ({ toOut with mode := .plain }.run furnished b).2.success = false) = true by decide +kernel)
  refine ⟨b, hb, hsuccess, fun hdisk => ?_, hplain⟩
  have hlisted : "schema.json" ∈
      (toOut.run furnished b).2.manifest.records.map Manifest.Record.path := by
    rw [hpaths]
    exact List.mem_cons_self
  obtain ⟨r, hr, hpath⟩ := List.mem_map.mp hlisted
  have hplainPath : (Path.ofText r.path).IsPlain := by
    rw [hpath]
    decide
  have hsome := isSome_of_onDisk hplainPath (hdisk r hr)
  rw [hpath, hnone] at hsome
  cases hsome

end Exporter

end Schemata
