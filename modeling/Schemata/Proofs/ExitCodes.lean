import Schemata.Command.Run
import Schemata.Proofs.Linting
import Schemata.Proofs.Pool
/-!
# Documented exit codes

The documentation gives a code to every way in which a run that checks a model, or makes its
documents, can end.  Here that is said of settings and outcomes (`Setting.IsDocumented`), and what
it takes for a run to end so is found (`Setting.IsRegular`).  A file with half of a character in it
is set aside (`Setting.IsWhole`): it is no text, and a run on it is not followed to its end.

* `Setting.loaded?` is what every code depends on: the input with its normal form.
* `validateOnly_documented_iff` and `generate_documented_iff` treat the two modes, from there on.
* `isRegular_of_json`: files of JSON are regular where they are checked or exported.
* `runWith_cases`: how a run begins.
* `isFollowed_of_runWith`: a run on a file of whole characters is followed to its end.
* `run_documented`: a run ends with a documented code if its setting is regular, and only then.
-/

namespace Schemata.Command

namespace Setting

variable (s : Setting)

/-! ## 1. What is documented -/

/-- Whether the input is a file. -/
def isFile : Bool := (s.files.node? s.input).any FileNode.isFile

/-- What the input is read as. -/
def source : Except Source.Fault Source.Input :=
  Source.openFile s.files [] s.path s.overrides

/-- The input with its normal form; none where loading it, reading its settings or normalizing its
model failed. -/
def loaded? : Option (Source.Input × Model) :=
  if s.isFile then
    match s.source with
    | .error _ => none
    | .ok input =>
      match Model.normalize input.model with
      | .error _ => none
      | .ok m => some (input, m)
  else none

/-- The bundle of an input. -/
def bundle (input : Source.Input) : Except Pattern.Limit Bundle :=
  (Bundle.generate input.config s.clock true s.path.text input.model).map fun b =>
    { b with input := input.objects }

/-- The exporter of a run. -/
def exporter (home : Place) (output : String) : Exporter where
  place := (Path.ofText output).resolve home
  directory := (Path.ofPlace ((Path.ofText output).resolve home)).text
  format := .str s.arguments.apiFormat
  timestamp := s.clock.stamp.toOption.getD ""

/-- The errors of the export of a bundle, if there is to be one. -/
def exportErrors (home : Place) (b : Bundle) : List String :=
  match s.arguments.output with
  | none => []
  | some output => ((s.exporter home output).run s.files b).2.errors

/-- The code of a check with its issues. -/
def checkCode (issues : List Lint.Issue) : Nat :=
  if (Lint.findings issues).errors = [] then 0 else 1

/-- The code of a bundle: an export with errors counts before a document that failed. -/
def bundleCode (home : Place) (b : Bundle) : Nat :=
  if s.exportErrors home b ≠ [] then 3 else if b.report.failures ≠ [] then 2 else 0

/-- **Documented ends**: code 4 if and only if nothing was loaded, and otherwise the code of the
check or of the bundle. -/
structure IsDocumented (home : Place) (o : Outcome) : Prop where
  badInput : o.exit.code = 4 ↔ s.loaded? = none
  checked : s.arguments.mode = .validateOnly → ∀ input m, s.loaded? = some (input, m) →
    ∃ issues, Lint.everything m input.config = .ok issues ∧ o.exit.code = checkCode issues
  made : s.arguments.mode = .generate → ∀ input m, s.loaded? = some (input, m) →
    ∃ b, s.bundle input = .ok b ∧ o.exit.code = s.bundleCode home b

/-- Whether the input has whole characters only. -/
def IsWhole : Prop := ∀ f, s.source = .error f → f.isHalf = false

/-- What it takes for a documented end. -/
structure IsRegular : Prop where
  input : isNameable s.arguments.input = true
  /-- Neither the path of the input nor a part of it is too long. -/
  path : s.files.refuses [] s.path = false
  output : s.isFile = true → s.arguments.mode = .generate →
    s.arguments.output.all isNameable = true
  /-- A file that cannot be read has a fault that is reported. -/
  fault : s.isFile = true → ∀ f, s.source = .error f → isReported f = true
  /-- No pattern of the model is beyond a limit. -/
  limit : ∀ input m, s.loaded? = some (input, m) → m.limit? = none
  /-- A bundle that is printed can be written. -/
  text : s.arguments.mode = .generate → s.arguments.output = none →
    ∀ input m, s.loaded? = some (input, m) → ∀ b, s.bundle input = .ok b →
      ∃ text, Export.jsonText b.toValue = .ok text

variable {s} {home : Place}

/-! ## 2. What is loaded -/

theorem loaded?_of_not_isFile (hfile : s.isFile = false) : s.loaded? = none := by
  rw [loaded?, hfile]
  rfl

theorem loaded?_of_fault {f : Source.Fault} (hsource : s.source = .error f) :
    s.loaded? = none := by
  rw [loaded?, hsource]
  exact ite_self none

theorem loaded?_of_abnormal {input : Source.Input} {f : Model.Fault}
    (hsource : s.source = .ok input)
    (hm : Model.normalize input.model = .error f) : s.loaded? = none := by
  rw [loaded?, hsource]
  simp only [hm, ite_self]

theorem loaded?_of_normal {input : Source.Input} {m : Model} (hfile : s.isFile = true)
    (hsource : s.source = .ok input) (hm : Model.normalize input.model = .ok m) :
    s.loaded? = some (input, m) := by
  rw [loaded?, if_pos hfile, hsource]
  simp only [hm]

theorem source_of_loaded? {input : Source.Input} {m : Model}
    (hloaded : s.loaded? = some (input, m)) : s.source = .ok input := by
  unfold loaded? at hloaded
  split at hloaded
  · split at hloaded
    · cases hloaded
    · rename_i hsource
      split at hloaded
      · cases hloaded
      · cases hloaded
        exact hsource
  · cases hloaded

/-- An input that is a file cannot be read, has no normal form, or is loaded. -/
theorem loading (hfile : s.isFile = true) :
    (∃ f, s.source = .error f) ∨
    (∃ input f, s.source = .ok input ∧ Model.normalize input.model = .error f) ∨
    ∃ input m, s.source = .ok input ∧ Model.normalize input.model = .ok m ∧
      s.loaded? = some (input, m) := by
  cases hsource : s.source with
  | error f => exact .inl ⟨f, rfl⟩
  | ok input =>
    cases hm : Model.normalize input.model with
    | error f => exact .inr (.inl ⟨input, f, rfl, hm⟩)
    | ok m => exact .inr (.inr ⟨input, m, rfl, hm, loaded?_of_normal hfile hsource hm⟩)

/-- An outcome of code 4 is documented where nothing was loaded. -/
theorem isDocumented_of_badInput {o : Outcome} (hloaded : s.loaded? = none)
    (hcode : o.exit.code = 4) : s.IsDocumented home o where
  badInput := by simp [hloaded, hcode]
  checked _ input m h := by simp [hloaded] at h
  made _ input m h := by simp [hloaded] at h

/-- The outcome of a check is documented by its code. -/
theorem isDocumented_validateOnly_iff {o : Outcome} {input : Source.Input} {m : Model}
    {issues : List Lint.Issue} (hmode : s.arguments.mode = .validateOnly)
    (hloaded : s.loaded? = some (input, m))
    (hissues : Lint.everything m input.config = .ok issues) :
    s.IsDocumented home o ↔ o.exit.code = checkCode issues := by
  constructor
  · intro h
    obtain ⟨issues', hissues', hcode⟩ := h.checked hmode input m hloaded
    rw [hissues] at hissues'
    cases hissues'
    exact hcode
  · intro hcode
    refine ⟨?_, ?_, ?_⟩
    · rw [hcode, hloaded, checkCode]
      split_ifs <;> simp
    · intro _ input' m' h
      rw [hloaded] at h
      cases h
      exact ⟨issues, hissues, hcode⟩
    · intro h
      rw [hmode] at h
      cases h

/-- The outcome of making documents is documented by its code. -/
theorem isDocumented_generate_iff {o : Outcome} {input : Source.Input} {m : Model} {b : Bundle}
    (hmode : s.arguments.mode = .generate) (hloaded : s.loaded? = some (input, m))
    (hb : s.bundle input = .ok b) :
    s.IsDocumented home o ↔ o.exit.code = s.bundleCode home b := by
  constructor
  · intro h
    obtain ⟨b', hb', hcode⟩ := h.made hmode input m hloaded
    rw [hb] at hb'
    cases hb'
    exact hcode
  · intro hcode
    refine ⟨?_, ?_, ?_⟩
    · rw [hcode, hloaded, bundleCode]
      split_ifs <;> simp
    · intro h
      rw [hmode] at h
      cases h
    · intro _ input' m' h
      rw [hloaded] at h
      cases h
      exact ⟨b, hb, hcode⟩

/-- A fault of the input ends a run with code 4 or without a code. -/
theorem badSource_documented_iff {what : String} {f : Source.Fault} (hloaded : s.loaded? = none) :
    (∃ o, s.badSource what f = .ok o ∧ s.IsDocumented home o) ↔ isReported f = true := by
  unfold badSource
  cases hreported : isReported f with
  | false => simp
  | true =>
    simp only [↓reduceIte, Except.ok.injEq, exists_eq_left', iff_true]
    exact isDocumented_of_badInput hloaded rfl

end Setting

variable {s : Setting} {home : Place}

theorem openFile_eq_source : Source.openFile s.files [] s.path s.overrides = s.source := rfl

/-! ## 3. Checking a model -/

/-- The code that a check gives is the one that is documented. -/
theorem code_of_findings (issues : List Lint.Issue) :
    (if (Lint.findings issues).isValid then Exit.success else Exit.invalid).code
      = Setting.checkCode issues := by
  unfold Setting.checkCode Findings.isValid
  cases (Lint.findings issues).errors <;> rfl

theorem validateOnly_documented_iff (hmode : s.arguments.mode = .validateOnly)
    (hfile : s.isFile = true) :
    (∃ o, validateOnly s = .ok o ∧ s.IsDocumented home o) ↔
      (∀ f, s.source = .error f → isReported f = true) ∧
      ∀ input m, s.loaded? = some (input, m) → m.limit? = none := by
  rcases Setting.loading hfile with ⟨f, hsource⟩ | ⟨input, f, hsource, hm⟩ |
    ⟨input, m, hsource, hm, hloaded⟩
  · have hloaded := Setting.loaded?_of_fault hsource
    have hrun : validateOnly s = s.badSource "model" f := by
      rw [validateOnly, openFile_eq_source, hsource]
    rw [hrun, Setting.badSource_documented_iff hloaded]
    simp [hsource, hloaded]
  · have hloaded := Setting.loaded?_of_abnormal hsource hm
    have hrun : ∃ o, validateOnly s = .ok o ∧ o.exit = .badInput := by
      simp only [validateOnly, openFile_eq_source, hsource, hm]
      exact ⟨_, rfl, rfl⟩
    obtain ⟨o, ho, hexit⟩ := hrun
    have hdocumented : s.IsDocumented home o :=
      Setting.isDocumented_of_badInput hloaded (hexit ▸ rfl)
    simp [hsource, hloaded, ho, hdocumented]
  · have hlimit : fault? (Lint.everything m input.config) = m.limit? :=
      Lint.fault?_everything m input.config
    cases hissues : Lint.everything m input.config with
    | error l =>
      have hrun : validateOnly s = .error (.limit l) := by
        simp only [validateOnly, openFile_eq_source, hsource, hm, hissues]
      rw [hissues] at hlimit
      simp [hrun, hsource, hloaded, ← hlimit, fault?]
    | ok issues =>
      have hrun : ∃ o, validateOnly s = .ok o ∧ o.exit.code = Setting.checkCode issues := by
        simp only [validateOnly, openFile_eq_source, hsource, hm, hissues]
        exact ⟨_, rfl, code_of_findings issues⟩
      obtain ⟨o, ho, hcode⟩ := hrun
      rw [hissues] at hlimit
      have hdocumented : s.IsDocumented home o :=
        (Setting.isDocumented_validateOnly_iff hmode hloaded hissues).mpr hcode
      simp [hsource, hloaded, ho, hdocumented, ← hlimit, fault?]

/-! ## 4. Making documents -/

/-- A bundle that is made of a normal form, with the lint, holds it, and fails as its report
says. -/
theorem bundle_of_normal {input : Source.Input} {m : Model} {b : Bundle}
    (hm : Model.normalize input.model = .ok m) (hb : s.bundle input = .ok b) :
    b.model = some m ∧ b.report.success = b.report.failures.isEmpty := by
  rw [Setting.bundle, Bundle.generate,
    Bundle.generateIn_lint input.config s.clock s.path.text hm Artifact.mem_all] at hb
  cases hissues : Lint.everything m input.config with
  | error l =>
    rw [hissues] at hb
    cases hb
  | ok issues =>
    rw [hissues] at hb
    cases hb
    exact ⟨rfl, rfl⟩

theorem fault?_bundle {input : Source.Input} {m : Model}
    (hm : Model.normalize input.model = .ok m) : fault? (s.bundle input) = m.limit? := by
  rw [Setting.bundle, fault?_map]
  exact Bundle.fault?_generateIn input.config s.clock s.path.text hm Artifact.mem_all

/-- What is done with the bundle of a loaded model. -/
theorem generate_of_bundle (home : Place) {input : Source.Input} {m : Model} {b : Bundle}
    (hsource : s.source = .ok input) (hm : Model.normalize input.model = .ok m)
    (hb : s.bundle input = .ok b) :
    generate s home = s.arguments.output.elim (printBundle s b)
      fun output => .ok (exportBundle s home output b) := by
  obtain ⟨hmodel, -⟩ := bundle_of_normal hm hb
  obtain ⟨made, hmade, hrest⟩ : ∃ made,
      Bundle.generate input.config s.clock true s.path.text input.model = .ok made ∧
        { made with input := input.objects } = b := by
    rw [Setting.bundle] at hb
    cases hmade : Bundle.generate input.config s.clock true s.path.text input.model with
    | error l =>
      rw [hmade] at hb
      cases hb
    | ok made =>
      rw [hmade] at hb
      cases hb
      exact ⟨made, rfl, rfl⟩
  have hsome : made.model.isNone = false := by
    rw [← hrest] at hmodel
    exact Option.isNone_eq_false_iff.mpr (Option.isSome_of_eq_some hmodel)
  rw [generate, openFile_eq_source, hsource]
  simp only [hmade, hrest, hsome, Bool.false_eq_true, ↓reduceIte]
  cases s.arguments.output <;> rfl

theorem bundleExit_code {b : Bundle} (h : b.report.success = b.report.failures.isEmpty) :
    (bundleExit b).code = if b.report.failures ≠ [] then 2 else 0 := by
  rw [bundleExit, h]
  cases b.report.failures <;> rfl

/-- The code of a bundle that is printed is documented if the bundle can be written at all. -/
theorem printBundle_code {b : Bundle} (houtput : s.arguments.output = none)
    (hb : b.report.success = b.report.failures.isEmpty) :
    (∃ o, printBundle s b = .ok o ∧ o.exit.code = s.bundleCode home b) ↔
      ∃ text, Export.jsonText b.toValue = .ok text := by
  have hcode : (bundleExit b).code = s.bundleCode home b := by
    rw [bundleExit_code hb, Setting.bundleCode, Setting.exportErrors, houtput]
    rfl
  constructor
  · rintro ⟨o, ho, -⟩
    obtain ⟨text, htext, -⟩ := bind_eq_ok.mp ho
    exact ⟨text, mapError_eq_ok.mp htext⟩
  · rintro ⟨text, htext⟩
    refine ⟨_, bind_eq_ok.mpr ⟨text, mapError_eq_ok.mpr htext, rfl⟩, hcode⟩

theorem exportBundle_code {b : Bundle} {output : String}
    (houtput : s.arguments.output = some output)
    (hb : b.report.success = b.report.failures.isEmpty) :
    (exportBundle s home output b).exit.code = s.bundleCode home b := by
  have hexit : (exportBundle s home output b).exit
      = if ((s.exporter home output).run s.files b).2.success then bundleExit b
        else .exportFailed := by
    unfold exportBundle
    exact (apply_ite Outcome.exit _ _ _).trans rfl
  have herrors : s.exportErrors home b = ((s.exporter home output).run s.files b).2.errors := by
    rw [Setting.exportErrors, houtput]
  rw [hexit, Setting.bundleCode, herrors, Exporter.Result.success]
  cases ((s.exporter home output).run s.files b).2.errors with
  | nil => exact bundleExit_code hb
  | cons e es => rfl

/-- A limit ends a run with a code of its own, or without one, though the input was loaded. -/
theorem not_documented_of_limit {input : Source.Input} {m : Model} {l : Pattern.Limit} {o : Outcome}
    (hloaded : s.loaded? = some (input, m)) (hsource : s.source = .ok input)
    (hb : s.bundle input = .error l) (ho : generate s home = .ok o) : ¬ s.IsDocumented home o := by
  intro hdocumented
  have hmade : Bundle.generate input.config s.clock true s.path.text input.model = .error l := by
    have hfault := congrArg fault? hb
    rw [Setting.bundle, fault?_map] at hfault
    exact fault?_eq_some.mp hfault
  have hcode : o.exit.code = 4 := by
    simp only [generate, openFile_eq_source, hsource, hmade] at ho
    split at ho
    · cases ho
      rfl
    · cases ho
  have hnone := hdocumented.badInput.mp hcode
  rw [hloaded] at hnone
  cases hnone

theorem generate_documented_iff (hmode : s.arguments.mode = .generate)
    (hfile : s.isFile = true) :
    (∃ o, generate s home = .ok o ∧ s.IsDocumented home o) ↔
      (∀ f, s.source = .error f → isReported f = true) ∧
      (∀ input m, s.loaded? = some (input, m) → m.limit? = none) ∧
      (s.arguments.output = none → ∀ input m, s.loaded? = some (input, m) →
        ∀ b, s.bundle input = .ok b → ∃ text, Export.jsonText b.toValue = .ok text) := by
  rcases Setting.loading hfile with ⟨f, hsource⟩ | ⟨input, f, hsource, hm⟩ |
    ⟨input, m, hsource, hm, hloaded⟩
  · have hloaded := Setting.loaded?_of_fault hsource
    have hrun : generate s home = s.badSource "model" f := by
      rw [generate, openFile_eq_source, hsource]
    rw [hrun, Setting.badSource_documented_iff hloaded]
    simp [hsource, hloaded]
  · have hloaded := Setting.loaded?_of_abnormal hsource hm
    have hrun : ∃ o, generate s home = .ok o ∧ o.exit = .badInput := by
      simp only [generate, openFile_eq_source, hsource, Bundle.generate, Bundle.generateIn, hm]
      cases f.isFailure <;> exact ⟨_, rfl, rfl⟩
    obtain ⟨o, ho, hexit⟩ := hrun
    have hdocumented : s.IsDocumented home o :=
      Setting.isDocumented_of_badInput hloaded (hexit ▸ rfl)
    simp [hsource, hloaded, ho, hdocumented]
  · have hlimit : fault? (s.bundle input) = m.limit? := fault?_bundle hm
    cases hb : s.bundle input with
    | error l =>
      rw [hb] at hlimit
      constructor
      · rintro ⟨o, ho, hdocumented⟩
        exact absurd hdocumented (not_documented_of_limit hloaded hsource hb ho)
      · rintro ⟨-, hnone, -⟩
        rw [hnone input m hloaded] at hlimit
        cases hlimit
    | ok b =>
      rw [hb] at hlimit
      obtain ⟨-, hsuccess⟩ := bundle_of_normal hm hb
      have hdocumented (o : Outcome) : s.IsDocumented home o ↔ _ :=
        Setting.isDocumented_generate_iff hmode hloaded hb
      have hrun := generate_of_bundle home hsource hm hb
      simp only [hdocumented, hrun]
      cases houtput : s.arguments.output with
      | none =>
        rw [Option.elim_none, printBundle_code houtput hsuccess]
        simp [hsource, hloaded, hb, ← hlimit, fault?]
      | some output =>
        simp [hsource, hloaded, exportBundle_code houtput hsuccess, ← hlimit, fault?]

/-! ## 5. Files of JSON -/

theorem isReported_of_json_iff {path : String} {f : Json.ReadFault} :
    isReported (.json path f) = true ↔ Source.Fault.isHalf (.json path f) = false := by
  simp [isReported, Source.Fault.isHalf]

theorem isReported_of_readJson {path text : String} :
    ∀ f, Source.readJson path text = .error f → f.isHalf = false → isReported f = true := by
  refine forall_error_bind (forall_error_mapError fun _ => isReported_of_json_iff.mpr) fun v =>
    forall_error_bind (fun f h _ => ?_) nofun
  cases v <;> cases h <;> rfl

/-- A document without a model, or with bad settings, is reported in every format. -/
theorem isReported_of_split {es : List (Scalar × Value)} {overrides : Value} :
    ∀ f, Source.split es overrides = .error f → isReported f = true := by
  have hmodel : ∀ f, Source.modelOf es = .error f → isReported f = true := by
    intro f h
    unfold Source.modelOf at h
    split at h
    · split at h <;> cases h
      rfl
    · split at h <;> cases h
      rfl
    · cases h
    · cases h
      rfl
  have hconfig : ∀ f, Source.configOf es = .error f → isReported f = true := by
    intro f h
    unfold Source.configOf at h
    split at h
    · cases h
    · cases h
    · split at h <;> cases h
      rfl
  refine forall_error_bind hmodel fun model => forall_error_bind hconfig fun config =>
    forall_error_bind (forall_error_mapError fun _ => rfl) fun given f h => ?_
  split at h <;> cases h
  rfl

/-- Why there is no model in a file of JSON is reported, if the file can be looked up and has whole
characters only. -/
theorem isReported_of_json (hsuffix : s.path.suffix = ".json")
    (hpath : s.files.refuses [] s.path = false) (hwhole : s.IsWhole) :
    ∀ f, s.source = .error f → isReported f = true := by
  have hread (path text : String) :
      ∀ f, Source.read ".json" path text = .error f → f.isHalf = false → isReported f = true :=
    isReported_of_readJson
  have hopen : ∀ f, Source.openDocument s.files [] s.path = .error f → f.isHalf = false →
      isReported f = true := by
    intro f h hhalf
    rw [Source.openDocument, hpath, if_neg Bool.false_ne_true, hsuffix] at h
    split at h
    · cases h
      rfl
    · cases h
      rfl
    · exact hread _ _ f h hhalf
    · exact forall_error_bind (forall_error_mapError fun _ _ => rfl) (fun _ => hread _ _) f h hhalf
  intro f hf
  refine forall_error_bind (P := fun f => f.isHalf = false → isReported f = true) hopen
    (fun d => forall_error_bind (fun f h _ => isReported_of_split f h) fun _ _ h => ?_)
    f hf (hwhole f hf)
  cases h

/-- **Files of JSON are regular** if they are checked, or if their documents are exported, as long
as no pattern in them is beyond a limit. -/
theorem isRegular_of_json (hsuffix : s.path.suffix = ".json")
    (hinput : isNameable s.arguments.input = true) (hpath : s.files.refuses [] s.path = false)
    (hwhole : s.IsWhole)
    (hmode : s.arguments.mode = .validateOnly ∨
      ∃ output, s.arguments.output = some output ∧ isNameable output = true)
    (hlimit : ∀ input m, s.loaded? = some (input, m) → m.limit? = none) : s.IsRegular where
  input := hinput
  path := hpath
  output _ hgenerate := by
    rcases hmode with hmode | ⟨output, houtput, hnameable⟩
    · rw [hmode] at hgenerate
      cases hgenerate
    · rw [houtput]
      exact hnameable
  fault _ := isReported_of_json hsuffix hpath hwhole
  limit := hlimit
  text hgenerate hprinted := by
    rcases hmode with hmode | ⟨output, houtput, -⟩
    · rw [hmode] at hgenerate
      cases hgenerate
    · rw [houtput] at hprinted
      cases hprinted

/-! ## 6. Runs -/

theorem perform_documented_iff (hinput : isNameable s.arguments.input = true)
    (hpath : s.files.refuses [] s.path = false) (hfile : s.isFile = true)
    (hmode : s.arguments.mode = .generate ∨ s.arguments.mode = .validateOnly) :
    (∃ o, perform s home = .ok o ∧ s.IsDocumented home o) ↔ s.IsRegular := by
  rcases hmode with hmode | hmode
  · cases houtput : s.arguments.output.all isNameable with
    | false =>
      have hcrash : perform s home = .error .unnameable := by
        simp only [perform, hmode, houtput, Bool.false_eq_true, ↓reduceIte]
      constructor
      · rintro ⟨o, ho, -⟩
        rw [hcrash] at ho
        cases ho
      · intro h
        have hnameable := h.output hfile hmode
        rw [houtput] at hnameable
        cases hnameable
    | true =>
      have hperform : perform s home = generate s home := by
        simp only [perform, hmode, houtput, ↓reduceIte]
      rw [hperform, generate_documented_iff hmode hfile]
      constructor
      · rintro ⟨hfault, hlimit, htext⟩
        exact ⟨hinput, hpath, fun _ _ => houtput, fun _ => hfault, hlimit, fun _ => htext⟩
      · intro h
        exact ⟨h.fault hfile, h.limit, h.text hmode⟩
  · have hperform : perform s home = validateOnly s := by
      simp only [perform, hmode]
    have hother : s.arguments.mode ≠ .generate := by
      rw [hmode]
      exact nofun
    rw [hperform, validateOnly_documented_iff hmode hfile]
    constructor
    · rintro ⟨hfault, hlimit⟩
      exact ⟨hinput, hpath, fun _ h => absurd h hother, fun _ => hfault, hlimit,
        fun h => absurd h hother⟩
    · intro h
      exact ⟨h.fault hfile, h.limit⟩

/-- The setting of a run with its arguments. -/
def Setting.of (clock : Clock) (home : Place) (files : FileTree) (a : Arguments) : Setting :=
  ⟨clock, files, a, (Path.ofText a.input).resolve home⟩

/-- **How a run begins**: its input has no path, the path is too long, there is no file, or there is
one with which it does what it was asked to do. -/
theorem runWith_cases (clock : Clock) (home : Place) (files : FileTree) (a : Arguments) :
    let s := Setting.of clock home files a
    (isNameable a.input = false ∧ runWith clock home files a = .error .unnameable) ∨
    (files.refuses [] s.path = true ∧
      runWith clock home files a = .error (.source (.tooLong s.path.text))) ∨
    (isNameable a.input = true ∧ files.refuses [] s.path = false ∧ s.isFile = false ∧
      ∃ o, runWith clock home files a = .ok o ∧ o.exit = .badInput) ∨
    (isNameable a.input = true ∧ files.refuses [] s.path = false ∧ s.isFile = true ∧
      runWith clock home files a = perform s home) := by
  intro s
  have hfile : s.isFile
      = (files.node? ((Path.ofText a.input).resolve home)).any FileNode.isFile := rfl
  have hnamed {b : Bool} (h : ¬ (!b) = true) : b = true := by simpa using h
  have hopen {b : Bool} (h : ¬ b = true) : b = false := by simpa using h
  unfold runWith
  dsimp only
  split
  · next hinput => exact .inl ⟨by simpa using hinput, rfl⟩
  · next hinput =>
    split
    · next hpath => exact .inr (.inl ⟨hpath, rfl⟩)
    · next hpath =>
      refine .inr (.inr ?_)
      split
      · next hnode =>
        exact .inl ⟨hnamed hinput, hopen hpath, by rw [hfile, hnode]; rfl, _, rfl, rfl⟩
      · next hnode =>
        exact .inl ⟨hnamed hinput, hopen hpath, by rw [hfile, hnode]; rfl, _, rfl, rfl⟩
      · next n hother hnode =>
        refine .inr ⟨hnamed hinput, hopen hpath, ?_, rfl⟩
        rw [hfile, hnode]
        cases n with
        | directory => exact absurd rfl hother
        | file | binary => rfl

/-- Runs that end with a documented code are those of regular settings. -/
theorem runWith_documented_iff (clock : Clock) (home : Place) (files : FileTree) {a : Arguments}
    (hmode : a.mode = .generate ∨ a.mode = .validateOnly) :
    (∃ o, runWith clock home files a = .ok o ∧
        (Setting.of clock home files a).IsDocumented home o) ↔
      (Setting.of clock home files a).IsRegular := by
  rcases runWith_cases clock home files a with ⟨hinput, hrun⟩ | ⟨hpath, hrun⟩ |
    ⟨hinput, hpath, hfile, o, hrun, hexit⟩ | ⟨hinput, hpath, hfile, hrun⟩
  · rw [hrun]
    constructor
    · rintro ⟨o, ho, -⟩
      cases ho
    · intro h
      cases hinput.symm.trans h.input
  · rw [hrun]
    constructor
    · rintro ⟨o, ho, -⟩
      cases ho
    · intro h
      cases hpath.symm.trans h.path
  · have hloaded := Setting.loaded?_of_not_isFile hfile
    constructor
    · intro _
      exact ⟨hinput, hpath, by simp [hfile], by simp [hfile], by simp [hloaded], by simp [hloaded]⟩
    · intro _
      exact ⟨o, hrun, Setting.isDocumented_of_badInput hloaded (hexit ▸ rfl)⟩
  · rw [hrun]
    exact perform_documented_iff hinput hpath hfile hmode

/-! ## 7. Runs that are followed to their end -/

theorem isFollowed_of_badSource {what : String} {f : Source.Fault} (hf : f.isHalf = false) :
    ∀ crash, s.badSource what f = .error crash → crash.isFollowed = true := by
  intro crash h
  unfold Setting.badSource at h
  split at h
  · cases h
  · cases h
    rw [Crash.isFollowed, hf]
    rfl

theorem isFollowed_of_validateOnly (hwhole : s.IsWhole) :
    ∀ crash, validateOnly s = .error crash → crash.isFollowed = true := by
  intro crash h
  rw [validateOnly, openFile_eq_source] at h
  split at h
  · rename_i f hsource
    exact isFollowed_of_badSource (hwhole f hsource) crash h
  · split at h
    · cases h
    · split at h
      · cases h
        rfl
      · cases h

theorem isFollowed_of_printBundle {b : Bundle} :
    ∀ crash, printBundle s b = .error crash → crash.isFollowed = true := by
  refine forall_error_bind (forall_error_mapError fun _ => rfl) fun _ _ h => ?_
  cases h

theorem isFollowed_of_generate (hwhole : s.IsWhole) :
    ∀ crash, generate s home = .error crash → crash.isFollowed = true := by
  intro crash h
  rw [generate, openFile_eq_source] at h
  split at h
  · rename_i f hsource
    exact isFollowed_of_badSource (hwhole f hsource) crash h
  · split at h
    · split at h
      · cases h
      · cases h
        rfl
    · simp only at h
      split at h
      · cases h
      · split at h
        · exact isFollowed_of_printBundle crash h
        · cases h

theorem isFollowed_of_perform
    (hmode : s.arguments.mode = .generate ∨ s.arguments.mode = .validateOnly)
    (hwhole : s.IsWhole) : ∀ crash, perform s home = .error crash → crash.isFollowed = true := by
  intro crash h
  rcases hmode with hmode | hmode
  · simp only [perform, hmode] at h
    split at h
    · exact isFollowed_of_generate hwhole crash h
    · cases h
      rfl
  · simp only [perform, hmode] at h
    exact isFollowed_of_validateOnly hwhole crash h

/-- A run that checks a model or makes its documents is followed to its end if its input has whole
characters only. -/
theorem isFollowed_of_runWith {clock : Clock} {files : FileTree} {a : Arguments}
    (hmode : a.mode = .generate ∨ a.mode = .validateOnly)
    (hwhole : (Setting.of clock home files a).IsWhole) :
    ∀ crash, runWith clock home files a = .error crash → crash.isFollowed = true := by
  intro crash h
  rcases runWith_cases clock home files a with ⟨-, hrun⟩ | ⟨-, hrun⟩ | ⟨-, -, -, o, hrun, -⟩ |
    ⟨-, -, -, hrun⟩
  · cases hrun.symm.trans h
    rfl
  · cases hrun.symm.trans h
    rfl
  · cases hrun.symm.trans h
  · exact isFollowed_of_perform hmode hwhole crash (hrun.symm.trans h)

/-- **When a run ends with a documented code.**  A run that checks a model or makes its documents
ends with the code that the documentation gives it if its setting is regular.  If its input has
whole characters only, it does so only then: otherwise it ends without a code, or with another. -/
theorem run_documented (clock : Clock) (home : Place) (files : FileTree) {words : List String}
    {a : Arguments} (hread : Arguments.read words = .ok a)
    (hmode : a.mode = .generate ∨ a.mode = .validateOnly) :
    ((Setting.of clock home files a).IsRegular →
      ∃ o, run clock home files words = .ok o ∧
        (Setting.of clock home files a).IsDocumented home o) ∧
    ((Setting.of clock home files a).IsWhole → ¬ (Setting.of clock home files a).IsRegular →
      (∃ crash, run clock home files words = .error crash ∧ crash.isFollowed = true) ∨
      ∃ o, run clock home files words = .ok o ∧
        ¬ (Setting.of clock home files a).IsDocumented home o) := by
  have hrun : run clock home files words = runWith clock home files a := by
    rw [run, hread]
  have hiff := runWith_documented_iff clock home files hmode
  rw [hrun]
  refine ⟨hiff.mpr, fun hwhole hirregular => ?_⟩
  cases hend : runWith clock home files a with
  | error crash => exact .inl ⟨crash, rfl, isFollowed_of_runWith hmode hwhole crash hend⟩
  | ok o => exact .inr ⟨o, rfl, fun hdocumented => hirregular (hiff.mp ⟨o, hend, hdocumented⟩)⟩

/-- A file in the home. -/
def withFile (name text : String) : FileTree := ⟨[([name], .file text)]⟩

/-- A model of one entity without fields, as a file of JSON. -/
def loneUserFile : FileTree :=
  withFile "m.json" "\x7b\"entities\": [\x7b\"name\": \"user\", \"fields\": []\x7d]\x7d"

/-- The setting of a run that prints the documents of that model. -/
def loneUserRun : Setting := .of .standard [] loneUserFile { input := "m.json" }

/-- The documents of a model that are printed end with code 0. -/
theorem run_documented_print :
    ∃ o, run .standard [] loneUserFile ["-i", "m.json"] = .ok o ∧
      loneUserRun.IsDocumented [] o ∧ o.exit.code = 0 := by
  have hread : Arguments.read ["-i", "m.json"] = .ok { input := "m.json" } := by decide +kernel
  obtain ⟨⟨input, m⟩, hloaded, hrest⟩ := (Option.any_eq_true _ _).mp
    (show loneUserRun.loaded?.any (fun p => p.2.limit? = none ∧
        (loneUserRun.bundle p.1).toOption.any (fun b =>
          (Export.jsonText b.toValue).toBool = true ∧ loneUserRun.bundleCode [] b = 0) = true)
        = true by decide +kernel)
  obtain ⟨hlimit, hbundle⟩ := of_decide_eq_true hrest
  obtain ⟨b, hb, htext, hcode⟩ := any_toOption.mp hbundle
  have hregular : loneUserRun.IsRegular := by
    refine ⟨by decide +kernel, by decide +kernel, fun _ _ => rfl, ?_, ?_, ?_⟩
    · intro _ f hf
      rw [Setting.source_of_loaded? hloaded] at hf
      cases hf
    · intro input' m' h
      rw [hloaded] at h
      cases h
      exact hlimit
    · intro _ _ input' m' h b' hb'
      rw [hloaded] at h
      cases h
      rw [hb] at hb'
      cases hb'
      exact toBool_eq_true.mp htext
  obtain ⟨o, ho, hdocumented⟩ :=
    (run_documented .standard [] loneUserFile hread (.inl rfl)).1 hregular
  obtain ⟨b', hb', hexit⟩ := hdocumented.made rfl input m hloaded
  have hsame : b = b' := Except.ok.inj (hb.symm.trans hb')
  exact ⟨o, ho, hdocumented, by rw [hexit, ← hsame]; exact hcode⟩

/-- A YAML tag on a word that is no boolean ends a run without a code. -/
theorem run_without_code :
    ∃ a crash, Arguments.read ["-i", "m.yaml"] = .ok a ∧ a.mode = .generate ∧
      run .standard [] (withFile "m.yaml" "entities: !!bool maybe\n") ["-i", "m.yaml"]
        = .error crash ∧ crash.message = "'maybe'" ∧ crash.isFollowed = true := by
  have hread : Arguments.read ["-i", "m.yaml"] = .ok { input := "m.yaml" } := by decide +kernel
  have hcrash : (fault? (run .standard [] (withFile "m.yaml" "entities: !!bool maybe\n")
      ["-i", "m.yaml"])).any (fun crash => crash.message = "'maybe'" ∧ crash.isFollowed = true)
        = true := by decide +kernel
  obtain ⟨crash, hfault, hmessage⟩ := (Option.any_eq_true _ _).mp hcrash
  exact ⟨_, crash, hread, rfl, fault?_eq_some.mp hfault, of_decide_eq_true hmessage⟩

end Schemata.Command
