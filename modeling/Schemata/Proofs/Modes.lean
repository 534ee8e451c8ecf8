import Schemata.Proofs.ExitCodes
import Schemata.Proofs.Lines
/-!
# A check and a generation of one input

A model file can be checked, or its documents can be made.  Both load the file and look at it with
the lint, each for itself.  Where both end with an exit code they agree: either the file is bad for
both, or the check tells what the report of the generation says of the lint.

* `Arguments.SameRequest`: two command lines with one input and the same settings.
* `checkPage`: what a check prints, line by line, in terms of the report of a generation.
* `ended_of_check`, `ended_of_generation`: how a run of either mode ends, if it ends with a code.
* `modes_agree`: what the two runs have in common.
-/

namespace Schemata.Command

/-! ## 1. One request in two modes -/

/-- Two command lines that name one input and give the same settings. -/
structure Arguments.SameRequest (a a' : Arguments) : Prop where
  input : a.input = a'.input
  apiTitle : a.apiTitle = a'.apiTitle
  apiVersion : a.apiVersion = a'.apiVersion
  baseUrl : a.baseUrl = a'.baseUrl
  pageSize : a.pageSize = a'.pageSize
  alternatives : a.alternatives = a'.alternatives
  parallel : a.parallel = a'.parallel

section SameRequest

variable {a a' : Arguments} (hsame : a.SameRequest a') (clock clock' : Clock) (home : Place)
  (files : FileTree)

include hsame

theorem Setting.path_same :
    (Setting.of clock home files a).path = (Setting.of clock' home files a').path := by
  rw [path, path, of, of, hsame.input]

/-- The same request reads the input as the same. -/
theorem Setting.source_same :
    (Setting.of clock home files a).source = (Setting.of clock' home files a').source := by
  have hoverrides :
      (Setting.of clock home files a).overrides = (Setting.of clock' home files a').overrides := by
    obtain ⟨-, htitle, hversion, hurl, hsize, halternatives, hparallel⟩ := hsame
    cases a
    cases a'
    subst htitle hversion hurl hsize halternatives hparallel
    rfl
  rw [source, source, Setting.path_same hsame clock clock', hoverrides]
  rfl

theorem Setting.loaded?_same :
    (Setting.of clock home files a).loaded? = (Setting.of clock' home files a').loaded? := by
  have hfile :
      (Setting.of clock home files a).isFile = (Setting.of clock' home files a').isFile := by
    rw [isFile, isFile, of, of, hsame.input]
  rw [loaded?, loaded?, hfile, Setting.source_same hsame clock clock']

end SameRequest

/-! ## 2. How either mode ends -/

variable {s : Setting} {home : Place} {o : Outcome}

/-- A run that ends with a code was told of a bad input at once, or did what it was asked to do. -/
theorem ended_of_runWith {clock : Clock} {files : FileTree} {a : Arguments}
    (ho : runWith clock home files a = .ok o) :
    ((Setting.of clock home files a).loaded? = none ∧ o.exit = .badInput) ∨
      (Setting.of clock home files a).isFile = true ∧
        perform (Setting.of clock home files a) home = .ok o := by
  rcases runWith_cases clock home files a with ⟨-, hrun⟩ | ⟨-, hrun⟩ |
    ⟨-, -, hfile, o', hrun, hexit⟩ | ⟨-, -, hfile, hrun⟩
  · cases hrun.symm.trans ho
  · cases hrun.symm.trans ho
  · obtain rfl := Except.ok.inj (hrun.symm.trans ho)
    exact .inl ⟨Setting.loaded?_of_not_isFile hfile, hexit⟩
  · exact .inr ⟨hfile, hrun.symm.trans ho⟩

/-- A fault of the input that is told ends a run with the code of a bad input. -/
theorem exit_of_badSource {what : String} {f : Source.Fault} (ho : s.badSource what f = .ok o) :
    o.exit = .badInput := by
  unfold Setting.badSource at ho
  split at ho
  · cases ho
    rfl
  · cases ho

/-- **How a check ends**: with a bad input, or with the report on what the lint found. -/
theorem validateOnly_ended (hfile : s.isFile = true) (ho : validateOnly s = .ok o) :
    (s.loaded? = none ∧ o.exit = .badInput) ∨
      ∃ input m issues, s.source = .ok input ∧ Model.normalize input.model = .ok m ∧
        s.loaded? = some (input, m) ∧ Lint.everything m input.config = .ok issues ∧
        o.exit.code = Setting.checkCode issues ∧
        o.output = checkReport s.path.name m (Lint.findings issues) := by
  rcases Setting.loading hfile with ⟨f, hsource⟩ | ⟨input, f, hsource, hm⟩ |
    ⟨input, m, hsource, hm, hloaded⟩
  · rw [validateOnly, openFile_eq_source, hsource] at ho
    exact .inl ⟨Setting.loaded?_of_fault hsource, exit_of_badSource ho⟩
  · simp only [validateOnly, openFile_eq_source, hsource, hm] at ho
    cases ho
    exact .inl ⟨Setting.loaded?_of_abnormal hsource hm, rfl⟩
  · simp only [validateOnly, openFile_eq_source, hsource, hm] at ho
    cases hissues : Lint.everything m input.config with
    | error l =>
      rw [hissues] at ho
      cases ho
    | ok issues =>
      rw [hissues] at ho
      cases ho
      exact .inr ⟨input, m, issues, hsource, hm, hloaded, hissues, code_of_findings issues, rfl⟩

/-- A generation that ends though nothing was loaded ends with a bad input. -/
theorem generate_ended_unloaded (hfile : s.isFile = true) (hloaded : s.loaded? = none)
    (ho : generate s home = .ok o) : o.exit = .badInput := by
  rcases Setting.loading hfile with ⟨f, hsource⟩ | ⟨input, f, hsource, hm⟩ |
    ⟨input, m, hsource, hm, hsome⟩
  · rw [generate, openFile_eq_source, hsource] at ho
    exact exit_of_badSource ho
  · simp only [generate, openFile_eq_source, hsource, Bundle.generate, Bundle.generateIn, hm] at ho
    cases hfailure : f.isFailure <;> rw [hfailure] at ho <;> cases ho <;> rfl
  · rw [hloaded] at hsome
    cases hsome

/-- What is done with a bundle. -/
def deliver (s : Setting) (home : Place) (b : Bundle) : Except Crash Outcome :=
  s.arguments.output.elim (printBundle s b) fun output => .ok (exportBundle s home output b)

/-- A bundle that is delivered ends no run with the code of a bad input. -/
theorem exit_of_deliver {b : Bundle} (ho : deliver s home b = .ok o) : o.exit.code ≠ 4 := by
  have hbundle : (bundleExit b).code ≠ 4 := by
    unfold bundleExit
    split <;> decide
  unfold deliver at ho
  cases houtput : s.arguments.output with
  | none =>
    rw [houtput] at ho
    obtain ⟨text, -, hrest⟩ := bind_eq_ok.mp ho
    cases hrest
    exact hbundle
  | some output =>
    rw [houtput] at ho
    obtain rfl := Except.ok.inj ho
    unfold exportBundle
    dsimp only
    split
    · exact hbundle
    · exact fun h => by cases h

/-! ## 3. What is told of the lint -/

/-- The line that opens and closes the page of a check. -/
def pageRule : String := "=================================================="

/-- The part of a page for findings of one kind, if there are any: a free line, a title with their
number, and one line for each, in order, behind a sign. -/
def findingLines (title sign : String) (found : List String) : List String :=
  if found = [] then []
  else "" :: ("  " ++ title ++ " (" ++ toString found.length ++ "):") ::
    found.map fun line => "    " ++ sign ++ " " ++ line

/-- The lines of the page of a check, in terms of a report. -/
def pageLines (name : String) (r : Report) : List String :=
  ["", pageRule, "  Model Validation Report", pageRule,
    "  File:          " ++ name,
    "  Entities:      " ++ toString r.entities,
    "  Relationships: " ++ toString r.relationships,
    "  Time:          0.000s",
    "  Valid:         " ++ (if r.lintErrors = [] then "Yes" else "No")] ++
  findingLines "Errors" "✗" r.lintErrors ++
  findingLines "Warnings" "⚠" r.lintWarnings ++
  (if r.lintErrors = [] ∧ r.lintWarnings = [] then ["", "  ✅ All validations passed!"] else []) ++
  [pageRule, ""]

/-- What a check prints, in terms of a report. -/
def checkPage (name : String) (r : Report) : String := Text.ended (pageLines name r)

/-- The bundle of a loaded model has the findings of the lint in its report. -/
theorem report_of_bundle {input : Source.Input} {m : Model} {issues : List Lint.Issue} {b : Bundle}
    (hm : Model.normalize input.model = .ok m)
    (hissues : Lint.everything m input.config = .ok issues) (hb : s.bundle input = .ok b) :
    b.report.entities = m.entities.length ∧ b.report.relationships = m.relationships.length ∧
      b.report.lintErrors = (Lint.findings issues).errors.lines ∧
      b.report.lintWarnings = (Lint.findings issues).warnings.lines := by
  rw [Setting.bundle, Bundle.generate,
    Bundle.generateIn_lint input.config s.clock s.path.text hm Artifact.mem_all, hissues] at hb
  cases hb
  exact ⟨rfl, rfl, rfl, rfl⟩

theorem exists_bundle (s : Setting) {input : Source.Input} {m : Model} {issues : List Lint.Issue}
    (hm : Model.normalize input.model = .ok m)
    (hissues : Lint.everything m input.config = .ok issues) : ∃ b, s.bundle input = .ok b := by
  rw [Setting.bundle, Bundle.generate,
    Bundle.generateIn_lint input.config s.clock s.path.text hm Artifact.mem_all, hissues]
  exact ⟨_, rfl⟩

theorem ended_findingLines (title sign : String) (found : List String) :
    Text.ended (findingLines title sign found) = countedList title sign found := by
  unfold findingLines countedList
  cases found with
  | nil => rfl
  | cons line rest =>
    have hlines : Text.ended ((line :: rest).map fun line => "    " ++ sign ++ " " ++ line)
        = String.join ((line :: rest).map fun line => "    " ++ sign ++ " " ++ line ++ "\n") :=
      Text.ended_map (fun _ => rfl) _
    rw [if_neg (List.cons_ne_nil line rest), Text.ended_cons, Text.ended_cons, hlines]
    refine String.toList_inj.mp ?_
    simp

/-- What a check prints before the findings. -/
theorem ended_heading (name entities relationships valid : String) :
    Text.ended ["", pageRule, "  Model Validation Report", pageRule,
        "  File:          " ++ name, "  Entities:      " ++ entities,
        "  Relationships: " ++ relationships, "  Time:          0.000s",
        "  Valid:         " ++ valid]
      = "\n" ++ pageRule ++ "\n  Model Validation Report\n" ++ pageRule ++ "\n" ++
        "  File:          " ++ name ++ "\n" ++ "  Entities:      " ++ entities ++ "\n" ++
        "  Relationships: " ++ relationships ++ "\n" ++ "  Time:          0.000s\n" ++
        "  Valid:         " ++ valid ++ "\n" := by
  refine String.toList_inj.mp ?_
  simp [Text.ended_cons]

/-- What a check prints is what the report says. -/
theorem checkReport_eq {name : String} {m : Model} {fs : Findings} {r : Report}
    (hentities : r.entities = m.entities.length)
    (hrelationships : r.relationships = m.relationships.length)
    (herrors : r.lintErrors = fs.errors.lines) (hwarnings : r.lintWarnings = fs.warnings.lines) :
    checkReport name m fs = checkPage name r := by
  have hrule : reportRule = pageRule := by decide
  have hnumber : ∀ n : Nat, toString (n : Int) = toString n := fun _ => rfl
  have hvalid : fs.isValid = decide (r.lintErrors = []) := by
    rw [herrors, Findings.isValid]
    cases fs.errors <;> rfl
  have hquiet : fs.warnings.isEmpty = decide (r.lintWarnings = []) := by
    rw [hwarnings]
    cases fs.warnings <;> rfl
  have hpassed : Text.ended (if r.lintErrors = [] ∧ r.lintWarnings = []
        then ["", "  ✅ All validations passed!"] else [])
      = if fs.isValid && fs.warnings.isEmpty then "\n  ✅ All validations passed!\n" else "" := by
    rw [hvalid, hquiet, apply_ite Text.ended]
    simp only [Bool.and_eq_true, decide_eq_true_eq]
    rfl
  have hfoot : Text.ended [pageRule, ""] = pageRule ++ "\n\n" := by decide
  unfold checkReport checkPage pageLines
  rw [Text.ended_append, Text.ended_append, Text.ended_append, Text.ended_append, ended_heading,
    ended_findingLines, ended_findingLines, hpassed, hfoot, hvalid, hrule, hentities,
    hrelationships, hnumber, hnumber, ← herrors, ← hwarnings]
  simp only [String.append_assoc, decide_eq_true_eq]

/-! ## 4. Both runs -/

variable {clock : Clock} {files : FileTree} {a : Arguments}

/-- How a run that checks an input ends. -/
theorem ended_of_check (hmode : a.mode = .validateOnly) (ho : runWith clock home files a = .ok o) :
    ((Setting.of clock home files a).loaded? = none ∧ o.exit = .badInput) ∨
      ∃ input m issues, (Setting.of clock home files a).source = .ok input ∧
        Model.normalize input.model = .ok m ∧
        (Setting.of clock home files a).loaded? = some (input, m) ∧
        Lint.everything m input.config = .ok issues ∧ o.exit.code = Setting.checkCode issues ∧
        o.output
          = checkReport (Setting.of clock home files a).path.name m (Lint.findings issues) := by
  rcases ended_of_runWith ho with hended | ⟨hfile, hperform⟩
  · exact .inl hended
  · rw [perform, show (Setting.of clock home files a).arguments.mode = _ from hmode] at hperform
    exact validateOnly_ended hfile hperform

/-- How a run that makes documents ends. -/
theorem ended_of_generation (hmode : a.mode = .generate) (ho : runWith clock home files a = .ok o) :
    ((Setting.of clock home files a).loaded? = none ∧ o.exit = .badInput) ∨
      (Setting.of clock home files a).isFile = true ∧
        generate (Setting.of clock home files a) home = .ok o := by
  rcases ended_of_runWith ho with hended | ⟨hfile, hperform⟩
  · exact .inl hended
  · rw [perform, show (Setting.of clock home files a).arguments.mode = _ from hmode] at hperform
    dsimp only at hperform
    split at hperform
    · exact .inr ⟨hfile, hperform⟩
    · cases hperform

/-- **A check and a generation agree.**  Where a run that checks an input and a run that makes its
documents, with the same settings, both end with a code, the input is bad for both or for none.  In
the latter case the check ends with code 1 if and only if the report of the generation has errors of
the lint, and with 0 else; it prints the errors and the warnings of that report. -/
theorem modes_agree {clock clock' : Clock} {home : Place} {files : FileTree}
    {words words' : List String} {a a' : Arguments} (hread : Arguments.read words = .ok a)
    (hread' : Arguments.read words' = .ok a') (hcheck : a.mode = .validateOnly)
    (hmake : a'.mode = .generate) (hsame : a.SameRequest a') {o o' : Outcome}
    (ho : run clock home files words = .ok o) (ho' : run clock' home files words' = .ok o') :
    (o.exit.code = 4 ↔ o'.exit.code = 4) ∧
      (o.exit.code ≠ 4 → ∃ input b,
        (Setting.of clock' home files a').source = .ok input ∧
        (Setting.of clock' home files a').bundle input = .ok b ∧
        deliver (Setting.of clock' home files a') home b = .ok o' ∧
        o.exit.code = (if b.report.lintErrors = [] then 0 else 1) ∧
        o.output = checkPage (Setting.of clock home files a).path.name b.report) := by
  rw [run, hread] at ho
  rw [run, hread'] at ho'
  have hloaded := Setting.loaded?_same hsame clock clock' home files
  rcases ended_of_check hcheck ho with ⟨hnone, hexit⟩ |
    ⟨input, m, issues, hinput, hm, hsome, hissues, hcode, houtput⟩
  · rw [hloaded] at hnone
    have hexit' : o'.exit = .badInput := by
      rcases ended_of_generation hmake ho' with ⟨-, hexit'⟩ | ⟨hfile, hgenerate⟩
      · exact hexit'
      · exact generate_ended_unloaded hfile hnone hgenerate
    rw [hexit, hexit']
    exact ⟨Iff.rfl, fun h => absurd rfl h⟩
  · rw [hloaded] at hsome
    rw [Setting.source_same hsame clock clock'] at hinput
    obtain ⟨b, hb⟩ := exists_bundle (Setting.of clock' home files a') hm hissues
    obtain ⟨hentities, hrelationships, herrors, hwarnings⟩ := report_of_bundle hm hissues hb
    have hdelivered : deliver (Setting.of clock' home files a') home b = .ok o' := by
      rcases ended_of_generation hmake ho' with ⟨hnone, -⟩ | ⟨-, hgenerate⟩
      · rw [hsome] at hnone
        cases hnone
      · rwa [generate_of_bundle home hinput hm hb] at hgenerate
    have hcode' : o.exit.code = if b.report.lintErrors = [] then 0 else 1 := by
      rw [hcode, Setting.checkCode, herrors]
      cases (Lint.findings issues).errors <;> rfl
    have hgood : o.exit.code ≠ 4 := by
      rw [hcode']
      split <;> decide
    refine ⟨iff_of_false hgood (exit_of_deliver hdelivered), fun _ =>
      ⟨input, b, hinput, hb, hdelivered, hcode', ?_⟩⟩
    rw [houtput, checkReport_eq hentities hrelationships herrors hwarnings]

/-- A model of two entities with one name and a relationship to none, as a file of JSON. -/
def twinUserFile : FileTree :=
  let user := "\x7b\"name\": \"user\", \"fields\": []\x7d"
  let link := "\x7b\"from\": \"user\", \"to\": \"ghost\"\x7d"
  withFile "m.json"
    ("\x7b\"entities\": [" ++ user ++ ", " ++ user ++ "], \"relationships\": [" ++ link ++ "]\x7d")

/-- What the lint says of that model. -/
def twinUserErrors : List String :=
  ["[ERROR] DUPLICATE_ENTITY_NAME: Entity name 'user' is defined more than once.",
    "[ERROR] DUPLICATE_TABLE_NAME: Table name 'users' is used by more than one entity."]

/-- What the lint says of its relationship. -/
def twinUserWarnings : List String :=
  ["[WARNING] UNKNOWN_RELATIONSHIP_TYPE: Relationship user -> ghost has unknown type 'None'; " ++
      "it will be rendered as oneToMany.",
    "[WARNING] UNRESOLVED_RELATIONSHIP: Relationship user -> ghost references unknown entity " ++
      "'ghost'; it will be skipped."]

/-- A check of that model ends with code 1 and prints the errors and warnings that the printed
report has, each on its line. -/
theorem modes_agree_twins :
    ∃ o o' b, run .standard [] twinUserFile ["-i", "m.json", "--validate-only"] = .ok o ∧
      run .standard [] twinUserFile ["-i", "m.json"] = .ok o' ∧ o'.exit.code = 0 ∧
      deliver (Setting.of .standard [] twinUserFile { input := "m.json" }) [] b = .ok o' ∧
      b.report.lintErrors = twinUserErrors ∧ b.report.lintWarnings = twinUserWarnings ∧
      o.exit.code = 1 ∧ o.output
        = "\n==================================================\n" ++
          "  Model Validation Report\n" ++
          "==================================================\n" ++
          "  File:          m.json\n  Entities:      2\n  Relationships: 1\n" ++
          "  Time:          0.000s\n  Valid:         No\n" ++
          "\n  Errors (2):\n" ++
          "    ✗ [ERROR] DUPLICATE_ENTITY_NAME: Entity name 'user' is defined more than once.\n" ++
          "    ✗ [ERROR] DUPLICATE_TABLE_NAME: Table name 'users' is used by more than one " ++
          "entity.\n" ++
          "\n  Warnings (2):\n" ++
          "    ⚠ [WARNING] UNKNOWN_RELATIONSHIP_TYPE: Relationship user -> ghost has unknown " ++
          "type 'None'; it will be rendered as oneToMany.\n" ++
          "    ⚠ [WARNING] UNRESOLVED_RELATIONSHIP: Relationship user -> ghost references " ++
          "unknown entity 'ghost'; it will be skipped.\n" ++
          "==================================================\n\n" := by
  have hread : Arguments.read ["-i", "m.json", "--validate-only"]
      = .ok { input := "m.json", mode := .validateOnly } := by decide +kernel
  have hread' : Arguments.read ["-i", "m.json"] = .ok { input := "m.json" } := by decide +kernel
  obtain ⟨o, ho, hcode⟩ := any_toOption.mp
    (show (run .standard [] twinUserFile ["-i", "m.json", "--validate-only"]).toOption.any
      (fun o => o.exit.code = 1) = true by decide +kernel)
  obtain ⟨o', ho', hcode'⟩ := any_toOption.mp
    (show (run .standard [] twinUserFile ["-i", "m.json"]).toOption.any
      (fun o => o.exit.code = 0) = true by decide +kernel)
  obtain ⟨-, hagree⟩ := modes_agree hread hread' rfl rfl ⟨rfl, rfl, rfl, rfl, rfl, rfl, rfl⟩ ho ho'
  obtain ⟨input, b, hinput, hb, hdelivered, -, houtput⟩ := hagree (by rw [hcode]; decide)
  obtain ⟨input', hinput', hreported⟩ := any_toOption.mp
    (show (Setting.of .standard [] twinUserFile { input := "m.json" }).source.toOption.any
      (fun input =>
        ((Setting.of .standard [] twinUserFile { input := "m.json" }).bundle input).toOption.any
          (fun b => b.report.lintErrors = twinUserErrors ∧
            b.report.lintWarnings = twinUserWarnings ∧ b.report.entities = 2 ∧
            b.report.relationships = 1) = true) = true by decide +kernel)
  obtain rfl := Except.ok.inj (hinput.symm.trans hinput')
  obtain ⟨b', hb', herrors, hwarnings, hentities, hrelationships⟩ := any_toOption.mp hreported
  obtain rfl := Except.ok.inj (hb.symm.trans hb')
  have hname : (Setting.of .standard [] twinUserFile
      { input := "m.json", mode := .validateOnly }).path.name = "m.json" := by decide +kernel
  refine ⟨o, o', b, ho, ho', hcode', hdelivered, herrors, hwarnings, hcode, ?_⟩
  rw [houtput, hname, checkPage, pageLines, herrors, hwarnings, hentities, hrelationships]
  decide +kernel

end Schemata.Command
