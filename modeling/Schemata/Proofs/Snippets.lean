import Schemata.Proofs.Agreement
import Schemata.Proofs.Completeness
import Schemata.Proofs.RoundTrip
/-!
# Snippets embed the example

The snippets that create a record hold the example of its entity: in JavaScript as a literal, for
`curl` as a text that a shell takes for one argument.  Both are read back as the example that stands
in the component schema.

* `Shell.words`: the words that a shell makes of a text by its rules of quoting.
* `Shell.words_quoted`: a text between single quotes is one word, if its own quotes are escaped.
* `isReadable_exampleRecord`: the example of an entity is a value that a text stands for.
* `snippets_embed_example`: the snippets of every entity embed its example.
-/

namespace Schemata

open OpenApi

/-! ## 1. Words of a shell -/

namespace Shell

/-- How the next character of a text is taken. -/
inductive Quoting
  /-- Outside all quotes. -/
  | bare
  /-- After a backslash outside all quotes. -/
  | escaped
  | single
  | double
  /-- After a backslash inside double quotes. -/
  | doubleEscaped
  deriving DecidableEq, Repr

/-- What has been read of a text: the words that have ended, and the one that has begun. -/
structure State where
  quoting : Quoting
  begun : Option (List Char)
  ended : List (List Char)
  deriving DecidableEq, Repr

namespace State

/-- Before a text nothing has been read. -/
def start : State := ⟨.bare, none, []⟩

/-- Takes characters into the word that has begun, or begins one. -/
def take (s : State) (next : Quoting) (cs : List Char) : State :=
  ⟨next, some (s.begun.getD [] ++ cs), s.ended⟩

/-- Ends the word that has begun. -/
def rest (s : State) : State := ⟨.bare, none, s.ended ++ s.begun.toList⟩

end State

/-- Characters that part words. -/
def isBlank (c : Char) : Bool := c = ' ' || c = '\t'

/-- Characters that have a meaning of their own outside quotes, everywhere or in some places: those
of operators, of expansions, of patterns, and the end of a line. -/
def isSpecial (c : Char) : Bool :=
  ['|', '&', ';', '<', '>', '(', ')', '$', '\x60', '*', '?', '[', '#', '~', '=', '%',
    '\n'].contains c

/-- Characters that a backslash inside double quotes escapes. -/
def isDoubleSpecial (c : Char) : Bool := ['$', '\x60', '"', '\\'].contains c

/-- Reads one character; none where it means more than a part of a word. -/
def step (s : State) (c : Char) : Option State :=
  match s.quoting with
  | .bare =>
    if c = '\'' then some (s.take .single [])
    else if c = '"' then some (s.take .double [])
    else if c = '\\' then some { s with quoting := .escaped }
    else if isBlank c then some s.rest
    else if isSpecial c then none
    else some (s.take .bare [c])
  | .escaped => if c = '\n' then some { s with quoting := .bare } else some (s.take .bare [c])
  | .single => if c = '\'' then some { s with quoting := .bare } else some (s.take .single [c])
  | .double =>
    if c = '"' then some { s with quoting := .bare }
    else if c = '\\' then some { s with quoting := .doubleEscaped }
    else if isDoubleSpecial c then none
    else some (s.take .double [c])
  | .doubleEscaped =>
    if c = '\n' then some { s with quoting := .double }
    else if isDoubleSpecial c then some (s.take .double [c])
    else some (s.take .double ['\\', c])

/-- The words of a text; none where it holds more than words, or ends inside quotes. -/
def words (text : String) : Option (List String) :=
  match text.toList.foldlM step .start with
  | some s => if s.quoting = .bare then some (s.rest.ended.map String.ofList) else none
  | none => none

theorem step_single {c : Char} (hc : c ≠ '\'') (word : List Char) (ended : List (List Char)) :
    step ⟨.single, some word, ended⟩ c = some ⟨.single, some (word ++ [c]), ended⟩ :=
  if_neg hc

/-- One character of an escaped text between single quotes stands for itself. -/
theorem foldlM_step_escape (c : Char) (word : List Char) (ended : List (List Char)) :
    (if c = '\'' then ['\'', '\\', '\'', '\''] else [c]).foldlM step ⟨.single, some word, ended⟩
      = some ⟨.single, some (word ++ [c]), ended⟩ := by
  split
  · -- The quotes are closed, the character stands after a backslash, and they are opened again.
    rename_i hc
    subst hc
    have hopen : (State.mk .bare (some (word ++ ['\''])) ended).take .single []
        = ⟨.single, some (word ++ ['\'']), ended⟩ := by
      simp [State.take]
    exact congrArg some hopen
  · rename_i hc
    rw [List.foldlM_cons, step_single hc]
    rfl

/-- Inside single quotes an escaped text is taken into the word. -/
theorem foldlM_step_flatMap (ended : List (List Char)) : ∀ cs word : List Char,
    (cs.flatMap fun c => if c = '\'' then ['\'', '\\', '\'', '\''] else [c]).foldlM step
      ⟨.single, some word, ended⟩ = some ⟨.single, some (word ++ cs), ended⟩
  | [], word => by
    rw [List.append_nil]
    rfl
  | c :: cs, word => by
    rw [List.flatMap_cons, List.foldlM_append, foldlM_step_escape, Option.bind_eq_bind,
      Option.bind_some, foldlM_step_flatMap ended cs, List.append_assoc]
    rfl

/-- **A text between single quotes is one word**, its own quotes being escaped. -/
theorem words_quoted (s : String) : words ("'" ++ shellEscape s ++ "'") = some [s] := by
  have htext : ("'" ++ shellEscape s ++ "'").toList
      = '\'' :: ((s.toList.flatMap fun c => if c = '\'' then ['\'', '\\', '\'', '\''] else [c])
          ++ ['\'']) := by
    simp [shellEscape]
  have hrun : ("'" ++ shellEscape s ++ "'").toList.foldlM step .start
      = some ⟨.bare, some s.toList, []⟩ := by
    rw [htext, List.foldlM_cons]
    change (_ ++ ['\'']).foldlM step ⟨.single, some [], []⟩ = _
    rw [List.foldlM_append, foldlM_step_flatMap]
    rfl
  rw [words, hrun]
  simp [State.rest]

example : words "a'b c'\\d \"e \\\" f\"" = some ["ab cd", "e \" f"] := by decide

/-- A quote that is not escaped ends the word, or leaves quotes open. -/
example : words "'it's one'" = none := by decide

end Shell

/-! ## 2. Examples can be read -/

theorem isReadable_typeExample (f : Field) (stamp : String) :
    (typeExample f stamp).isReadable = true := by
  have hprice : samplePrice.isCanonical = true := Binary64.isCanonical_ofDecimal false 9999 4 (-2)
  unfold typeExample
  cases f.kind with
  | float | decimal | double => exact hprice
  | string | text | email | url | number | integer | int | boolean | bool | date | datetime
  | timestamp | array | json | object | unknown => rfl

/-- **An example can be read** if the input could. -/
theorem isReadable_exampleRecord {raw : Value} {m : Model} (hraw : raw.isReadable = true)
    (hm : Model.normalize raw = .ok m) {e : Entity} (he : e ∈ m.entities) (stamp : String) :
    (Value.obj (exampleRecord e stamp)).isReadable = true := by
  have hlist : ∀ {v items}, v.isReadable = true → Coercion.list v = .ok items →
      (Value.list items).isReadable = true := fun hv h =>
    Coercion.eq_list_of_isJson (Value.isJson_of_isReadable hv) h ▸ hv
  rw [Value.isReadable_obj]
  constructor
  · rw [exampleRecord, Entries.keys_ofList_map]
    exact eraseDups_nodup _
  · exact forall_mem_exampleRecord Value.hereditary_isReadable rfl hlist
      (fun f => isReadable_typeExample f stamp) hraw hm he

/-! ## 3. Snippets by entity -/

/-- The first item that is looked for has the first result that is. -/
theorem find?_of_forall₂ {α β : Type} {R : α → β → Prop} {p : α → Bool} {q : β → Bool}
    (hR : ∀ a b, R a b → q b = p a) : ∀ {l : List α} {r : List β}, List.Forall₂ R l r →
    ∀ {a : α}, l.find? p = some a → ∃ b, r.find? q = some b ∧ R a b
  | [], _, _, a, ha => by cases ha
  | x :: l, y :: r, .cons hxy h, a, ha => by
    rw [List.find?_cons] at ha
    rw [List.find?_cons, hR x y hxy]
    cases hx : p x with
    | true =>
      simp only [hx, Option.some.injEq] at ha
      exact ⟨y, rfl, ha ▸ hxy⟩
    | false =>
      simp only [hx] at ha
      exact find?_of_forall₂ hR h ha

/-- One part of the snippets of entities, by their names. -/
def byName (each : List (String × Snippets)) (part : Snippets → Entries String Value) :
    Entries String Value :=
  Entries.ofList (each.map fun p => (p.1, .obj (part p.2)))

/-- The snippets of a model are those of its entities. -/
theorem codeExamples_eq_ok {entities : List Entity} {base path stamp : String} {examples : Value}
    (h : codeExamples entities base path stamp = .ok examples) :
    ∃ each, List.Forall₂ (fun e p => p.1 = e.name ∧ snippetsOf e base path stamp = .ok p.2)
        entities each ∧
      examples = .obj [("javascript", .obj (byName each Snippets.javascript)),
        ("python", .obj (byName each Snippets.python)),
        ("curl", .obj (byName each Snippets.curl))] := by
  obtain ⟨each, heach, hpure⟩ := bind_eq_ok.mp h
  cases hpure
  refine ⟨each, (forall₂_of_mapM heach).imp fun e p hp => ?_, rfl⟩
  obtain ⟨s, hs, hpair⟩ := bind_eq_ok.mp hp
  cases hpair
  exact ⟨rfl, hs⟩

/-- The snippets of a name are those of its last bearer, made from the example in two layouts. -/
theorem exists_snippets {m : Model} {base path stamp : String} {examples : Value}
    (h : codeExamples m.entities base path stamp = .ok examples) {k : String} {e : Entity}
    (he : m.lastNamed? k = some e) :
    ∃ indented compact,
      Json.write (.indented 2) (.obj (exampleRecord e stamp)) = .ok indented ∧
      Json.write .compact (.obj (exampleRecord e stamp)) = .ok compact ∧
      examples.at? ["javascript", k] = some (.obj (javascript e path indented)) ∧
      examples.at? ["curl", k] = some (.obj (curl e base compact)) := by
  obtain ⟨each, hsteps, rfl⟩ := codeExamples_eq_ok h
  obtain ⟨p, hfind, -, hs⟩ := find?_of_forall₂ (q := fun p => k == p.1)
    (fun _ _ h => by rw [h.1]) (List.forall₂_reverse_iff.mpr hsteps) he
  have hpart : ∀ part, (byName each part).lookup k = some (.obj (part p.2)) := fun part => by
    rw [byName, Entries.lookup_ofList_map, hfind]
    rfl
  obtain ⟨indented, hindented, hs⟩ := bind_eq_ok.mp hs
  obtain ⟨compact, hcompact, hs⟩ := bind_eq_ok.mp hs
  have hp := Except.ok.inj hs
  refine ⟨indented, compact, hindented, hcompact, ?_, ?_⟩
  all_goals simp [Value.at?_cons, Value.at?_nil, Value.get?_obj, List.lookup_cons, hpart, ← hp]

/-- The literal of a JavaScript snippet stands between an equals sign and a semicolon. -/
theorem lookup_create_javascript (e : Entity) (base body : String) :
    ∃ after, (javascript e base body).lookup "create"
      = some (.str ("// Create new " ++ e.name ++ "\nconst new" ++ Text.capitalizeFirst e.name
        ++ " = " ++ body ++ ";\n\n" ++ after)) := by
  have hlines : ∀ (next : String) (more : List String),
      "\n".intercalate (("// Create new " ++ e.name) ::
          ("const new" ++ Text.capitalizeFirst e.name ++ " = " ++ body ++ ";") :: "" ::
          next :: more)
        = "// Create new " ++ e.name ++ "\nconst new" ++ Text.capitalizeFirst e.name
          ++ " = " ++ body ++ ";\n\n" ++ "\n".intercalate (next :: more) := fun next more => by
    apply String.toList_injective
    simp
  exact ⟨_, congrArg (fun text => some (Value.str text)) (hlines _ _)⟩

/-- The argument of a snippet for `curl` stands at its end. -/
theorem lookup_create_curl (e : Entity) (base body : String) :
    (curl e base body).lookup "create"
      = some (.str ("# Create new " ++ e.name ++ "\ncurl -X POST \"" ++ (base ++ "/" ++ e.tableName)
        ++ "\" \\\n" ++ curlHeader ++ "\n  -d " ++ ("'" ++ shellEscape body ++ "'"))) := by
  have hlines : "\n".intercalate ["# Create new " ++ e.name,
        "curl -X POST \"" ++ (base ++ "/" ++ e.tableName) ++ "\" \\", curlHeader,
        "  -d '" ++ shellEscape body ++ "'"]
      = "# Create new " ++ e.name ++ "\ncurl -X POST \"" ++ (base ++ "/" ++ e.tableName)
        ++ "\" \\\n" ++ curlHeader ++ "\n  -d " ++ ("'" ++ shellEscape body ++ "'") := by
    apply String.toList_injective
    simp
  exact congrArg (fun text => some (Value.str text)) hlines

/-- **Snippets embed the example.**  For every input that a text stands for, any configuration and
any clock, wherever the description of the model is made: under the name of every entity, repeated
names included, the literal of the JavaScript snippet and the one word that the argument of the
`curl` snippet is are read as the example of the component schema. -/
theorem snippets_embed_example {raw : Value} {m : Model} {config : Config} {clock : Clock}
    {api : Value} (hraw : raw.isReadable = true) (hm : Model.normalize raw = .ok m)
    (hapi : generate config clock m = .ok api) {k : String} (hk : k ∈ m.entityNames) :
    ∃ (record : Value) (literal argument word url after : String),
      api.at? ["openApiSpec", "components", "schemas", k, "example"] = some record ∧
      api.at? ["codeExamples", "javascript", k, "create"]
        = some (.str ("// Create new " ++ k ++ "\nconst new" ++ Text.capitalizeFirst k ++ " = "
          ++ literal ++ ";\n\n" ++ after)) ∧
      api.at? ["codeExamples", "curl", k, "create"]
        = some (.str ("# Create new " ++ k ++ "\ncurl -X POST \"" ++ url ++ "\" \\\n" ++ curlHeader
          ++ "\n  -d " ++ argument)) ∧
      Shell.words argument = some [word] ∧
      Json.read literal = .ok record ∧ Json.read word = .ok record := by
  obtain ⟨stamp, spec, -, hd⟩ := exists_description hapi
  obtain ⟨e, he, hname, hlast⟩ := Model.lastNamed?_of_mem hk
  obtain ⟨base, path, examples, hexamples, hat⟩ := hd.examplesAt
  obtain ⟨indented, compact, hindented, hcompact, hjavascript, hcurl⟩ :=
    exists_snippets hexamples hlast
  have hreadable := isReadable_exampleRecord hraw hm he stamp
  have hcut : ["components", "schemas", k, "example"]
      = ["components", "schemas"] ++ [k, "example"] := rfl
  have hsnippet : ∀ (kind : String) (snippets : Entries String Value),
      examples.at? [kind, k] = some (.obj snippets) →
      api.at? ["codeExamples", kind, k, "create"] = snippets.lookup "create" :=
    fun kind snippets h => by
      have hcut : ["codeExamples", kind, k, "create"]
          = ["codeExamples"] ++ ([kind, k] ++ ["create"]) := rfl
      rw [hcut, Value.at?_append, hat, Option.bind_some, Value.at?_append, h, Option.bind_some,
        Value.at?_cons, Value.get?_obj]
      exact Option.bind_fun_some _
  obtain ⟨after, hafter⟩ := lookup_create_javascript e path indented
  have hargument := lookup_create_curl e base compact
  rw [hname] at hafter hargument
  refine ⟨.obj (exampleRecord e stamp), indented, "'" ++ shellEscape compact ++ "'", compact,
    base ++ "/" ++ e.tableName, after, ?_, (hsnippet _ _ hjavascript).trans hafter,
    (hsnippet _ _ hcurl).trans hargument, Shell.words_quoted compact,
    Json.read_write hreadable hindented, Json.read_write hreadable hcompact⟩
  rw [hd.at?_spec, hcut, Value.at?_append, hd.schemasAt, Option.bind_some, Value.at?_cons,
    Value.get?_obj, schemas, lookup_ofList_entities, hlast]
  exact component_example e stamp

/-- Two notes; a field of the second has a quote in its name, and its choices need escapes. -/
def notes : Value :=
  .obj [("entities", .list
    [.obj [("name", .str "note"), ("fields", .list [])],
      .obj [("name", .str "note"), ("tableName", .str "memos"), ("fields", .list
        [.obj [("name", .str "author's mark"), ("type", .str "json"), ("constraints", .obj
          [("enum", .list [.obj [("it's \"so\"", .list [.null, .float samplePrice]),
            ("\\\n", .int (-7))]])])]])]])]

theorem snippets_embed_example_notes :
    ∃ m api, Model.normalize notes = .ok m ∧ m.entityNames = ["note", "note"] ∧
      generate {} .standard m = .ok api ∧
      ∃ (record : Value) (literal argument word url after : String),
        api.at? ["openApiSpec", "components", "schemas", "note", "example"] = some record ∧
        api.at? ["codeExamples", "javascript", "note", "create"]
          = some (.str ("// Create new " ++ "note" ++ "\nconst new" ++ Text.capitalizeFirst "note"
            ++ " = " ++ literal ++ ";\n\n" ++ after)) ∧
        api.at? ["codeExamples", "curl", "note", "create"]
          = some (.str ("# Create new " ++ "note" ++ "\ncurl -X POST \"" ++ url ++ "\" \\\n"
            ++ curlHeader ++ "\n  -d " ++ argument)) ∧
        Shell.words argument = some [word] ∧
        Json.read literal = .ok record ∧ Json.read word = .ok record := by
  obtain ⟨m, hm, hnames, hmade⟩ := any_toOption.mp
    (show (Model.normalize notes).toOption.any (fun m => m.entityNames = ["note", "note"] ∧
      (generate {} .standard m).toBool = true) = true by decide +kernel)
  obtain ⟨api, hapi⟩ := toBool_eq_true.mp hmade
  have hnote : "note" ∈ m.entityNames := by
    rw [hnames]
    decide
  have hreadable : notes.isReadable = true := by decide +kernel
  exact ⟨m, api, hm, hnames, hapi, snippets_embed_example hreadable hm hapi hnote⟩

end Schemata
