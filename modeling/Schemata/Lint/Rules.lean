import Schemata.Config
import Schemata.Lint.Form
import Schemata.Lint.Issue
import Schemata.OpenApi.Paths
/-!
# Rules

What is checked of a model and of the settings, and in which order.

* `Lint.entityNames`, `Lint.fieldNames` and `Lint.relationships` report a name or path that
  occurred before; of several entities with one name, and of several relationships with one path,
  the first counts.
* `Lint.constraints` reports constraints that the field's type ignores, ranges that are reversed
  and patterns that do not compile.  It is the one rule that can stop, at a pattern beyond a limit.
* `Lint.everything` runs all rules.
-/

namespace Schemata.Lint

/-! ## 1. Names -/

/-- An issue under a condition. -/
def when (condition : Bool) (issue : Issue) : List Issue := if condition then [issue] else []

/-- The issues of entities' names, given those that came before. -/
def entityNamesFrom (names tables : List String) : List Entity → List Issue
  | [] => []
  | e :: rest =>
    when (names.contains e.name) (.duplicateEntity e.name) ++
    when (tables.contains e.tableName) (.duplicateTable e.name e.tableName) ++
    when (!isIdentifier e.name) (.entityName e.name) ++
    when (!isIdentifier e.tableName) (.tableName e.name e.tableName) ++
    entityNamesFrom (e.name :: names) (e.tableName :: tables) rest

/-- The names of entities and tables are identifiers and occur once. -/
def entityNames (m : Model) : List Issue := entityNamesFrom [] [] m.entities

/-- The issues of the names of an entity's fields, given those that came before. -/
def fieldNamesFrom (entity : String) (names : List String) : List Field → List Issue
  | [] => []
  | f :: rest =>
    let p : Place := ⟨entity, f.name⟩
    when (names.contains f.name) (.duplicateField p) ++
    when (!isIdentifier f.name) (.fieldName p) ++
    when (f.name = "id" && !f.isPrimary) (.keyNotPrimary p) ++
    fieldNamesFrom entity (f.name :: names) rest

/-- The names of an entity's fields are identifiers and occur once, and `id` is the primary
key. -/
def fieldNames (m : Model) : List Issue :=
  m.entities.flatMap fun e => fieldNamesFrom e.name [] e.fields

/-! ## 2. Types and constraints -/

/-- The issues of every field of a model. -/
def eachField (m : Model) (rule : Place → Field → List Issue) : List Issue :=
  m.entities.flatMap fun e => e.fields.flatMap fun f => rule ⟨e.name, f.name⟩ f

/-- The types of fields are known. -/
def fieldTypes (m : Model) : List Issue :=
  eachField m fun p f => when (f.kind = .unknown) (.unknownType p f.type)

/-- The issue of two bounds in the wrong order. -/
def reversed {α : Type} (least most : Option α) (gt : α → α → Bool) (issue : α → α → Issue) :
    List Issue :=
  match least, most with
  | some a, some b => when (gt a b) (issue a b)
  | _, _ => []

/-- The issue of a pattern, unless it is beyond a limit. -/
def patternIssues (p : Place) : Option String → Except Pattern.Limit (List Issue)
  | none => .ok []
  | some pattern =>
    match Pattern.verdict pattern with
    | .wellFormed => .ok []
    | .malformed fault => .ok [.badPattern p pattern fault]
    | .beyond limit => .error limit

/-- The issues of constraints that the type of a field ignores. -/
def mismatches (p : Place) (f : Field) (c : Constraints) : List Issue :=
  when ((c.maxLength.isSome || c.minLength.isSome) && f.kind ≠ .string && f.kind ≠ .text)
    (.ignored .lengths p f.type) ++
  when ((c.minimum.isSome || c.maximum.isSome) && !f.kind.isNumeric)
    (.ignored .bounds p f.type) ++
  when (c.items.isSome && f.kind ≠ .array) (.ignored .items p f.type)

/-- The issues of a field's constraints. -/
def constraintsOf (p : Place) (f : Field) (c : Constraints) :
    Except Pattern.Limit (List Issue) := do
  let patterns ← patternIssues p c.pattern
  return c.rejected.map (.unreadableConstraint p) ++ mismatches p f c ++
    reversed c.minLength c.maxLength (fun a b => decide (b < a)) (.lengthRange p) ++
    reversed c.minimum c.maximum Number.gt (.valueRange p) ++ patterns ++
    when (c.choices.any List.isEmpty) (.noChoices p)

/-- The issues of the constraints of fields. -/
def constraintsOfFields (entity : String) : List Field → Except Pattern.Limit (List Issue)
  | [] => .ok []
  | f :: rest => do
    let here ← match f.constraints with
      | none => .ok []
      | some c => constraintsOf ⟨entity, f.name⟩ f c
    return here ++ (← constraintsOfFields entity rest)

/-- The issues of the constraints of entities' fields. -/
def constraintsOfEntities : List Entity → Except Pattern.Limit (List Issue)
  | [] => .ok []
  | e :: rest => do
    return (← constraintsOfFields e.name e.fields) ++ (← constraintsOfEntities rest)

/-- Constraints apply to the type of their field and do not contradict each other. -/
def constraints (m : Model) : Except Pattern.Limit (List Issue) := constraintsOfEntities m.entities

/-! ## 3. Relationships -/

/-- The issues of relationships from an index on, given the paths taken before. -/
def relationshipsFrom (m : Model) (index : Nat) (taken : List (String × Nat)) :
    List Relationship → List Issue
  | [] => []
  | r :: rest =>
    let kind := when (r.cardinality = .unknown) (.unknownCardinality index r)
    match m.resolve r with
    | none =>
      let missing := [r.source, r.target].filter fun n => (m.entity? n).isNone
      kind ++ .unresolved index r missing :: relationshipsFrom m (index + 1) taken rest
    | some (source, target) =>
      let path := OpenApi.linkPath source target
      match taken.lookup path with
      | some first =>
        kind ++ .pathTaken index r path first :: relationshipsFrom m (index + 1) taken rest
      | none => kind ++ relationshipsFrom m (index + 1) (taken ++ [(path, index)]) rest

/-- Relationships have a known cardinality, two entities, and a path of their own. -/
def relationships (m : Model) : List Issue := relationshipsFrom m 0 [] m.relationships

/-! ## 4. Sizes -/

/-- More entities make a diagram hard to read. -/
def manyEntities : Nat := 50

/-- More fields make an entity hard to read. -/
def manyFields : Nat := 40

/-- The model is neither empty nor too large. -/
def size (m : Model) : List Issue :=
  let n := m.entities.length
  .statistics n m.totalFields m.relationships.length ::
    (when (n = 0) .emptyModel ++ when (manyEntities < n) (.largeModel n)) ++
    m.entities.flatMap fun e =>
      when (manyFields < e.fields.length) (.largeEntity e.name e.fields.length)

/-! ## 5. Settings -/

/-- A server's address is absolute or starts with a slash. -/
def isServerAddress (url : String) : Bool := isWebAddress url || url.startsWith "/"

/-- The version and the addresses of the settings are well formed. -/
def settings (c : Config) : List Issue :=
  when (!isVersion c.apiVersion) (.version c.apiVersion) ++
  when c.servers.isEmpty .noServers ++
  (c.servers.flatMap fun s => when (!isServerAddress s.url) (.serverAddress s.url)) ++
  when (!isWebAddress c.exampleBaseUrl) (.exampleAddress c.exampleBaseUrl)

/-! ## 6. All rules -/

/-- Issues as findings. -/
def findings (issues : List Issue) : Findings := issues.map Issue.finding

/-- All rules about models. -/
def model (m : Model) : Except Pattern.Limit (List Issue) := do
  let constraints ← constraints m
  return entityNames m ++ fieldNames m ++ fieldTypes m ++ constraints ++ relationships m ++ size m

/-- All rules. -/
def everything (m : Model) (c : Config) : Except Pattern.Limit (List Issue) := do
  return (← model m) ++ settings c

end Schemata.Lint
