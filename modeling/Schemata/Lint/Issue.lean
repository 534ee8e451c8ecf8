import Schemata.Lint.Finding
import Schemata.Model.Basic
import Schemata.Pattern.Reader
/-!
# Issues

What there is to say against a model or its settings.  An `Issue` holds its data; `Issue.finding`
gives it a severity, a code, a message and a context.
-/

namespace Schemata.Lint

/-! ## 1. Places -/

/-- A field by the names of its entity and itself. -/
structure Place where
  entity : String
  field : String
  deriving DecidableEq, Repr

namespace Place

/-- The names with a point between them. -/
def text (p : Place) : String := p.entity ++ "." ++ p.field

/-- The names as the context of a finding. -/
def context (p : Place) : Entries String Value :=
  [("entity", .str p.entity), ("field", .str p.field)]

end Place

/-- A kind of constraint that only some types take. -/
inductive Aspect
  | lengths | bounds | items
  deriving DecidableEq, Repr

/-! ## 2. Issues -/

/-- What there is to say against a model or its settings. -/
inductive Issue
  | duplicateEntity (entity : String)
  | duplicateTable (entity table : String)
  | entityName (entity : String)
  | tableName (entity table : String)
  | duplicateField (place : Place)
  | fieldName (place : Place)
  | keyNotPrimary (place : Place)
  | unknownType (place : Place) (type : String)
  | unreadableConstraint (place : Place) (key : String)
  | ignored (aspect : Aspect) (place : Place) (type : String)
  | lengthRange (place : Place) (least most : Int)
  | valueRange (place : Place) (least most : Number)
  | badPattern (place : Place) (pattern fault : String)
  | noChoices (place : Place)
  | unknownCardinality (index : Nat) (r : Relationship)
  | unresolved (index : Nat) (r : Relationship) (missing : List String)
  | pathTaken (index : Nat) (r : Relationship) (path : String) (first : Nat)
  | statistics (entities fields relationships : Nat)
  | emptyModel
  | largeModel (entities : Nat)
  | largeEntity (entity : String) (fields : Nat)
  | version (text : String)
  | noServers
  | serverAddress (url : String)
  | exampleAddress (url : String)
  deriving Repr

namespace Issue

/-- How serious an issue is. -/
def severity : Issue → Severity
  | duplicateEntity .. | duplicateTable .. | duplicateField .. | lengthRange .. | valueRange ..
  | badPattern .. => .error
  | pathTaken .. | statistics .. => .info
  | _ => .warning

/-- The code of an issue. -/
def code : Issue → String
  | duplicateEntity .. => "DUPLICATE_ENTITY_NAME"
  | duplicateTable .. => "DUPLICATE_TABLE_NAME"
  | entityName .. => "INVALID_ENTITY_NAME"
  | tableName .. => "INVALID_TABLE_NAME"
  | duplicateField .. => "DUPLICATE_FIELD_NAME"
  | fieldName .. => "INVALID_FIELD_NAME"
  | keyNotPrimary .. => "ID_NOT_PRIMARY"
  | unknownType .. => "UNKNOWN_FIELD_TYPE"
  | unreadableConstraint .. => "INVALID_CONSTRAINT_VALUE"
  | ignored .. => "CONSTRAINT_TYPE_MISMATCH"
  | lengthRange .. => "INVALID_LENGTH_RANGE"
  | valueRange .. => "INVALID_VALUE_RANGE"
  | badPattern .. => "INVALID_PATTERN"
  | noChoices .. => "EMPTY_ENUM"
  | unknownCardinality .. => "UNKNOWN_RELATIONSHIP_TYPE"
  | unresolved .. => "UNRESOLVED_RELATIONSHIP"
  | pathTaken .. => "DUPLICATE_RELATIONSHIP_PATH"
  | statistics .. => "MODEL_STATS"
  | emptyModel => "EMPTY_MODEL"
  | largeModel .. => "LARGE_MODEL"
  | largeEntity .. => "LARGE_ENTITY"
  | version .. => "API_VERSION_NOT_SEMVER"
  | noServers => "NO_SERVERS"
  | serverAddress .. => "SERVER_URL_NOT_HTTP"
  | exampleAddress .. => "EXAMPLE_BASE_URL_NOT_HTTP"

/-- A text between apostrophes. -/
def quote (s : String) : String := "'" ++ s ++ "'"

/-- A relationship by the names at its ends. -/
def ends (r : Relationship) : String := "Relationship " ++ r.source ++ " -> " ++ r.target

/-- The message of an issue. -/
def message : Issue → String
  | duplicateEntity entity => "Entity name " ++ quote entity ++ " is defined more than once."
  | duplicateTable _ table => "Table name " ++ quote table ++ " is used by more than one entity."
  | entityName entity =>
    "Entity name " ++ quote entity ++
      " is not a valid identifier; diagram output may not render."
  | tableName entity table =>
    "Table name " ++ quote table ++ " of entity " ++ quote entity ++
      " is not a valid identifier."
  | duplicateField p =>
    "Field " ++ quote p.field ++ " is duplicated in entity " ++ quote p.entity ++ "."
  | fieldName p =>
    "Field " ++ quote p.field ++ " in entity " ++ quote p.entity ++
      " is not a valid identifier."
  | keyNotPrimary p => "Field 'id' in entity " ++ quote p.entity ++ " is not marked primary."
  | unknownType p type =>
    "Field " ++ quote p.text ++ " has unknown type " ++ quote type ++
      "; it will be rendered as a string."
  | unreadableConstraint p key =>
    quote key ++ " on " ++ quote p.text ++
      " has a value of the wrong type and is only echoed in metadata."
  | ignored .lengths p type =>
    "Length constraints on " ++ quote p.text ++ " (" ++ type ++ ") are ignored."
  | ignored .bounds p type =>
    "Numeric bounds on " ++ quote p.text ++ " (" ++ type ++ ") are ignored."
  | ignored .items p type => "'items' on " ++ quote p.text ++ " (" ++ type ++ ") is ignored."
  | lengthRange p .. => "minLength > maxLength on " ++ quote p.text ++ "."
  | valueRange p .. => "minimum > maximum on " ++ quote p.text ++ "."
  | badPattern p _ fault => "Pattern on " ++ quote p.text ++ " does not compile: " ++ fault
  | noChoices p => "Empty enum on " ++ quote p.text ++ "."
  | unknownCardinality _ r =>
    ends r ++ " has unknown type " ++ quote (Value.ofOption r.type).display ++
      "; it will be rendered as oneToMany."
  | unresolved _ r missing =>
    ends r ++ " references unknown " ++ (if missing.length = 1 then "entity " else "entities ") ++
      ", ".intercalate (missing.map Text.Quoted.literal) ++ "; it will be skipped."
  | pathTaken index _ path first =>
    "Relationship #" ++ toString index ++ " maps to existing path " ++ path ++
      "; relationship #" ++ toString first ++ " is kept."
  | statistics entities fields relationships =>
    toString entities ++ " entities, " ++ toString fields ++ " fields, " ++
      toString relationships ++ " relationships."
  | emptyModel => "The model defines no entities."
  | largeModel entities =>
    "The model defines " ++ toString entities ++ " entities; diagrams may be hard to read."
  | largeEntity entity fields =>
    "Entity " ++ quote entity ++ " has " ++ toString fields ++ " fields."
  | version text => "api_version " ++ quote text ++ " is not semantic-versioned."
  | noServers => "No servers configured; the OpenAPI document defaults to '/'."
  | serverAddress url =>
    "Server URL " ++ quote url ++ " is neither absolute http(s) nor relative."
  | exampleAddress url =>
    "code_example_base_url " ++ quote url ++
      " is not an http(s) URL; snippets may not run as-is."

/-- A relationship as the context of a finding. -/
def endsContext (index : Nat) (r : Relationship) : Entries String Value :=
  [("from", .str r.source), ("to", .str r.target), ("index", .nat index)]

/-- The data of an issue. -/
def context : Issue → Entries String Value
  | duplicateEntity entity | entityName entity | largeEntity entity _ => [("entity", .str entity)]
  | duplicateTable entity table | tableName entity table =>
    [("entity", .str entity), ("table", .str table)]
  | duplicateField p | fieldName p | keyNotPrimary p | ignored _ p _ | noChoices p => p.context
  | unknownType p type => p.context ++ [("type", .str type)]
  | unreadableConstraint p key => p.context ++ [("constraint", .str key)]
  | lengthRange p least most =>
    p.context ++ [("minLength", .int least), ("maxLength", .int most)]
  | valueRange p least most =>
    p.context ++ [("minimum", least.toValue), ("maximum", most.toValue)]
  | badPattern p pattern _ => p.context ++ [("pattern", .str pattern)]
  | unknownCardinality index r => endsContext index r ++ [("type", .ofOption r.type)]
  | unresolved index r _ => endsContext index r
  | pathTaken index r path _ => endsContext index r ++ [("path", .str path)]
  | version text => [("api_version", .str text)]
  | serverAddress url | exampleAddress url => [("url", .str url)]
  | statistics .. | emptyModel | largeModel _ | noServers => []

/-- The finding that reports an issue. -/
def finding (i : Issue) : Finding := ⟨i.severity, i.code, i.message, i.context⟩

end Issue

end Schemata.Lint
