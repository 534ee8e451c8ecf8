import Schemata.Command.Switch
import Schemata.Number.Written
/-!
# The command line

`Arguments.read` reads the words of a command line.

* An option may be cut short to any text that only its own spelling starts with.  A value stands in
  the next word, behind an equals sign, or right behind a short option; short options without a
  value can be joined, or follow an equals sign behind the first of them.
* A bare double hyphen is no value: where one is joined to an option, reading stops.
* Words behind a bare double hyphen are no options.  Words that belong to no option are reported
  together at the end, after a missing input.
* Of an option that is given twice the later counts; of two modes the second is refused.
-/

namespace Schemata.Command

/-! ## 1. Words -/

/-- What a word of a command line is. -/
inductive Word
  /-- A value, or a word that belongs to nothing. -/
  | plain
  /-- A bare double hyphen, behind which no word is an option. -/
  | separator
  /-- An option with the text that is joined to it. -/
  | option (s : Switch) (spelling : String) (joined : Option String)
  /-- A word that looks like an option but is none. -/
  | unknown
  deriving DecidableEq, Repr

/-- The texts before and behind the first equals sign. -/
def splitEquals (s : String) : String × Option String :=
  let cs := s.toList
  let name := String.ofList (cs.takeWhile (· ≠ '='))
  match cs.dropWhile (· ≠ '=') with
  | [] => (name, none)
  | _ :: value => (name, some (String.ofList value))

/-- Whether a word is a negative numeral. -/
def isNegativeNumeral (cs : List Char) : Bool :=
  let isRun (ds : List Char) : Bool := ds.all Text.isDecimal
  match cs with
  | '-' :: body =>
    let body := if body.getLast? = some '\n' then body.dropLast else body
    let whole := body.takeWhile (· ≠ '.')
    match body.dropWhile (· ≠ '.') with
    | [] => !whole.isEmpty && isRun whole
    | _ :: places => isRun whole && !places.isEmpty && isRun places
  | _ => false

/-- The readings of a word as an option that is cut short or has its value joined. -/
def candidates (word : String) : List (Switch × String × Option String) :=
  match word.toList with
  | '-' :: '-' :: _ =>
    let (name, value) := splitEquals word
    Switch.table.filterMap fun (spelling, s) =>
      if name.toList.isPrefixOf spelling.toList then some (s, spelling, value) else none
  | cs =>
    let short := String.ofList (cs.take 2)
    Switch.table.filterMap fun (spelling, s) =>
      if spelling = short then some (s, spelling, some (String.ofList (cs.drop 2)))
      else if cs.isPrefixOf spelling.toList then some (s, spelling, none)
      else none

/-- What a word that starts with a hyphen, and is no full spelling, is. -/
def inexact (word : String) : Except UsageFault Word :=
  match candidates word with
  | [(s, spelling, value)] => .ok (.option s spelling value)
  | [] =>
    .ok (if isNegativeNumeral word.toList || word.toList.contains ' ' then .plain else .unknown)
  | several => .error (.ambiguous word (several.map fun c => c.2.1))

/-- What a word is, by itself. -/
def Word.ofText (word : String) : Except UsageFault Word :=
  if word.toList.head? ≠ some '-' then .ok .plain
  else
    match Switch.named? word with
    | some s => .ok (.option s word none)
    | none =>
      if word = "-" then .ok .plain
      else
        let (name, value) := splitEquals word
        match value, Switch.named? name with
        | some value, some s => .ok (.option s name (some value))
        | _, _ => inexact word

/-- What the words of a command line are. -/
def Word.ofTexts : List String → Except UsageFault (List (Word × String))
  | [] => .ok []
  | word :: rest =>
    if word = "--" then .ok ((.separator, word) :: rest.map (.plain, ·))
    else do
      let first ← Word.ofText word
      return (first, word) :: (← Word.ofTexts rest)

/-! ## 2. Settings -/

/-- What the command is asked to do with its input. -/
inductive Mode
  | generate | validateOnly | validateSchema
  | convert (format : String)
  deriving DecidableEq, Repr

/-- What a command line asks for. -/
structure Arguments where
  input : String := ""
  output : Option String := none
  apiFormat : String := Export.ApiFormat.json.name
  mode : Mode := .generate
  apiTitle : Option String := none
  apiVersion : Option String := none
  baseUrl : Option String := none
  pageSize : Option Int := none
  alternatives : Bool := false
  parallel : Bool := false
  verbosity : Nat := 0
  quiet : Bool := false
  deriving DecidableEq, Repr

/-- How the reading of a command line ends early. -/
inductive Ending
  | help | version
  | fault (f : UsageFault)
  /-- A bare double hyphen stands where a value does. -/
  | noValue
  deriving DecidableEq, Repr

/-- What is known while a command line is read. -/
structure Reading where
  arguments : Arguments := {}
  seen : List Switch := []
  extras : List String := []
  deriving Repr

/-- Arguments with one more option. -/
def Arguments.set (a : Arguments) (s : Switch) (value : String) : Except Ending Arguments :=
  match s with
  | .help => .error .help
  | .version => .error .version
  | .input => .ok { a with input := value }
  | .output => .ok { a with output := some value }
  | .apiFormat => .ok { a with apiFormat := value }
  | .validateOnly => .ok { a with mode := .validateOnly }
  | .validateSchema => .ok { a with mode := .validateSchema }
  | .convert => .ok { a with mode := .convert value }
  | .apiTitle => .ok { a with apiTitle := some value }
  | .apiVersion => .ok { a with apiVersion := some value }
  | .baseUrl => .ok { a with baseUrl := some value }
  | .pageSize =>
    match Written.integer 10 value.toList with
    | .ok n => .ok { a with pageSize := some n }
    | .error _ => .error (.fault (.notInteger s value))
  | .alternatives => .ok { a with alternatives := true }
  | .parallel => .ok { a with parallel := true }
  | .verbose => .ok { a with verbosity := a.verbosity + 1 }
  | .quiet => .ok { a with quiet := true }

/-- Takes an option with its value: the value has to be allowed, and the option not excluded. -/
def Reading.take (r : Reading) (s : Switch) (value : String) : Except Ending Reading := do
  if value = "--" then throw .noValue
  match s.choices? with
  | some choices =>
    if !choices.contains value then throw (.fault (.notAllowed s value choices))
  | none => pure ()
  match s.excludes.find? r.seen.contains with
  | some other => throw (.fault (.excluded s other))
  | none => pure ()
  return { r with arguments := ← r.arguments.set s value, seen := s :: r.seen }

/-- Takes options in order. -/
def Reading.takeAll (r : Reading) : List (Switch × String) → Except Ending Reading
  | [] => .ok r
  | (s, value) :: rest => do takeAll (← r.take s value) rest

/-! ## 3. Reading -/

/-- The options in one word: those taken, and one that still needs its value. -/
structure Cluster where
  taken : List (Switch × String) := []
  waiting : Option Switch := none
  deriving Repr

/-- Puts an option without a value in front. -/
def Cluster.cons (s : Switch) (c : Cluster) : Cluster := { c with taken := (s, "") :: c.taken }

/-- The last option of a word. -/
def Cluster.last (s : Switch) : Cluster :=
  if s.takesValue then { waiting := some s } else { taken := [(s, "")] }

/-- Short options without a value that are joined to each other, from the first one on. -/
def clusterOf (s : Switch) : List Char → Except UsageFault Cluster
  | [] => .ok (.last s)
  | c :: rest =>
    if s.takesValue then .ok { taken := [(s, String.ofList (c :: rest))] }
    else
      match Switch.named? (String.ofList ['-', c]) with
      | none => .error (.valueUnwanted s (String.ofList (c :: rest)))
      | some next => (clusterOf next rest).map (Cluster.cons s)

/-- The options in a word that starts with an option. -/
def Cluster.ofWord (s : Switch) (spelling : String) : Option String → Except UsageFault Cluster
  | none => .ok (.last s)
  | some joined =>
    if s.takesValue then .ok { taken := [(s, joined)] }
    else if joined = "" || "--".toList.isPrefixOf spelling.toList then
      .error (.valueUnwanted s joined)
    else clusterOf s joined.toList

/-- Reads words. -/
def readWords (r : Reading) : List (Word × String) → Except Ending Reading
  | [] => .ok r
  | (.option s spelling joined, _) :: rest => do
    let cluster ← (Cluster.ofWord s spelling joined).mapError Ending.fault
    match cluster.waiting, rest with
    | some s, (.plain, value) :: rest =>
      readWords (← r.takeAll (cluster.taken ++ [(s, value)])) rest
    | some s, _ => throw (.fault (.valueMissing s))
    | none, rest => do readWords (← r.takeAll cluster.taken) rest
  | (_, word) :: rest => readWords { r with extras := r.extras ++ [word] } rest

/-- Reads a command line. -/
def Arguments.read (words : List String) : Except Ending Arguments := do
  let words ← (Word.ofTexts words).mapError Ending.fault
  let r ← readWords {} words
  if !r.seen.contains .input then throw (.fault .inputMissing)
  if !r.extras.isEmpty then throw (.fault (.unrecognized r.extras))
  return r.arguments

end Schemata.Command
