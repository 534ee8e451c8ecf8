import Schemata.Pattern.Escape
import Schemata.Text.Letters
/-!
# Reading patterns

The grammar of patterns: alternatives, sequences, sets, repetitions, groups of all kinds, and
flags.

* `Pattern.read` reads a pattern, or says why it is none.
* `Pattern.verdict` says whether a pattern is well formed, malformed, or beyond a limit.
-/

namespace Schemata.Pattern

open Reading

/-! ## 1. Sets -/

/-- The member of a set that a token stands for. -/
def memberOf : Token → Reading Member
  | .plain c => return .code c.toNat
  | .escaped c => setEscape c

/-- Whether two members are the ends of a range. -/
def isRange : Member → Member → Bool
  | .code low, .code high => low ≤ high
  | _, _ => false

/-- The members of a set that was opened at `start`, up to its closing bracket; a bracket that
comes first is a member. -/
def members (start : Nat) : Nat → Bool → Reading Unit
  | 0, _ => failAt .unterminatedSet start
  | fuel + 1, isFirst => do
    match ← take with
    | none => failAt .unterminatedSet start
    | some t =>
      if t = .plain ']' && !isFirst then return ()
      let low ← memberOf t
      if ← accept '-' then
        match ← take with
        | none => failAt .unterminatedSet start
        | some u =>
          if u = .plain ']' then return ()
          let high ← memberOf u
          unless isRange low high do
            fail (.badRange t.text u.text) (t.length + 1 + u.length)
          members start fuel false
      else members start fuel false

/-- A set whose opening bracket stands at `start`. -/
def characterSet (start : Nat) : Reading Node := do
  let _ ← accept '^'
  members start ((← get).source.rest.length + 1) true
  return .unit

/-! ## 2. Repetitions -/

/-- The first count that is too large. -/
def repeatLimit : Nat := 0xffffffff

/-- A count, unless it is too large. -/
def count? (digits : List Char) : Reading (Option Nat) := do
  if digits.isEmpty then return none
  if Written.digitLimit < digits.length then
    (.error (.limit (.digits digits.length)) : Read Unit)
  let n := Numeral.value digits
  if repeatLimit ≤ n then (.error (.limit .repetition) : Read Unit)
  return some n

/-- The counts between braces; nothing, and the source as it was, when the brace is a character
like any other. -/
def bracedCounts : Reading (Option (Nat × Option Nat)) := do
  let before ← get
  if before.source.isNext '\x7d' then return none
  let low ← onSource (Source.takeAll Char.isDigit)
  let high ← if ← accept ',' then onSource (Source.takeAll Char.isDigit) else pure low
  if ← accept '\x7d' then
    let least ← count? low
    let most ← count? high
    match most with
    | some n => if n < least.getD 0 then failAt .reversedRepeat before.source.position
    | none => pure ()
    return some (least.getD 0, most)
  else
    set before
    return none

/-- The counts that a quantifier asks for. -/
def counts (c : Char) : Reading (Option (Nat × Option Nat)) :=
  if c = '?' then return some (0, some 1)
  else if c = '*' then return some (0, none)
  else if c = '+' then return some (1, none)
  else bracedCounts

/-- How a repetition proceeds, by the character after its quantifier. -/
def greed : Reading Greed := do
  if ← accept '?' then return .lazy
  if ← accept '+' then return .possessive
  return .greedy

/-- Puts a repetition in the place of the last node, which stands first; `place` is that of the
quantifier. -/
def repeatLast (place : Nat) (counts : Nat × Option Nat) : List Node → Reading (List Node)
  | [] => failAt .nothingToRepeat place
  | .anchor :: _ => failAt .nothingToRepeat place
  | .repeated .. :: _ => failAt .multipleRepeat place
  | n :: earlier => do return .repeated (← greed) counts.1 counts.2 [n] :: earlier

/-! ## 3. Flags -/

/-- The letters of flags. -/
def flagLetters : List Char := ['i', 'L', 'm', 's', 'x', 'a', 't', 'u']

/-- The flag letter of a token. -/
def flagLetter? : Token → Option Char
  | .plain c => if flagLetters.contains c then some c else none
  | .escaped _ => none

/-- A token that is no flag: an unknown letter, or the end of the flags is missing. -/
def noFlag {α : Type} (t : Token) (missing : Cause) : Reading α :=
  fail (if t.isIn Text.isLetter then .unknownFlag else missing) t.length

/-- The flags that are turned on from a first one, and the character that ends them. -/
def flagsOn : Nat → Char → List Char → Reading (Char × List Char)
  | 0, _, _ => fail .missingFlagEnd 0
  | fuel + 1, c, on => do
    if c = 'L' then fail .byteFlag 0
    let on := c :: on
    if (c = 'a' && on.contains 'u') || (c = 'u' && on.contains 'a') then fail .clashingFlags 0
    match ← take with
    | none => fail .missingFlagEnd 0
    | some t =>
      if t = .plain ')' then return (')', on)
      if t = .plain '-' then return ('-', on)
      if t = .plain ':' then return (':', on)
      match flagLetter? t with
      | some d => flagsOn fuel d on
      | none => noFlag t .missingFlagEnd

/-- The flags that are turned off from a first one, up to a colon. -/
def flagsOff : Nat → Char → List Char → Reading (List Char)
  | 0, _, _ => fail .missingColon 0
  | fuel + 1, c, off => do
    if c = 'a' || c = 'L' || c = 'u' then fail .typeOff 0
    let off := c :: off
    match ← take with
    | none => fail .missingColon 0
    | some t =>
      if t = .plain ':' then return off
      match flagLetter? t with
      | some d => flagsOff fuel d off
      | none => noFlag t .missingColon

/-- The flags with the given ones turned on. -/
def Flags.with (f : Flags) (on : List Char) : Flags where
  ascii := f.ascii || on.contains 'a'
  wide := f.wide || on.contains 'u'
  verbose := f.verbose || on.contains 'x'
  template := f.template || on.contains 't'

/-- The flags of a group, turned on and off; nothing when they are for the whole pattern. -/
def inlineFlags (c : Char) : Reading (Option (List Char × List Char)) := do
  let fuel := (← get).source.rest.length + 1
  let (ending, on) ← if c = '-' then pure ('-', []) else flagsOn fuel c []
  if ending = ')' then
    modify fun s => { s with flags := s.flags.with on }
    return none
  if on.contains 't' then fail .globalOn 1
  let off ←
    if ending = '-' then
      match ← take with
      | none => fail .missingFlag 0
      | some t =>
        match flagLetter? t with
        | some d => flagsOff fuel d []
        | none => noFlag t .missingFlag
    else pure []
  if off.contains 't' then fail .globalOff 1
  if on.any off.contains then fail .onAndOff 1
  return some (on, off)

/-! ## 4. How groups open -/

/-- What an opening parenthesis starts. -/
inductive Opening
  | comment
  | flags
  | reference (n : Node)
  | look (behind : Bool)
  | condition (group : Nat)
  | capture (name : Option String)
  | atomic
  | plain (on off : List Char)

/-- A name that has to be one. -/
def groupName (terminator : Char) : Reading String := do
  let name ← nameUntil terminator "group name"
  unless Text.isName name.toList do fail (.badGroupName name) (name.length + 1)
  return name

/-- A reference to a group by name. -/
def namedReference : Reading Node := do
  let name ← groupName ')'
  let s ← get
  match s.names.lookup name with
  | none => fail (.unknownGroup name) (name.length + 1)
  | some group =>
    match s.widths[group - 1]?.join with
    | none => fail .openGroup (name.length + 1)
    | some width => do
      checkLookBehind group
      return .reference group width

/-- The number that a text names a group by. -/
def groupNumber? (name : String) : Option Nat :=
  match Written.integer 10 name.toList with
  | .ok n => if n < 0 then none else some n.toNat
  | .error _ => none

/-- The first number of a group that there can never be. -/
def groupLimit : Nat := 0x3fffffff

/-- The group that a condition asks for. -/
def conditionGroup : Reading Nat := do
  let name ← nameUntil ')' "group name"
  let s ← get
  let group ←
    if Text.isName name.toList then
      match s.names.lookup name with
      | some group => pure group
      | none => fail (.unknownGroup name) (name.length + 1)
    else
      match groupNumber? name with
      | none => fail (.badGroupName name) (name.length + 1)
      | some 0 => fail .badGroupNumber (name.length + 1)
      | some n => do
        if groupLimit ≤ n then fail (.invalidGroup n) (name.length + 1)
        unless s.conditions.any fun c => c.1 = n do
          set { s with conditions := s.conditions ++ [(n, s.source.position - name.length - 1)] }
        pure n
  checkLookBehind group
  return group

/-- Steps over a comment in parentheses. -/
def comment (start : Nat) : Nat → Reading Unit
  | 0 => failAt .unterminatedComment start
  | fuel + 1 => do
    if (← peek).isNone then failAt .unterminatedComment start
    let t ← take
    if t = some (.plain ')') then return () else comment start fuel

/-- What a parenthesis at `start` opens, when a question mark follows it. -/
def extension (start : Nat) : Reading Opening := do
  match ← take with
  | none => fail .unexpectedEnd 0
  | some (.plain ':') => return .plain [] []
  | some (.plain '>') => return .atomic
  | some (.plain '=') | some (.plain '!') => return .look false
  | some (.plain '(') => return .condition (← conditionGroup)
  | some (.plain '#') => do
    comment start ((← get).source.rest.length + 1)
    return .comment
  | some (.plain 'P') => do
    if ← accept '<' then return .capture (some (← groupName '>'))
    if ← accept '=' then return .reference (← namedReference)
    match ← take with
    | none => fail .unexpectedEnd 0
    | some t => fail (.unknownExtension ("?P" ++ t.text)) (t.length + 2)
  | some (.plain '<') => do
    match ← take with
    | none => fail .unexpectedEnd 0
    | some t =>
      if t = .plain '=' || t = .plain '!' then return .look true
      fail (.unknownExtension ("?<" ++ t.text)) (t.length + 2)
  | some t =>
    match (if t = .plain '-' then some '-' else flagLetter? t) with
    | none => fail (.unknownExtension ("?" ++ t.text)) (t.length + 1)
    | some c => do
      match ← inlineFlags c with
      | none => return .flags
      | some (on, off) => return .plain on off

/-- What a parenthesis at `start` opens. -/
def opening (start : Nat) : Reading Opening := do
  if ← accept '?' then extension start else return .capture none

/-- Opens a group that captures; the result is its number. -/
def openGroup (name : Option String) : Reading Nat := do
  let s ← get
  let group := s.widths.length + 1
  set { s with widths := s.widths ++ [none] }
  match name with
  | none => return group
  | some name =>
    match s.names.lookup name with
    | some before => fail (.redefinedGroup name group before) (name.length + 1)
    | none => do
      modify fun s => { s with names := s.names ++ [(name, group)] }
      return group

/-- Closes a group. -/
def closeGroup (group : Nat) (w : Width) : Reading Unit :=
  modify fun s => { s with widths := s.widths.set (group - 1) (some w) }

/-- The closing parenthesis of what was opened at `start`. -/
def closing (start : Nat) : Reading Unit := do
  unless ← accept ')' do failAt .unterminatedGroup start

/-! ## 5. Sequences and alternatives -/

/-- The blanks that are skipped in a verbose pattern. -/
def isVerboseBlank (t : Token) : Bool :=
  t.isIn fun c => c = ' ' || c = '\n' || c = '\r' || c = '\t' || c.toNat = 11 || c.toNat = 12

/-- The characters that start a quantifier. -/
def isQuantifier (c : Char) : Bool := c = '*' || c = '+' || c = '?' || c = '\x7b'

/-- A sequence of alternatives as one sequence of nodes. -/
def alternatives : List (List Node) → List Node
  | [branch] => branch
  | branches => [.choice branches]

/-- Whether nothing of a look-behind is being read yet: the mark that holds inside of it. -/
def enterLookBehind : Reading (Option Nat) := do
  let s ← get
  if s.lookBehind.isNone then set { s with lookBehind := some (s.widths.length + 1) }
  return s.lookBehind

mutual

/-- Alternatives, separated by bars; `isTop` outside of all parentheses. -/
def branches : Nat → Bool → Bool → List (List Node) → Reading (List Node)
  | 0, _, _, _ => fail .unexpectedEnd 0
  | fuel + 1, isTop, verbose, found => do
    let branch ← sequence fuel (isTop && found.isEmpty) verbose []
    let found := found ++ [branch]
    if ← accept '|' then do
      let s ← get
      branches fuel isTop (if isTop then s.flags.verbose else verbose) found
    else return alternatives found

/-- A sequence, the nodes read so far in reverse; `isFirst` where flags for the whole pattern may
stand. -/
def sequence : Nat → Bool → Bool → List Node → Reading (List Node)
  | 0, _, _, _ => fail .unexpectedEnd 0
  | fuel + 1, isFirst, verbose, found => do
    match ← peek with
    | none => return found.reverse
    | some t =>
      if t = .plain '|' || t = .plain ')' then return found.reverse
      let here ← place
      let _ ← take
      if verbose && isVerboseBlank t then sequence fuel isFirst verbose found
      else if verbose && t = .plain '#' then do
        let n := (← get).source.rest.length + 1
        onSource fun s => do return ((), ← s.skipThrough '\n' n)
        sequence fuel isFirst verbose found
      else
        match t with
        | .escaped c => do sequence fuel isFirst verbose ((← escape c) :: found)
        | .plain c =>
          if c = '[' then do sequence fuel isFirst verbose ((← characterSet here) :: found)
          else if isQuantifier c then do
            match ← counts c with
            | none => sequence fuel isFirst verbose (.unit :: found)
            | some counts => sequence fuel isFirst verbose (← repeatLast here counts found)
          else if c = '(' then do
            match ← opening here with
            | .comment => sequence fuel isFirst verbose found
            | .flags => do
              unless isFirst && found.isEmpty do failAt .lateFlags here
              sequence fuel isFirst (← get).flags.verbose found
            | .reference n => sequence fuel isFirst verbose (n :: found)
            | .look behind => do
              let outer ← if behind then enterLookBehind else pure none
              let body ← branches fuel false verbose []
              if behind && outer.isNone then modify fun s => { s with lookBehind := none }
              closing here
              sequence fuel isFirst verbose (.look behind body :: found)
            | .condition group => do
              let yes ← sequence fuel false verbose []
              let no ←
                if ← accept '|' then do
                  let no ← sequence fuel false verbose []
                  if (← peek) = some (.plain '|') then fail .threeBranches 0
                  pure no
                else pure []
              closing here
              sequence fuel isFirst verbose (.conditional group yes no :: found)
            | .capture name => do
              let group ← openGroup name
              let body ← branches fuel false verbose []
              closing here
              closeGroup group (Node.widthOf body)
              sequence fuel isFirst verbose (.group (some group) false body :: found)
            | .atomic => do
              let body ← branches fuel false verbose []
              closing here
              sequence fuel isFirst verbose (.atomic body :: found)
            | .plain on off => do
              let inner := (verbose || on.contains 'x') && !off.contains 'x'
              let body ← branches fuel false inner []
              closing here
              sequence fuel isFirst verbose
                (.group none (!on.isEmpty || !off.isEmpty) body :: found)
          else if c = '^' || c = '$' then sequence fuel isFirst verbose (.anchor :: found)
          else sequence fuel isFirst verbose (.unit :: found)

end

/-! ## 6. Patterns -/

/-- A whole pattern. -/
def pattern : Reading (List Node) := do
  let nodes ← branches (2 * (← get).source.rest.length + 4) true false []
  let s ← get
  if s.flags.ascii && s.flags.wide then (.error (.limit .characterSets) : Read Unit)
  if s.source.next?.isSome then fail .unbalanced 0
  match s.conditions.find? fun c => s.widths.length < c.1 with
  | some (group, place) => failAt (.invalidGroup group) place
  | none => return nodes

/-- Reads a pattern and sees whether it compiles. -/
def read (text : String) : Except Stop (List Node) := do
  let source ← Source.ofPattern text.toList
  let (nodes, s) ← pattern.run { source }
  Node.allCompile s.flags.template nodes
  if Node.anyWide nodes then .error (.limit .lookBehind)
  return nodes

/-- What is to be said about a pattern. -/
inductive Verdict
  | wellFormed
  | malformed (message : String)
  | beyond (limit : Limit)
  deriving DecidableEq, Repr

/-- The verdict on a pattern. -/
def verdict (text : String) : Verdict :=
  match read text with
  | .ok _ => .wellFormed
  | .error (.fault f) => .malformed (f.message text)
  | .error (.limit l) => .beyond l

end Schemata.Pattern
