import Schemata.Yaml.Cursor
import Schemata.Yaml.Fault
/-!
# Tokens of a YAML text

`Token.scan` splits a text into tokens, as far as it is free of faults.  Block structure shows in
them: a change of indentation opens or closes a block collection.  Whether a scalar is a key is
only known at the `:` after it, so every place where a key may have begun is kept as a candidate;
the tokens that open the key are inserted there once the `:` is met.

The sections follow the text: places of keys (1), directives and names (2), block scalars (3),
quoted scalars (4), plain scalars (5), and the choice among them (6).
-/

namespace Schemata.Yaml

/-- The arguments of a directive. -/
inductive Directive
  | version (major minor : Nat)
  | handle (name expansion : String)
  | reserved (name : String)
  deriving DecidableEq, Repr

/-- A token. -/
inductive Token
  | directive (d : Directive)
  | documentStart
  | documentEnd
  | streamEnd
  | blockSequenceStart
  | blockMappingStart
  | blockEnd
  | flowSequenceStart
  | flowSequenceEnd
  | flowMappingStart
  | flowMappingEnd
  | blockEntry
  | flowEntry
  | key
  | value
  | aliasTo (name : String)
  | anchor (name : String)
  | tag (handle : Option String) (suffix : String)
  | scalar (text : String) (plain : Bool)
  deriving DecidableEq, Repr, Inhabited

namespace Token

/-! ## 1. Places where a key may have begun -/

/-- A place where a key may have begun: the number of its first token, and whether a `:` has to
follow for the indentation to make sense. -/
structure Candidate where
  token : Nat
  required : Bool
  index : Nat
  line : Nat
  column : Nat
  deriving Repr

/-- What is known while a text is split: the place reached, the tokens found, the depth of
brackets, the open indentations (the innermost first), whether a key may begin here, and at most
one candidate for each depth. -/
structure Progress where
  cursor : Cursor
  tokens : Array Token
  depth : Nat
  indent : Int
  indents : List Int
  keyAllowed : Bool
  candidates : List (Nat × Candidate)

namespace Progress

/-- The state at the start of a text. -/
def start (cs : List Char) : Progress :=
  ⟨Cursor.start cs, #[], 0, -1, [], true, []⟩

/-- Adds a token. -/
def push (p : Progress) (t : Token) : Progress := { p with tokens := p.tokens.push t }

/-- Whether the place is outside brackets. -/
def inBlock (p : Progress) : Bool := p.depth = 0

/-- A key has to end on its line and within 1024 characters. -/
def Candidate.isStale (p : Progress) (c : Candidate) : Bool :=
  c.line ≠ p.cursor.line || 1024 < p.cursor.index - c.index

/-- Forgets the candidates that can no longer be keys; a required one may not be forgotten. -/
def dropStale (p : Progress) : Except Fault Progress :=
  if p.candidates.any fun (_, c) => Candidate.isStale p c && c.required then .error .malformed
  else .ok { p with candidates := p.candidates.filter fun (_, c) => !Candidate.isStale p c }

/-- Forgets the candidate of the current depth; a required one may not be forgotten. -/
def dropCandidate (p : Progress) : Except Fault Progress :=
  match p.candidates.lookup p.depth with
  | some c =>
    if c.required then .error .malformed
    else .ok { p with candidates := p.candidates.filter fun (d, _) => d ≠ p.depth }
  | none => .ok p

/-- Notes that a key may begin here. -/
def saveCandidate (p : Progress) : Except Fault Progress :=
  if p.keyAllowed then do
    let required := p.inBlock && p.indent = p.cursor.column
    let p ← p.dropCandidate
    let c : Candidate := ⟨p.tokens.size, required, p.cursor.index, p.cursor.line, p.cursor.column⟩
    return { p with candidates := (p.depth, c) :: p.candidates }
  else .ok p

/-- Closes the blocks that are indented deeper than a column. -/
def unwind (p : Progress) (column : Int) : Progress :=
  if p.inBlock then
    let closed := (p.indent :: p.indents).takeWhile (column < ·)
    let kept := (p.indent :: p.indents).drop closed.length
    { p with
      tokens := closed.foldl (fun ts _ => ts.push .blockEnd) p.tokens
      indent := kept.headD (-1)
      indents := kept.tail }
  else p

/-- Opens a block at a column if that is deeper than the current one. -/
def deepen? (p : Progress) (column : Nat) : Option Progress :=
  if p.indent < column then
    some { p with indents := p.indent :: p.indents, indent := column }
  else none

/-- Moves on past `n` characters. -/
def advance (p : Progress) (n : Nat) : Progress := { p with cursor := p.cursor.skip n }

/-- Past blanks, comments and line breaks.  Outside brackets a key may begin on a new line. -/
def toNextToken (p : Progress) : Nat → Progress
  | 0 => p
  | fuel + 1 =>
    let c := p.cursor.dropWhile (· = ' ')
    let c := if c.peek = '#' then c.dropWhile (!isBreakOrEnd ·) else c
    match c.lineBreak with
    | ([], c) => { p with cursor := c }
    | (_, c) => toNextToken { p with cursor := c, keyAllowed := p.keyAllowed || p.inBlock } fuel

end Progress

/-! ## 2. Directives, names and tags -/

/-- The rest of a line that may hold only a comment. -/
def endOfLine (c : Cursor) : Except Fault Cursor :=
  let c := c.dropWhile (· = ' ')
  let c := if c.peek = '#' then c.dropWhile (!isBreakOrEnd ·) else c
  if isBreakOrEnd c.peek then .ok c.lineBreak.2 else .error .malformed

/-- The value of decimal digits. -/
def decimal (cs : List Char) : Nat := cs.foldl (fun n c => 10 * n + (c.toNat - '0'.toNat)) 0

/-- A numeral of a version. -/
def versionNumber (c : Cursor) : Except Fault (Nat × Cursor) :=
  match c.takeWhile Char.isDigit with
  | ([], _) => .error .malformed
  | (ds, c) => .ok (decimal ds, c)

/-- A tag handle: `!`, `!!` or `!name!`. -/
def tagHandle (c : Cursor) : Except Fault (String × Cursor) :=
  if c.peek ≠ '!' then .error .malformed
  else if c.peekAt 1 = ' ' then .ok ("!", c.next)
  else
    let (name, after) := c.next.takeWhile isWordChar
    if after.peek = '!' then .ok (String.ofList ('!' :: name ++ ['!']), after.next)
    else .error .malformed

/-- Characters of a tag. -/
def isTagChar (c : Char) : Bool := c.isAlphanum || "-;/?:@&=+$,_.!~*'()[]".toList.contains c

/-- The value of a hexadecimal digit. -/
def hexDigit? (c : Char) : Option Nat :=
  if c.isDigit then some (c.toNat - '0'.toNat)
  else if 'a' ≤ c ∧ c ≤ 'f' then some (c.toNat - 'a'.toNat + 10)
  else if 'A' ≤ c ∧ c ≤ 'F' then some (c.toNat - 'A'.toNat + 10)
  else none

/-- The bytes of the escapes `%XX` at the front. -/
def tagEscapes (c : Cursor) : Nat → Except Fault (List UInt8 × Cursor)
  | 0 => .ok ([], c)
  | fuel + 1 =>
    if c.peek = '%' then
      match hexDigit? (c.peekAt 1), hexDigit? (c.peekAt 2) with
      | some a, some b => do
        let (bs, c) ← tagEscapes (c.skip 3) fuel
        return (UInt8.ofNat (16 * a + b) :: bs, c)
      | _, _ => .error .malformed
    else .ok ([], c)

/-- The text of a tag or of a tag's expansion, which is not empty. -/
def tagText (c : Cursor) : Except Fault (String × Cursor) := do
  let rec go (c : Cursor) : Nat → Except Fault (List Char × Cursor)
    | 0 => .ok ([], c)
    | fuel + 1 =>
      match c.takeWhile isTagChar with
      | ([], c) =>
        if c.peek = '%' then do
          let (bytes, c) ← tagEscapes c (c.rest.length + 1)
          match String.fromUTF8? (ByteArray.mk bytes.toArray) with
          | some s =>
            let (more, c) ← go c fuel
            return (s.toList ++ more, c)
          | none => .error .malformed
        else .ok ([], c)
      | (cs, c) => do
        let (more, c) ← go c fuel
        return (cs ++ more, c)
  match ← go c (c.rest.length + 1) with
  | ([], _) => throw .malformed
  | (cs, c) => return (String.ofList cs, c)

/-- A tag. -/
def tagToken (c : Cursor) : Except Fault (Token × Cursor) := do
  let (token, c) ←
    if c.peekAt 1 = '<' then do
      let (suffix, c) ← tagText (c.skip 2)
      if c.peek = '>' then pure (Token.tag none suffix, c.next) else throw .malformed
    else if isBlankOrEnd (c.peekAt 1) then pure (Token.tag none "!", c.next)
    else do
      let word := c.next.rest.takeWhile (!isSpaceOrEnd ·)
      let (handle, c) ← if word.contains '!' then tagHandle c else pure ("!", c.next)
      let (suffix, c) ← tagText c
      pure (Token.tag (some handle) suffix, c)
  if isSpaceOrEnd c.peek then return (token, c) else throw .malformed

/-- The name after `&` or `*`. -/
def anchorName (c : Cursor) : Except Fault (String × Cursor) :=
  match c.next.takeWhile isWordChar with
  | ([], _) => .error .malformed
  | (name, c) =>
    if isBlankOrEnd c.peek || "?:,]\x7d%@".toList.contains c.peek || c.peek.toNat = 0x60 then
      .ok (String.ofList name, c)
    else .error .malformed

/-- A directive, from its `%` to the end of its line. -/
def directiveToken (c : Cursor) : Except Fault (Token × Cursor) := do
  let (name, c) := c.next.takeWhile isWordChar
  if name.isEmpty || !isSpaceOrEnd c.peek then throw .malformed
  let name := String.ofList name
  let (d, c) ←
    if name = "YAML" then do
      let (major, c) ← versionNumber (c.dropWhile (· = ' '))
      if c.peek ≠ '.' then throw .malformed
      let (minor, c) ← versionNumber c.next
      if !isSpaceOrEnd c.peek then throw .malformed
      pure (Directive.version major minor, c)
    else if name = "TAG" then do
      let (handle, c) ← tagHandle (c.dropWhile (· = ' '))
      if c.peek ≠ ' ' then throw .malformed
      let (expansion, c) ← tagText (c.dropWhile (· = ' '))
      if !isSpaceOrEnd c.peek then throw .malformed
      pure (Directive.handle handle expansion, c)
    else pure (Directive.reserved name, c.dropWhile (!isBreakOrEnd ·))
  return (.directive d, ← endOfLine c)

/-! ## 3. Block scalars -/

/-- What happens to the line breaks at the end of a block scalar. -/
inductive Chomping
  | clip | strip | keep
  deriving DecidableEq, Repr

/-- The sign of a header, if there is one. -/
def chompingSign (c : Cursor) : Option Chomping × Cursor :=
  if c.peek = '+' then (some .keep, c.next)
  else if c.peek = '-' then (some .strip, c.next)
  else (none, c)

/-- The depth digit of a header, if there is one. -/
def depthDigit (c : Cursor) : Except Fault (Option Nat × Cursor) :=
  if c.peek = '0' then .error .malformed
  else if c.peek.isDigit then .ok (some (c.peek.toNat - '0'.toNat), c.next)
  else .ok (none, c)

/-- The header of a block scalar: a sign and a depth digit in either order. -/
def blockHeader (c : Cursor) : Except Fault (Chomping × Option Nat × Cursor) := do
  let (sign, c) := chompingSign c
  let (depth, c) ← depthDigit c
  let (sign, c) := match sign, depth with
    | none, some _ => chompingSign c
    | _, _ => (sign, c)
  if isSpaceOrEnd c.peek then return (sign.getD .clip, depth, ← endOfLine c)
  else throw .malformed

/-- The blank lines at the front and the widest indentation among them. -/
def leadingBreaks (c : Cursor) (widest : Nat) : Nat → List Char × Nat × Cursor
  | 0 => ([], widest, c)
  | fuel + 1 =>
    if c.peek = ' ' then
      let c := c.next
      leadingBreaks c (max widest c.column) fuel
    else
      match c.lineBreak with
      | ([], c) => ([], widest, c)
      | (br, c) =>
        let (more, widest, c) := leadingBreaks c widest fuel
        (br ++ more, widest, c)

/-- Past at most the indentation of a line. -/
def indentation (c : Cursor) (indent : Nat) : Cursor :=
  let spaces := (c.rest.takeWhile (· = ' ')).length
  c.skip (min spaces (indent - c.column))

/-- The blank lines at the front, each indented no deeper than the scalar. -/
def blankLines (c : Cursor) (indent : Nat) : Nat → List Char × Cursor
  | 0 => ([], c)
  | fuel + 1 =>
    match (indentation c indent).lineBreak with
    | ([], c) => ([], c)
    | (br, c) =>
      let (more, c) := blankLines c indent fuel
      (br ++ more, c)

/-- Whether a line of the scalar begins here. -/
def atBlockLine (c : Cursor) (indent : Nat) : Bool := c.column = indent && c.peek ≠ '\x00'

/-- The lines of a block scalar, after `breaks` blank lines: its text, the line break after the
last line and the blank lines behind it. -/
def blockLines (folded : Bool) (indent : Nat) (breaks : List Char) (c : Cursor) :
    Nat → List Char × List Char × List Char × Cursor
  | 0 => ([], [], breaks, c)
  | fuel + 1 =>
    let spaced := c.peek = ' ' || c.peek = '\t'
    let (line, c) := c.takeWhile (!isBreakOrEnd ·)
    let (br, c) := c.lineBreak
    let (after, c) := blankLines c indent (c.rest.length + 1)
    if atBlockLine c indent then
      let nextSpaced := c.peek = ' ' || c.peek = '\t'
      let joint :=
        if folded && br = ['\n'] && !spaced && !nextSpaced then
          (if after.isEmpty then [' '] else [])
        else br
      let (more, last, behind, c) := blockLines folded indent after c fuel
      (breaks ++ line ++ joint ++ more, last, behind, c)
    else (breaks ++ line, br, after, c)

/-- A block scalar from its `|` or `>`; `parent` is the indentation around it. -/
def blockScalar (folded : Bool) (parent : Int) (c : Cursor) : Except Fault (Token × Cursor) := do
  let (chomping, depth, c) ← blockHeader c.next
  let least := max 1 (parent + 1).toNat
  let size := c.rest.length + 1
  let (breaks, indent, c) := match depth with
    | none =>
      let (breaks, widest, c) := leadingBreaks c 0 size
      (breaks, max least widest, c)
    | some d =>
      let indent := least + d - 1
      let (breaks, c) := blankLines c indent size
      (breaks, indent, c)
  let (text, last, behind, c) :=
    if atBlockLine c indent then blockLines folded indent breaks c size else ([], [], breaks, c)
  let tail := match chomping with
    | .strip => []
    | .clip => last
    | .keep => last ++ behind
  return (.scalar (String.ofList (text ++ tail)) false, c)

/-! ## 4. Quoted scalars -/

/-- The characters of one-letter escapes. -/
def escapes : List (Char × Char) :=
  [('0', '\x00'), ('a', '\x07'), ('b', '\x08'), ('t', '\t'), ('\t', '\t'), ('n', '\n'),
   ('v', '\x0b'), ('f', '\x0c'), ('r', '\r'), ('e', '\x1b'), (' ', ' '), ('"', '"'),
   ('\\', '\\'), ('/', '/'), ('N', '\u0085'), ('_', '\u00a0'), ('L', '\u2028'), ('P', '\u2029')]

/-- The count of digits of an escape by code point. -/
def codePointWidth? : Char → Option Nat
  | 'x' => some 2
  | 'u' => some 4
  | 'U' => some 8
  | _ => none

/-- The line breaks inside a quoted scalar, with the blanks around them. -/
def quotedBreaks (c : Cursor) : Nat → Except Fault (List Char × Cursor)
  | 0 => .ok ([], c)
  | fuel + 1 =>
    if c.atSeparator then .error .malformed
    else
      match (c.dropWhile fun ch => ch = ' ' || ch = '\t').lineBreak with
      | ([], c) => .ok ([], c)
      | (br, c) => do
        let (more, c) ← quotedBreaks c fuel
        return (br ++ more, c)

/-- The blanks inside a quoted scalar: a single line break becomes a space. -/
def quotedBlanks (c : Cursor) : Except Fault (List Char × Cursor) :=
  let (blanks, c) := c.takeWhile fun ch => ch = ' ' || ch = '\t'
  if c.peek = '\x00' then .error .malformed
  else
    match c.lineBreak with
    | ([], c) => .ok (blanks, c)
    | (br, c) => do
      let (breaks, c) ← quotedBreaks c (c.rest.length + 1)
      return ((if br ≠ ['\n'] then br else if breaks.isEmpty then [' '] else []) ++ breaks, c)

/-- The escape after a backslash. -/
def escape (c : Cursor) : Except Fault (List Char × Cursor) :=
  match escapes.lookup c.peek, codePointWidth? c.peek with
  | some ch, _ => .ok ([ch], c.next)
  | none, some width =>
    let digits := c.next.rest.take width
    if digits.length = width then
      match digits.foldlM (fun n d => (hexDigit? d).map (16 * n + ·)) 0 with
      | some n =>
        if 0x110000 ≤ n then .error (.codePoint n)
        else if 0xD800 ≤ n ∧ n < 0xE000 then .error .halfCharacter
        else .ok ([Char.ofNat n], c.skip (width + 1))
      | none => .error .malformed
    else .error .malformed
  | none, none =>
    if isBreak c.peek then quotedBreaks c.lineBreak.2 (c.rest.length + 1)
    else .error .malformed

/-- A quoted scalar up to its closing quote. -/
def quotedText (double : Bool) (c : Cursor) : Nat → Except Fault (List Char × Cursor)
  | 0 => .error .malformed
  | fuel + 1 =>
    let ch := c.peek
    let continueWith (cs : List Char) (c : Cursor) : Except Fault (List Char × Cursor) := do
      let (more, c) ← quotedText double c fuel
      return (cs ++ more, c)
    if !double && ch = '\'' && c.peekAt 1 = '\'' then continueWith ['\''] (c.skip 2)
    else if ch = (if double then '"' else '\'') then .ok ([], c.next)
    else if double && ch = '\\' then do
      let (cs, c) ← escape c.next
      continueWith cs c
    else if isBlankOrEnd ch then do
      let (cs, c) ← quotedBlanks c
      continueWith cs c
    else continueWith [ch] c.next

/-- A quoted scalar from its opening quote. -/
def quotedScalar (double : Bool) (c : Cursor) : Except Fault (Token × Cursor) := do
  let (cs, c) ← quotedText double c.next (c.rest.length + 1)
  return (.scalar (String.ofList cs) false, c)

/-! ## 5. Plain scalars -/

/-- Indicators of flow collections. -/
def isFlowIndicator (c : Char) : Bool :=
  c = ',' || c = '[' || c = ']' || c = '\x7b' || c = '\x7d'

/-- Whether a plain scalar's word ends before `c` and the character after it. -/
def endsWord (inBlock : Bool) (c : Char) (following : Char) : Bool :=
  isBlankOrEnd c ||
    (c = ':' && (isBlankOrEnd following || (!inBlock && isFlowIndicator following))) ||
    (!inBlock && (isFlowIndicator c || c = '?'))

/-- A word of a plain scalar. -/
def plainWord (inBlock : Bool) : List Char → List Char
  | [] => []
  | c :: rest => if endsWord inBlock c (rest.headD '\x00') then [] else c :: plainWord inBlock rest

/-- The blank lines after a line of a plain scalar; none at a document's start or end. -/
def plainBreaks (c : Cursor) : Nat → Option (List Char) × Cursor
  | 0 => (some [], c)
  | fuel + 1 =>
    if c.atSeparator then (none, c)
    else
      match (c.dropWhile (· = ' ')).lineBreak with
      | ([], c) => (some [], c)
      | (br, c) =>
        let (more, c) := plainBreaks c fuel
        (more.map (br ++ ·), c)

/-- The blanks after a word of a plain scalar, and whether they hold a line break: a single one
becomes a space. -/
def plainBlanks (c : Cursor) : List Char × Bool × Cursor :=
  let (blanks, c) := c.takeWhile (· = ' ')
  match c.lineBreak with
  | ([], c) => (blanks, false, c)
  | (br, c) =>
    match plainBreaks c (c.rest.length + 1) with
    | (none, c) => ([], true, c)
    | (some breaks, c) =>
      ((if br ≠ ['\n'] then br else if breaks.isEmpty then [' '] else []) ++ breaks, true, c)

/-- The words of a plain scalar after `blanks`, and whether a line break ended it. -/
def plainText (inBlock : Bool) (indent : Int) (blanks : List Char) (broken : Bool) (c : Cursor) :
    Nat → List Char × Bool × Cursor
  | 0 => ([], broken, c)
  | fuel + 1 =>
    if c.peek = '#' then ([], broken, c)
    else
      match plainWord inBlock c.rest with
      | [] => ([], broken, c)
      | word =>
        let (after, broke, c) := plainBlanks (c.skip word.length)
        if after.isEmpty || c.peek = '#' || (inBlock && (c.column : Int) < indent) then
          (blanks ++ word, broke, c)
        else
          let (more, broke, c) := plainText inBlock indent after broke c fuel
          (blanks ++ word ++ more, broke, c)

/-! ## 6. The next token -/

open Progress

/-- Whether a plain scalar begins here. -/
def startsPlain (inBlock : Bool) (c : Cursor) : Bool :=
  let ch := c.peek
  let special := "-?:,[]#&*!|>'\"%@".toList
  !(isBlankOrEnd ch || special.contains ch || ch = '\x7b' || ch = '\x7d' || ch.toNat = 0x60) ||
    (!isBlankOrEnd (c.peekAt 1) && (ch = '-' || (inBlock && (ch = '?' || ch = ':'))))

/-- Ends every block and forgets the candidates. -/
def closeBlocks (p : Progress) : Except Fault Progress := do
  let p ← (p.unwind (-1)).dropCandidate
  return { p with keyAllowed := false }

/-- A `---` or `...`. -/
def marker (p : Progress) (t : Token) : Except Fault Progress := do
  let p ← closeBlocks p
  return (p.advance 3).push t

/-- An opening bracket. -/
def openBracket (p : Progress) (t : Token) : Except Fault Progress := do
  let p ← p.saveCandidate
  return ({ p with depth := p.depth + 1, keyAllowed := true }.advance 1).push t

/-- A closing bracket; there is nothing to close outside brackets. -/
def closeBracket (p : Progress) (t : Token) : Except Fault Progress := do
  let p ← p.dropCandidate
  if p.inBlock then throw .malformed
  return ({ p with depth := p.depth - 1, keyAllowed := false }.advance 1).push t

/-- The `-` of a list entry. -/
def blockEntryAt (p : Progress) : Except Fault Progress := do
  if p.inBlock && !p.keyAllowed then throw .malformed
  let p := if p.inBlock then
      ((p.deepen? p.cursor.column).map (·.push .blockSequenceStart)).getD p
    else p
  let p ← { p with keyAllowed := true }.dropCandidate
  return (p.advance 1).push .blockEntry

/-- The `?` of a key. -/
def keyAt (p : Progress) : Except Fault Progress := do
  if p.inBlock && !p.keyAllowed then throw .malformed
  let p := if p.inBlock then
      ((p.deepen? p.cursor.column).map (·.push .blockMappingStart)).getD p
    else p
  let p ← { p with keyAllowed := p.inBlock }.dropCandidate
  return (p.advance 1).push .key

/-- The `:` before a value.  A candidate at this depth is now known to be a key. -/
def valueAt (p : Progress) : Except Fault Progress := do
  match p.candidates.lookup p.depth with
  | some c =>
    let opened := if p.inBlock then p.deepen? c.column else none
    let inserted := if opened.isSome then [Token.blockMappingStart, .key] else [.key]
    let p := opened.getD p
    let before := p.tokens.extract 0 c.token
    let after := p.tokens.extract c.token p.tokens.size
    return ({ p with
      tokens := before ++ inserted.toArray ++ after
      candidates := p.candidates.filter fun (d, _) => d ≠ p.depth
      keyAllowed := false }.advance 1).push .value
  | none =>
    if p.inBlock && !p.keyAllowed then throw .malformed
    let p := if p.inBlock then
        ((p.deepen? p.cursor.column).map (·.push .blockMappingStart)).getD p
      else p
    let p ← { p with keyAllowed := p.inBlock }.dropCandidate
    return (p.advance 1).push .value

/-- A token that may begin a key, and the place after it. -/
def inline (p : Progress) (token : Cursor → Except Fault (Token × Cursor)) :
    Except Fault Progress := do
  let p ← p.saveCandidate
  let (t, c) ← token p.cursor
  return { p with cursor := c, keyAllowed := false }.push t

/-- A block scalar; a key may begin after it. -/
def blockScalarAt (p : Progress) (folded : Bool) : Except Fault Progress := do
  let p ← { p with keyAllowed := true }.dropCandidate
  let (t, c) ← blockScalar folded p.indent p.cursor
  return { p with cursor := c }.push t

/-- A plain scalar; a key may begin after it if it ended at a line break. -/
def plainScalarAt (p : Progress) : Except Fault Progress := do
  let p ← p.saveCandidate
  let (text, broke, c) :=
    plainText p.inBlock (p.indent + 1) [] false p.cursor (p.cursor.rest.length + 1)
  return { p with cursor := c, keyAllowed := broke }.push (.scalar (String.ofList text) true)

/-- Adds the tokens up to and with the next one. -/
def step (p : Progress) : Except Fault Progress := do
  let p := p.toNextToken (p.cursor.rest.length + 1)
  let p ← p.dropStale
  let p := p.unwind p.cursor.column
  let c := p.cursor
  let ch := c.peek
  let spaced := isBlankOrEnd (c.peekAt 1)
  let flow := !p.inBlock
  if ch = '\x00' then
    let p ← closeBlocks p
    return p.push .streamEnd
  else if ch = '%' && c.column = 0 then
    let p ← closeBlocks p
    let (t, c) ← directiveToken c
    return { p with cursor := c }.push t
  else if c.column = 0 && c.atMarker '-' then marker p .documentStart
  else if c.column = 0 && c.atMarker '.' then marker p .documentEnd
  else if ch = '[' then openBracket p .flowSequenceStart
  else if ch = '\x7b' then openBracket p .flowMappingStart
  else if ch = ']' then closeBracket p .flowSequenceEnd
  else if ch = '\x7d' then closeBracket p .flowMappingEnd
  else if ch = ',' then
    let p ← { p with keyAllowed := true }.dropCandidate
    return (p.advance 1).push .flowEntry
  else if ch = '-' && spaced then blockEntryAt p
  else if ch = '?' && (flow || spaced) then keyAt p
  else if ch = ':' && (flow || spaced) then valueAt p
  else if ch = '*' then inline p fun c => (anchorName c).map fun (n, c) => (.aliasTo n, c)
  else if ch = '&' then inline p fun c => (anchorName c).map fun (n, c) => (.anchor n, c)
  else if ch = '!' then inline p tagToken
  else if ch = '|' && p.inBlock then blockScalarAt p false
  else if ch = '>' && p.inBlock then blockScalarAt p true
  else if ch = '\'' then inline p (quotedScalar false)
  else if ch = '"' then inline p (quotedScalar true)
  else if startsPlain p.inBlock c then plainScalarAt p
  else throw .malformed

/-- The tokens that are settled: before the first of them that may still turn out to begin a key. -/
def settled (p : Progress) : List Token :=
  let live := p.candidates.filter fun (_, c) => !Candidate.isStale p c
  let pending := live.map fun (_, c) => c.token
  p.tokens.toList.take (pending.foldl min p.tokens.size)

/-- The tokens up to the end of the text, or up to a fault; every step moves on. -/
def run (p : Progress) : Nat → List Token × Option Fault
  | 0 => (settled p, some .malformed)
  | fuel + 1 =>
    match step p with
    | .error f => (settled p, some f)
    | .ok p =>
      if p.tokens.back? = some .streamEnd then (p.tokens.toList, none) else run p fuel

/-- The tokens of a text.  Before a fault stand those that are settled without what follows. -/
def scan (text : String) : List Token × Option Fault :=
  let cs := text.toList
  if cs.all isReadable then
    let p := Progress.start cs
    run (if cs.head? = some '\uFEFF' then p.advance 1 else p) (cs.length + 1)
  else ([], some .malformed)

end Token

end Schemata.Yaml
