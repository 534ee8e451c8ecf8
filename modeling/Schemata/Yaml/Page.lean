import Schemata.Yaml.Style
/-!
# Writing of lines

A `Page` is the text written so far with what the next piece depends on: the column, whether a
blank was written last, and whether the line holds nothing but indentation and indicators.

* `Page.scalar` writes a scalar in a style.  A line grows to its width, and then breaks at the
  next single space.
-/

namespace Schemata.Yaml

/-- What has been written. -/
structure Page where
  text : String := ""
  column : Nat := 0
  afterBlank : Bool := true
  onlyIndicators : Bool := true
  deriving Repr

namespace Page

/-- The width beyond which lines break. -/
def width : Nat := 80

/-! ## 1. Pieces -/

/-- Writes characters. -/
def put (p : Page) (cs : List Char) : Page :=
  { p with text := p.text ++ String.ofList cs, column := p.column + cs.length }

/-- Ends the line by a character. -/
def endLine (p : Page) (c : Char) : Page := ⟨p.text.push c, 0, true, true⟩

/-- Moves to an indentation, on a new line unless the line is still empty up to there. -/
def indent (p : Page) (n : Nat) : Page :=
  let p :=
    if !p.onlyIndicators || n < p.column || (p.column = n && !p.afterBlank) then p.endLine '\n'
    else p
  if p.column < n then { p.put (List.replicate (n - p.column) ' ') with afterBlank := true } else p

/-- Says that something stands on the line. -/
def touched (p : Page) : Page := { p with afterBlank := false, onlyIndicators := false }

/-- Writes an indicator, after a blank if it needs one; one that only introduces a node leaves the
line open for the node's own indentation. -/
def indicator (p : Page) (s : String) (spaced introduces : Bool) : Page :=
  let p := if p.afterBlank || !spaced then p else p.put [' ']
  { p.put s.toList with
    afterBlank := false, onlyIndicators := p.onlyIndicators && introduces }

/-! ## 2. Runs -/

/-- A run of characters of a text. -/
inductive Run
  | spaces (n : Nat)
  | breaks (cs : List Char)
  | quote
  | word (cs : List Char)
  deriving Repr

/-- Puts a character in front of runs. -/
def Run.cons (c : Char) : List Run → List Run
  | runs =>
    if c = ' ' then
      match runs with
      | .spaces n :: rest => .spaces (n + 1) :: rest
      | _ => .spaces 1 :: runs
    else if endsLine c then
      match runs with
      | .breaks cs :: rest => .breaks (c :: cs) :: rest
      | _ => .breaks [c] :: runs
    else if c = '\'' then .quote :: runs
    else
      match runs with
      | .word cs :: rest => .word (c :: cs) :: rest
      | _ => .word [c] :: runs

/-- The runs of a text. -/
def Run.ofChars (cs : List Char) : List Run := cs.foldr Run.cons []

/-- Writes line ends: one more where the first is a line feed, as a lone one would read as a
space. -/
def putBreaks (p : Page) (cs : List Char) : Page :=
  cs.foldl endLine (if cs.head? = some '\n' then p.endLine '\n' else p)

/-! ## 3. Styles -/

/-- Writes the rest of a text between single quotes; `first` says that it is the whole. -/
def singleRuns (split : Bool) (n : Nat) (p : Page) (first : Bool) : List Run → Page
  | [] => p
  | .spaces k :: rest =>
    let p :=
      if split && k = 1 && !first && !rest.isEmpty && width < p.column then p.indent n
      else p.put (List.replicate k ' ')
    singleRuns split n p false rest
  | .breaks cs :: rest => singleRuns split n ((p.putBreaks cs).indent n) false rest
  | .quote :: rest => singleRuns split n (p.put ['\'', '\'']) false rest
  | .word cs :: rest => singleRuns split n (p.put cs) false rest

/-- Writes a text between single quotes. -/
def single (p : Page) (split : Bool) (n : Nat) (s : String) : Page :=
  (singleRuns split n (p.indicator "'" true false) true (Run.ofChars s.toList)).indicator "'"
    false false

/-- Writes the rest of a plain text. -/
def plainRuns (split : Bool) (n : Nat) (p : Page) : List Run → Page
  | [] => p
  | .spaces k :: rest =>
    let p :=
      if split && k = 1 && width < p.column then (p.indent n).touched
      else p.put (List.replicate k ' ')
    plainRuns split n p rest
  | .breaks cs :: rest => plainRuns split n ((p.putBreaks cs).indent n).touched rest
  | .quote :: rest => plainRuns split n (p.put ['\'']) rest
  | .word cs :: rest => plainRuns split n (p.put cs) rest

/-- Writes a plain text. -/
def plain (p : Page) (split : Bool) (n : Nat) (s : String) : Page :=
  let p := if p.afterBlank then p else p.put [' ']
  plainRuns split n p.touched (Run.ofChars s.toList)

/-- The letters of short escapes. -/
def escapeLetters : List (Char × Char) :=
  [('\x00', '0'), ('\x07', 'a'), ('\x08', 'b'), ('\t', 't'), ('\n', 'n'), ('\x0b', 'v'),
   ('\x0c', 'f'), ('\r', 'r'), ('\x1b', 'e'), ('"', '"'), ('\\', '\\'), ('\u0085', 'N'),
   ('\u00a0', '_'), ('\u2028', 'L'), ('\u2029', 'P')]

/-- A number in upper-case hexadecimal digits. -/
def upperHex (count n : Nat) : List Char := (Text.Quoted.hex count n).map Char.toUpper

/-- Characters that are escaped between double quotes. -/
def isEscaped (c : Char) : Bool :=
  let n := c.toNat
  c = '"' || c = '\\' || c = '\u0085' || c = '\u2028' || c = '\u2029' || n = 0xfeff ||
    !((0x20 ≤ n && n ≤ 0x7e) || (0xa0 ≤ n && n ≤ 0xd7ff) || (0xe000 ≤ n && n ≤ 0xfffd))

/-- The escape of a character. -/
def escape (c : Char) : List Char :=
  match escapeLetters.lookup c with
  | some letter => ['\\', letter]
  | none =>
    if c.toNat ≤ 0xff then '\\' :: 'x' :: upperHex 2 c.toNat
    else if c.toNat ≤ 0xffff then '\\' :: 'u' :: upperHex 4 c.toNat
    else '\\' :: 'U' :: upperHex 8 c.toNat

/-- Breaks a line between double quotes; a space at the start of the next line is escaped. -/
def foldLine (p : Page) (n : Nat) (pending : List Char) (next : Char) : Page :=
  let p := ((p.put (pending.reverse ++ ['\\'])).indent n).touched
  if next = ' ' then p.put ['\\'] else p

/-- Writes the rest of a text between double quotes.  `pending` are the characters that are still
to be written, last first.  A line breaks at a space or beside an escape, never before the first
or at the last character. -/
def doubleChars (split : Bool) (n : Nat) (p : Page) (pending : List Char) (first : Bool) :
    List Char → Page
  | [] => p.put pending.reverse
  | c :: rest =>
    let escaped := isEscaped c
    let p := if escaped then (p.put pending.reverse).put (escape c) else p
    let pending := if escaped then [] else pending
    let reached := if escaped then p.column else p.column + pending.length + 1
    let breaks := split && !first && !rest.isEmpty && (c = ' ' || escaped || pending.isEmpty) &&
      width + 1 < reached
    let p := if breaks then p.foldLine n pending (if escaped then rest.headD c else c) else p
    let pending := if breaks then [] else pending
    doubleChars split n p (if escaped then pending else c :: pending) false rest

/-- Writes a text between double quotes. -/
def double (p : Page) (split : Bool) (n : Nat) (s : String) : Page :=
  (doubleChars split n (p.indicator "\"" true false) [] true s.toList).indicator "\"" false false

/-- Writes a scalar; `split` says that it may take several lines, the further ones indented by
`n`. -/
def scalar (p : Page) (split : Bool) (n : Nat) (s : Scalar) : Page :=
  let text := writtenText s
  match Style.ofScalar s with
  | .plain => p.plain split n text
  | .single => p.single split n text
  | .double => p.double split n text

end Page

end Schemata.Yaml
