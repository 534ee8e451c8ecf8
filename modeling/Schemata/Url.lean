import Schemata.Text.Quoted
/-!
# The parts of URLs

`Url.split` takes a URL apart into scheme, network location, path, query and fragment.  A network
location with brackets is refused unless its host is an address in brackets; any location is
refused when a character in it stands for a delimiter under compatibility normalization.
-/

namespace Schemata.Url

/-! ## 1. Faults -/

/-- Why a URL cannot be split. -/
inductive Fault
  | strayBracket
  | futureAddress
  | ipv4InBrackets
  | noAddress (host : String)
  | disguisedDelimiter (location : String)
  deriving DecidableEq, Repr

/-- The text of a fault. -/
def Fault.message : Fault → String
  | strayBracket => "Invalid IPv6 URL"
  | futureAddress => "IPvFuture address is invalid"
  | ipv4InBrackets => "An IPv4 address cannot be in brackets"
  | noAddress host =>
    Text.Quoted.literal host ++ " does not appear to be an IPv4 or IPv6 address"
  | disguisedDelimiter location =>
    "netloc '" ++ location ++ "' contains invalid characters under NFKC normalization"

/-! ## 2. Addresses in brackets -/

/-- The parts of a text between separators. -/
def splitAt (sep : Char) (cs : List Char) : List (List Char) :=
  cs.foldr (fun c acc =>
    if c = sep then [] :: acc
    else match acc with
      | part :: rest => (c :: part) :: rest
      | [] => [[c]]) [[]]

/-- The text before the first of some characters, and from it on. -/
def breakAt (p : Char → Bool) (cs : List Char) : List Char × List Char :=
  (cs.takeWhile (!p ·), cs.dropWhile (!p ·))

/-- A part of an address of four parts: up to 255, without a leading zero. -/
def isOctet (cs : List Char) : Bool :=
  !cs.isEmpty && cs.all Char.isDigit && cs.length ≤ 3 &&
    (cs.length = 1 || cs.head? ≠ some '0') &&
    cs.foldl (fun n c => 10 * n + (c.toNat - '0'.toNat)) 0 ≤ 255

/-- An address of four decimal parts. -/
def isIpv4 (cs : List Char) : Bool :=
  let parts := splitAt '.' cs
  parts.length = 4 && parts.all isOctet

/-- A hexadecimal digit. -/
def isHex (c : Char) : Bool := c.isDigit || ('a' ≤ c && c ≤ 'f') || ('A' ≤ c && c ≤ 'F')

/-- A group of up to four hexadecimal digits. -/
def isGroup (cs : List Char) : Bool := !cs.isEmpty && cs.length ≤ 4 && cs.all isHex

/-- Groups with an address of four parts at the end counted as two groups. -/
def groups? (cs : List Char) : Option (List (List Char)) :=
  let parts := splitAt ':' cs
  let last := parts.getLastD []
  if parts.length < 3 then none
  else if last.contains '.' then
    if isIpv4 last then some (parts.dropLast ++ [['0'], ['0']]) else none
  else some parts

/-- Eight groups, or fewer around one gap. -/
def isIpv6Body (cs : List Char) : Bool :=
  match groups? cs with
  | none => false
  | some parts =>
    if 9 < parts.length then false
    else
      let inner := (parts.drop 1).dropLast
      match (inner.filter List.isEmpty).length with
      | 0 => parts.length = 8 && parts.all isGroup
      | 1 =>
        let gap := 1 + (inner.takeWhile (!List.isEmpty ·)).length
        let before := parts.take gap
        let after := parts.drop (gap + 1)
        let before := if before.head? = some [] then before.drop 1 else before
        let lead := parts.head? = some []
        let after' := if after.getLast? = some [] then after.dropLast else after
        let trail := after.getLast? = some []
        (!lead || before.isEmpty) && (!trail || after'.isEmpty) &&
          before.length + after'.length < 8 && before.all isGroup && after'.all isGroup
      | _ => false

/-- An address of groups, perhaps with a zone after `%`. -/
def isIpv6 (cs : List Char) : Bool :=
  let (body, zone) := breakAt (· = '%') cs
  (match zone with
    | [] => true
    | _ :: name => !name.isEmpty && !name.contains '%') &&
  !cs.contains '/' && isIpv6Body body

/-- An address of a later version: `v`, its number, a point and a text on one line. -/
def isFutureAddress (cs : List Char) : Bool :=
  match cs with
  | 'v' :: rest =>
    let version := rest.takeWhile isHex
    match rest.dropWhile isHex with
    | '.' :: body => !version.isEmpty && !body.isEmpty && !body.contains '\n'
    | _ => false
  | _ => false

/-- Checks the host between brackets. -/
def checkBracketed (host : List Char) : Except Fault Unit :=
  if host.head? = some 'v' then
    if isFutureAddress host then .ok () else .error .futureAddress
  else if isIpv4 host then .error .ipv4InBrackets
  else if isIpv6 host then .ok ()
  else .error (.noAddress (String.ofList host))

/-! ## 3. Network locations -/

/-- Characters that become text with one of `/ ? # @ :` under compatibility normalization. -/
def disguises : List Nat :=
  [0x2047, 0x2048, 0x2049, 0x2100, 0x2101, 0x2105, 0x2106, 0x2A74, 0xFE13, 0xFE16, 0xFE55, 0xFE56,
   0xFE5F, 0xFE6B, 0xFF03, 0xFF0F, 0xFF1A, 0xFF1F, 0xFF20]

/-- The host of a network location: the text after the last `@`, up to a
closing bracket if it opens one, else up to a colon. -/
def host (location : List Char) : Except Fault (List Char) :=
  let place := (location.reverse.takeWhile (· ≠ '@')).reverse
  match breakAt (· = '[') place with
  | ([], _ :: inside) =>
    match (breakAt (· = ']') inside).2.drop 1 with
    | [] | ':' :: _ => .ok (breakAt (· = ']') inside).1
    | _ => .error .strayBracket
  | (_, _ :: _) => .error .strayBracket
  | (_, []) => .ok (breakAt (· = ':') place).1

/-- Checks the brackets of a network location. -/
def checkBrackets (location : List Char) : Except Fault Unit :=
  match location.contains '[', location.contains ']' with
  | true, true => (host location).bind checkBracketed
  | false, false => .ok ()
  | _, _ => .error .strayBracket

/-- Checks the characters of a network location. -/
def checkCharacters (location : List Char) : Except Fault Unit :=
  if location.any fun c => disguises.contains c.toNat then
    .error (.disguisedDelimiter (String.ofList location))
  else .ok ()

/-! ## 4. Splitting -/

/-- Control characters and the space at the front are no part of a URL, nor are tabs and line
breaks anywhere in it. -/
def cleaned (s : String) : List Char :=
  (s.toList.dropWhile fun c => c.toNat ≤ 0x20).filter fun c => c ≠ '\t' && c ≠ '\r' && c ≠ '\n'

/-- Characters of a scheme. -/
def isSchemeChar (c : Char) : Bool := c.isAlphanum || c = '+' || c = '-' || c = '.'

/-- The scheme of a URL in lower case, if it has one, and the rest. -/
def takeScheme (cs : List Char) : List Char × List Char :=
  match breakAt (· = ':') cs with
  | (c :: scheme, ':' :: rest) =>
    if c.isAlpha && scheme.all isSchemeChar then ((c :: scheme).map Char.toLower, rest)
    else ([], cs)
  | _ => ([], cs)

/-- The network location after `//`, if there is one, and the rest. -/
def takeLocation (cs : List Char) : List Char × List Char :=
  match cs with
  | '/' :: '/' :: rest => breakAt (fun c => c = '/' || c = '?' || c = '#') rest
  | _ => ([], cs)

/-- The parts of a URL; one that is missing is empty. -/
structure Parts where
  scheme : String
  location : String
  path : String
  query : String
  fragment : String
  deriving DecidableEq, Repr

/-- The parts of a URL. -/
def split (s : String) : Except Fault Parts := do
  let (scheme, rest) := takeScheme (cleaned s)
  let (location, rest) := takeLocation rest
  checkBrackets location
  checkCharacters location
  let (rest, fragment) := breakAt (· = '#') rest
  let (path, query) := breakAt (· = '?') rest
  return ⟨String.ofList scheme, String.ofList location, String.ofList path,
    String.ofList (query.drop 1), String.ofList (fragment.drop 1)⟩

/-- The path of a URL. -/
def path (s : String) : Except Fault String := (split s).map Parts.path

end Schemata.Url
