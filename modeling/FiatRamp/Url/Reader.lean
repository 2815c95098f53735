import FiatRamp.Url.Basic
import FiatRamp.Url.Domain

/-!
# FiatRamp.Url.Reader

Reading absolute URLs as browsers do.

Blanks around a URL and line breaks inside it do not count.  The schemes of the
web take a backslash for a slash and any number of slashes before the host.
Every part is brought to its written form: hosts to lower case, ASCII and plain
addresses, paths without dot segments, the rest percent-encoded.
-/

namespace FiatRamp.Url

/-! ## Cutting -/

/-- A control character or a blank, dropped around a URL. -/
def isOuterBlank (c : Char) : Bool := c.toNat ≤ 0x20

/-- A tab or line break, dropped anywhere. -/
def isIgnored (c : Char) : Bool := c == '\t' || c == '\n' || c == '\r'

/-- The characters of a URL that count. -/
def clean (cs : List Char) : List Char :=
  let trimmed := ((cs.dropWhile isOuterBlank).reverse.dropWhile isOuterBlank).reverse
  trimmed.filter (!isIgnored ·)

/-- A character of a scheme. -/
def isSchemeChar (c : Char) : Bool := c.isAlphanum || c == '+' || c == '-' || c == '.'

/-- The scheme in front of a colon, in lower case, and what follows it. -/
def splitScheme? (cs : List Char) : Option (List Char × List Char) :=
  match cs with
  | first :: _ =>
    if first.isAlpha then
      match cs.dropWhile isSchemeChar with
      | ':' :: rest => some ((cs.takeWhile isSchemeChar).map Char.toLower, rest)
      | _ => none
    else none
  | [] => none

/-- A slash, or what means one. -/
def isSlash (isSpecial : Bool) (c : Char) : Bool := c == '/' || (isSpecial && c == '\\')

/-- The end of the part with the host. -/
def endsAuthority (isSpecial : Bool) (c : Char) : Bool := isSlash isSpecial c || c == '?' || c == '#'

/-- Splits a text at the last occurrence of a character, which has to occur. -/
def splitAtLast? (mark : Char) (cs : List Char) : Option (List Char × List Char) :=
  if cs.contains mark then
    let reversed := cs.reverse
    some ((reversed.dropWhile (· ≠ mark)).tail.reverse, (reversed.takeWhile (· ≠ mark)).reverse)
  else none

/-- Splits a text in front of the first colon outside brackets. -/
def splitPort (inBrackets : Bool) : List Char → List Char × List Char
  | [] => ([], [])
  | c :: rest =>
    if c = ':' ∧ !inBrackets then ([], c :: rest)
    else
      let inBrackets := if c = '[' then true else if c = ']' then false else inBrackets
      let (host, port) := splitPort inBrackets rest
      (c :: host, port)

/-! ## Hosts -/

/-- An address between brackets. -/
def readBracketed (cs : List Char) : Except UrlError Host :=
  match cs.getLast? with
  | some ']' =>
    match Address.ipv6? cs.dropLast with
    | some pieces => .ok (.ipv6 pieces)
    | none => .error .invalidIpv6
  | _ => .error .invalidIpv6

/-- The host of a scheme of the web or its like. -/
def readHost (cs : List Char) : Except UrlError Host :=
  match cs with
  | '[' :: rest => readBracketed rest
  | _ =>
    match (Percent.decode? cs).bind Domain.toAscii? with
    | none => .error .invalidDomainName
    | some [] => .error .emptyHost
    | some name =>
      if Address.endsInNumber name then
        match Address.ipv4? name with
        | some address => .ok (.ipv4 address)
        | none => .error .invalidIpv4
      else .ok (.name name)

/-- A character that no host of another scheme holds. -/
def isForbiddenInHost (c : Char) : Bool :=
  ['\x00', '\t', '\n', '\r', ' ', '#', '/', ':', '<', '>', '?', '@', '[', '\\', ']', '^',
    '|'].contains c

/-- The host of another scheme. -/
def readOpaqueHost (cs : List Char) : Except UrlError Host :=
  match cs with
  | '[' :: rest => readBracketed rest
  | _ =>
    if cs.any isForbiddenInHost then .error .invalidDomainCharacter
    else .ok (.name (Percent.encode Percent.controls cs))

/-! ## Authorities -/

/-- User name and password. -/
def readUserinfo (cs : List Char) : List Char × List Char :=
  (Percent.encode Percent.userinfoSet (cs.takeWhile (· ≠ ':')),
    Percent.encode Percent.userinfoSet (cs.dropWhile (· ≠ ':')).tail)

/-- The port behind a colon, unless it is that of the scheme. -/
def readPort (scheme digits : List Char) : Except UrlError (Option Nat) :=
  if digits.isEmpty then .ok none
  else if digits.all Char.isDigit then
    let port := Nat.ofDigitChars 10 digits 0
    if 65535 < port then .error .invalidPort
    else .ok (if Scheme.defaultPort? scheme = some port then none else some port)
  else .error .invalidPort

/-- What stands between the slashes and the path. -/
structure Authority where
  username : List Char
  password : List Char
  host : Host
  port : Option Nat

/-- Reads an authority; `isLast` tells whether the URL ends with it. -/
def readAuthority (scheme cs : List Char) (isLast : Bool) : Except UrlError Authority := do
  let (userinfo, location) := (splitAtLast? '@' cs).getD ([], cs)
  if cs.contains '@' && userinfo.isEmpty && location.isEmpty && !isLast then throw .emptyHost
  let (username, password) := readUserinfo userinfo
  let (hostText, portText) := splitPort false location
  if Scheme.hasHost scheme && hostText.isEmpty then throw .emptyHost
  let host ← if Scheme.hasHost scheme then readHost hostText else readOpaqueHost hostText
  if hostText.isEmpty && !portText.isEmpty then throw .emptyHost
  let port ← readPort scheme (portText.tail.takeWhile (· ≠ '\\'))
  if hostText.isEmpty && !(username.isEmpty && password.isEmpty) then throw .emptyHost
  return { username, password, host, port }

/-! ## Paths -/

/-- A segment that stands for the one it is in. -/
def isSingleDot (segment : List Char) : Bool :=
  segment == ['.'] || segment.map Char.toLower == ['%', '2', 'e']

/-- A segment that stands for the one above. -/
def isDoubleDot (segment : List Char) : Bool :=
  [['.', '.'], ['.', '%', '2', 'e'], ['%', '2', 'e', '.'],
    ['%', '2', 'e', '%', '2', 'e']].contains (segment.map Char.toLower)

/-- Adds segments to a path, dot segments resolved.  A dot segment at the end
leaves an empty one. -/
def resolve (path : List (List Char)) : List (List Char) → List (List Char)
  | [] => path
  | segment :: rest =>
    let isLast := rest.isEmpty
    let path :=
      if isDoubleDot segment then path.dropLast ++ (if isLast then [[]] else [])
      else if isSingleDot segment then path ++ (if isLast then [[]] else [])
      else path ++ [segment]
    resolve path rest

/-- Splits a text at every slash. -/
def splitAtSlashes (isSpecial : Bool) : List Char → List (List Char)
  | [] => [[]]
  | c :: rest =>
    if isSlash isSpecial c then [] :: splitAtSlashes isSpecial rest
    else match splitAtSlashes isSpecial rest with
      | [] => [[c]]
      | first :: others => (c :: first) :: others

/-- Reads a path behind its first slash. -/
def readSegments (isSpecial : Bool) (cs : List Char) : List (List Char) :=
  resolve [] ((splitAtSlashes isSpecial cs).map (Percent.encode Percent.pathSet))

/-- Reads a path behind an authority.  Only other schemes know an empty path. -/
def readPath (isSpecial : Bool) (cs : List Char) : UrlPath :=
  match cs with
  | [] => .segments (if isSpecial then [[]] else [])
  | c :: rest =>
    if isSlash isSpecial c then .segments (readSegments isSpecial rest)
    else .segments (readSegments isSpecial (c :: rest))

/-! ## Queries and fragments -/

/-- Path, query and fragment of a URL. -/
structure Tail where
  path : List Char
  query : Option (List Char)
  fragment : Option (List Char)

/-- What follows a mark, which is dropped. -/
def behind? (cs : List Char) : Option (List Char) := cs.tail?

/-- Cuts what follows the authority, and encodes all but the path. -/
def readTail (isSpecial : Bool) (cs : List Char) : Tail :=
  let beforeFragment := cs.takeWhile (· ≠ '#')
  let fragment := behind? (cs.dropWhile (· ≠ '#'))
  let query := behind? (beforeFragment.dropWhile (· ≠ '?'))
  { path := beforeFragment.takeWhile (· ≠ '?')
    query := query.map (Percent.encode
      (if isSpecial then Percent.specialQuerySet else Percent.querySet))
    fragment := fragment.map (Percent.encode Percent.fragmentSet) }

/-! ## URLs -/

/-- A URL with an authority, behind its slashes. -/
def readHierarchical (scheme cs : List Char) : Except UrlError Url := do
  let isSpecial := Scheme.isSpecial scheme
  let rest := cs.dropWhile (!endsAuthority isSpecial ·)
  let authority ← readAuthority scheme (cs.takeWhile (!endsAuthority isSpecial ·)) rest.isEmpty
  let tail := readTail isSpecial rest
  return {
    scheme
    username := authority.username
    password := authority.password
    host := some authority.host
    port := authority.port
    path := readPath isSpecial tail.path
    query := tail.query
    fragment := tail.fragment }

/-- A URL without an authority. -/
def withoutAuthority (scheme : List Char) (host : Option Host) (path : UrlPath) (tail : Tail) :
    Url :=
  { scheme, username := [], password := [], host, port := none, path, query := tail.query,
    fragment := tail.fragment }

/-- A drive, which is no host. -/
def isDrive : List Char → Bool
  | [letter, mark] => letter.isAlpha && (mark == ':' || mark == '|')
  | _ => false

/-- The URL of a file, behind the colon. -/
def readFile (cs : List Char) : Except UrlError Url :=
  let plain (rest : List Char) : Url :=
    let tail := readTail true rest
    withoutAuthority Scheme.file (some (.name [])) (readPath true tail.path) tail
  match cs with
  | a :: b :: rest =>
    if isSlash true a && isSlash true b then
      let hostText := rest.takeWhile (!endsAuthority true ·)
      if hostText.isEmpty || isDrive hostText then .ok (plain rest)
      else do
        let host ← readHost hostText
        let url := plain (rest.dropWhile (!endsAuthority true ·))
        if host = .name ['l', 'o', 'c', 'a', 'l', 'h', 'o', 's', 't'] then return url
        return { url with host := some host }
    else .ok (plain cs)
  | _ => .ok (plain cs)

/-- A URL of any other scheme, behind the colon. -/
def readOther (scheme cs : List Char) : Except UrlError Url :=
  match cs with
  | '/' :: '/' :: rest => readHierarchical scheme rest
  | '/' :: _ =>
    let tail := readTail false cs
    .ok (withoutAuthority scheme none (readPath false tail.path) tail)
  | _ =>
    let tail := readTail false cs
    .ok (withoutAuthority scheme none (.opaquePath (Percent.encode Percent.controls tail.path))
      tail)

/-- The URL that a text stands for by itself. -/
def ofChars (cs : List Char) : Except UrlError Url :=
  match splitScheme? (clean cs) with
  | none => .error .relativeWithoutBase
  | some (scheme, rest) =>
    if Scheme.hasHost scheme then readHierarchical scheme (rest.dropWhile (isSlash true))
    else if scheme = Scheme.file then readFile rest
    else readOther scheme rest

/-- The URL that a text stands for by itself. -/
def ofText (s : String) : Except UrlError Url := ofChars s.toList

end FiatRamp.Url
