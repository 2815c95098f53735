/-!
# FiatRamp.Url.Basic

Absolute URLs in their parts, and how they are written.

All parts are held in their written form, percent-encoded where they have to
be, so writing a URL (`Url.toChars`) only joins them.
-/

namespace FiatRamp

/-- Where a URL leads. -/
inductive Host where
  /-- A domain name, or whatever names a host outside the web. -/
  | name (text : List Char)
  /-- An IPv4 address, as a number of 32 bits. -/
  | ipv4 (address : Nat)
  /-- An IPv6 address, as eight numbers of 16 bits. -/
  | ipv6 (pieces : List Nat)
  deriving DecidableEq

/-- The path of a URL. -/
inductive UrlPath where
  /-- Segments, each behind a slash. -/
  | segments (list : List (List Char))
  /-- A path without a slash at its start, as in `mailto:`. -/
  | opaquePath (text : List Char)
  deriving DecidableEq

/-- An absolute URL. -/
structure Url where
  scheme : List Char
  username : List Char
  /-- The password; an empty one is none. -/
  password : List Char
  host : Option Host
  /-- The port, unless it is that of the scheme. -/
  port : Option Nat
  path : UrlPath
  query : Option (List Char)
  fragment : Option (List Char)
  deriving DecidableEq

/-- Why a text is no absolute URL. -/
inductive UrlError where
  | relativeWithoutBase
  | emptyHost
  | invalidDomainName
  | invalidDomainCharacter
  | invalidPort
  | invalidIpv4
  | invalidIpv6
  deriving DecidableEq

/-- What the user is told. -/
def UrlError.message : UrlError → String
  | .relativeWithoutBase => "relative URL without a base"
  | .emptyHost => "empty host"
  | .invalidDomainName => "invalid international domain name"
  | .invalidDomainCharacter => "invalid domain character"
  | .invalidPort => "invalid port number"
  | .invalidIpv4 => "invalid IPv4 address"
  | .invalidIpv6 => "invalid IPv6 address"

/-! ## Schemes -/

namespace Scheme

def http : List Char := ['h', 't', 't', 'p']
def https : List Char := ['h', 't', 't', 'p', 's']
def ws : List Char := ['w', 's']
def wss : List Char := ['w', 's', 's']
def ftp : List Char := ['f', 't', 'p']
def file : List Char := ['f', 'i', 'l', 'e']

/-- The schemes of the web and its like, with the ports they imply. -/
def defaultPorts : List (List Char × Nat) :=
  [(http, 80), (https, 443), (ws, 80), (wss, 443), (ftp, 21)]

/-- The port a scheme implies. -/
def defaultPort? (scheme : List Char) : Option Nat := defaultPorts.lookup scheme

/-- The scheme always has a host. -/
def hasHost (scheme : List Char) : Bool := (defaultPort? scheme).isSome

/-- In the scheme a backslash means a slash. -/
def isSpecial (scheme : List Char) : Bool := hasHost scheme || scheme == file

end Scheme

/-! ## Writing -/

/-- A path as it is written. -/
def UrlPath.toChars : UrlPath → List Char
  | .segments list => list.flatMap ('/' :: ·)
  | .opaquePath text => text

/-- Where the longest run of zeros starts and how long it is; of two equally
long ones the first.  A single zero is no run. -/
def longestZeros (pieces : List Nat) : Option (Nat × Nat) :=
  let runs := (List.range pieces.length).map fun i =>
    (i, ((pieces.drop i).takeWhile (· == 0)).length)
  runs.foldl (fun best run =>
    if 2 ≤ run.2 then
      match best with
      | some b => if b.2 < run.2 then some run else best
      | none => some run
    else best) none

/-- Pieces of an IPv6 address, with colons in between. -/
def piecesToChars (pieces : List Nat) : List Char :=
  [':'].intercalate (pieces.map (Nat.toDigits 16))

namespace Host

/-- An IPv4 address as four numbers. -/
def ipv4ToChars (n : Nat) : List Char :=
  ['.'].intercalate ([n / Nat.pow 256 3, n / Nat.pow 256 2 % 256, n / 256 % 256, n % 256].map (Nat.toDigits 10))

/-- An IPv6 address; its longest run of zeros is left out. -/
def ipv6ToChars (pieces : List Nat) : List Char :=
  match longestZeros pieces with
  | some (start, length) =>
    piecesToChars (pieces.take start) ++ [':', ':'] ++ piecesToChars (pieces.drop (start + length))
  | none => piecesToChars pieces

/-- A host as it is written. -/
def toChars : Host → List Char
  | .name text => text
  | .ipv4 address => ipv4ToChars address
  | .ipv6 pieces => '[' :: ipv6ToChars pieces ++ [']']

/-- The host names something. -/
def isNonempty : Host → Bool
  | .name text => !text.isEmpty
  | _ => true

end Host

namespace Url

/-- User name and password in front of the host. -/
def userinfoToChars (username password : List Char) : List Char :=
  if username.isEmpty && password.isEmpty then []
  else username ++ (if password.isEmpty then [] else ':' :: password) ++ ['@']

/-- A port behind the host. -/
def portToChars : Option Nat → List Char
  | some port => ':' :: Nat.toDigits 10 port
  | none => []

/-- What stands between the scheme and the path. -/
def authorityToChars (url : Url) : List Char :=
  match url.host with
  | some host =>
    ['/', '/'] ++ userinfoToChars url.username url.password ++ host.toChars ++ portToChars url.port
  | none => []

/-- A part with a mark in front of it, if it is there. -/
def marked (mark : Char) : Option (List Char) → List Char
  | some text => mark :: text
  | none => []

/-- A URL as it is written. -/
def toChars (url : Url) : List Char :=
  url.scheme ++ ':' :: url.authorityToChars ++ url.path.toChars ++ marked '?' url.query ++
    marked '#' url.fragment

/-- A URL as text. -/
def toText (url : Url) : String := String.ofList url.toChars

/-- The URL is one of the web. -/
def isHttp (url : Url) : Bool := url.scheme == Scheme.http || url.scheme == Scheme.https

/-- The path without an empty last segment, unless that is all of it. -/
def dropEmptyEnd (segments : List (List Char)) : List (List Char) :=
  if 2 ≤ segments.length && segments.getLast? == some [] then segments.dropLast else segments

/-- The path with another segment at its end, which takes the place of an empty
path. -/
def pushSegment (segments : List (List Char)) (segment : List Char) : List (List Char) :=
  if segments = [[]] then [segment] else segments ++ [segment]

end Url

end FiatRamp
