import FiatRamp.Text.Utf8

/-!
# FiatRamp.Url.Percent

Percent-encoding: a byte as `%` and two hexadecimal digits.

Each part of a URL has a set of ASCII characters that are encoded in it;
characters outside ASCII always are.
-/

namespace FiatRamp.Percent

/-! ## Sets -/

/-- Control characters, encoded everywhere. -/
def controls (c : Char) : Bool := c.toNat < 0x20 || c.toNat == 0x7F

/-- Encoded in fragments. -/
def fragmentSet (c : Char) : Bool := controls c || [' ', '"', '<', '>', '\x60'].contains c

/-- Encoded in paths. -/
def pathSet (c : Char) : Bool := fragmentSet c || ['#', '?', '\x7b', '\x7d'].contains c

/-- Encoded in user names and passwords. -/
def userinfoSet (c : Char) : Bool :=
  pathSet c || ['/', ':', ';', '=', '@', '[', '\\', ']', '^', '|'].contains c

/-- Encoded in queries. -/
def querySet (c : Char) : Bool := controls c || [' ', '"', '#', '<', '>'].contains c

/-- Encoded in queries of the web and its like. -/
def specialQuerySet (c : Char) : Bool := querySet c || c == '\''

/-! ## Encoding -/

/-- A hexadecimal digit, in capitals. -/
def hexDigit (n : Nat) : Char := if n < 10 then Char.ofNat (48 + n) else Char.ofNat (55 + n)

/-- A byte in encoded form. -/
def encodeByte (b : Nat) : List Char := ['%', hexDigit (b / 16), hexDigit (b % 16)]

/-- A character, encoded if it is in the set or outside ASCII. -/
def encodeChar (set : Char → Bool) (c : Char) : List Char :=
  if c.toNat < 0x80 && !set c then [c] else (Utf8.encodeChar c).flatMap encodeByte

/-- A text, encoded where the set asks for it. -/
def encode (set : Char → Bool) (cs : List Char) : List Char := cs.flatMap (encodeChar set)

/-! ## Decoding -/

/-- The value of a hexadecimal digit. -/
def hexValue? (c : Char) : Option Nat :=
  if '0' ≤ c ∧ c ≤ '9' then some (c.toNat - 48)
  else if 'A' ≤ c ∧ c ≤ 'F' then some (c.toNat - 55)
  else if 'a' ≤ c ∧ c ≤ 'f' then some (c.toNat - 87)
  else none

/-- The byte that two characters behind a percent sign stand for. -/
def byte? (a b : Char) : Option Nat := do return (← hexValue? a) * 16 + (← hexValue? b)

/-- Decodes a text.  `bytes` are those read last, in reverse, which must be
well formed by themselves: no character is put together from encoded bytes and
a character outside ASCII. -/
def decodeFrom? (bytes : List Nat) : List Char → Option (List Char)
  | [] => Utf8.decode? bytes.reverse
  | '%' :: a :: b :: rest =>
    match byte? a b with
    | some byte => decodeFrom? (byte :: bytes) rest
    | none => do
      let before ← Utf8.decode? bytes.reverse
      return before ++ '%' :: (← decodeFrom? [] (a :: b :: rest))
  | c :: rest => do
    let before ← Utf8.decode? bytes.reverse
    return before ++ c :: (← decodeFrom? [] rest)

/-- Decodes a text, if its encoded bytes are well formed. -/
def decode? (cs : List Char) : Option (List Char) := decodeFrom? [] cs

end FiatRamp.Percent
