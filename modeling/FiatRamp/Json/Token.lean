import FiatRamp.Json.Binary64

/-!
# FiatRamp.Json.Token

The tokens of a JSON text.

Brackets, separators and scalars; blanks between them are the four of the
standard.  A text that cannot be cut into tokens has none (`none`).
-/

namespace FiatRamp.Json

/-- A token of a JSON text. -/
inductive Token where
  | listOpen
  | listClose
  | recordOpen
  | recordClose
  | comma
  | colon
  /-- A text, a number or one of the three words. -/
  | scalar (value : Json)
  deriving Inhabited

/-! ## Texts -/

/-- The value of a hexadecimal digit. -/
def hexDigit? (c : Char) : Option Nat :=
  if c.isDigit then some (c.toNat - '0'.toNat)
  else if 'a' ≤ c ∧ c ≤ 'f' then some (c.toNat - 'a'.toNat + 10)
  else if 'A' ≤ c ∧ c ≤ 'F' then some (c.toNat - 'A'.toNat + 10)
  else none

/-- The value of four hexadecimal digits. -/
def hexQuad? (a b c d : Char) : Option Nat := do
  return (((← hexDigit? a) * 16 + (← hexDigit? b)) * 16 + (← hexDigit? c)) * 16 + (← hexDigit? d)

/-- The character that a letter after a backslash stands for. -/
def shortEscape? : Char → Option Char
  | '"' => some '"'
  | '\\' => some '\\'
  | '/' => some '/'
  | 'b' => some '\x08'
  | 'f' => some '\x0c'
  | 'n' => some '\n'
  | 'r' => some '\r'
  | 't' => some '\t'
  | _ => none

/-- The first half of a pair of UTF-16 units. -/
def isHighUnit (n : Nat) : Bool := 0xD800 ≤ n && n < 0xDC00

/-- The second half of a pair of UTF-16 units. -/
def isLowUnit (n : Nat) : Bool := 0xDC00 ≤ n && n < 0xE000

/-- Reads a text behind its opening quote; `acc` is what was read, last
character first.  Gives the text and what follows its closing quote. -/
def readText (acc : List Char) : List Char → Option (String × List Char)
  | [] => none
  | '"' :: rest => some (String.ofList acc.reverse, rest)
  | '\\' :: 'u' :: a :: b :: c :: d :: '\\' :: 'u' :: e :: f :: g :: h :: rest =>
    match hexQuad? a b c d with
    | none => none
    | some first =>
      if isHighUnit first then
        match hexQuad? e f g h with
        | none => none
        | some second =>
          if isLowUnit second then
            readText (Char.ofNat (0x10000 + (first - 0xD800) * 0x400 + (second - 0xDC00)) :: acc)
              rest
          else none
      else if isLowUnit first then none
      else readText (Char.ofNat first :: acc) ('\\' :: 'u' :: e :: f :: g :: h :: rest)
  | '\\' :: 'u' :: a :: b :: c :: d :: rest =>
    match hexQuad? a b c d with
    | none => none
    | some unit =>
      if isHighUnit unit || isLowUnit unit then none else readText (Char.ofNat unit :: acc) rest
  | '\\' :: c :: rest =>
    match shortEscape? c with
    | some escaped => readText (escaped :: acc) rest
    | none => none
  | c :: rest => if c.toNat < 0x20 || c == '\\' then none else readText (c :: acc) rest

/-! ## Numbers -/

/-- Whole numbers up to here are kept exactly. -/
def wordBound : Nat := Nat.pow 2 64

/-- Appends decimal digits to a significand while it stays below 64 bits; the
other digits are only counted. -/
def appendDigits (significand : Nat) : List Char → Nat × Nat
  | [] => (significand, 0)
  | c :: rest =>
    let next := significand * 10 + (c.toNat - '0'.toNat)
    if next < wordBound then appendDigits next rest else (significand, rest.length + 1)

/-- A magnitude that is no whole number of 64 bits. -/
def realOf? (negative : Bool) (significand : Nat) (exponent : Int) : Option Json :=
  (Binary64.ofScientific? significand exponent).map fun x => .real (x.toReal negative)

/-- The exponent behind its letter, with what follows. -/
def readExponent (cs : List Char) : Option (Int × List Char) :=
  let (negative, rest) := match cs with
    | '-' :: rest => (true, rest)
    | '+' :: rest => (false, rest)
    | _ => (false, cs)
  let digits := rest.takeWhile Char.isDigit
  if digits.isEmpty then none
  else
    let n : Int := Nat.ofDigitChars 10 digits 0
    some (if negative then -n else n, rest.dropWhile Char.isDigit)

/-- Reads a number behind its sign, with what follows. -/
def readMagnitude (negative : Bool) (cs : List Char) : Option (Json × List Char) :=
  let whole := cs.takeWhile Char.isDigit
  let rest := cs.dropWhile Char.isDigit
  if whole.isEmpty || (whole.length > 1 && whole.head? == some '0') then none
  else
    let (significand, extra) := appendDigits 0 whole
    let withExponent (significand : Nat) (places : Int) (rest : List Char) :
        Option (Json × List Char) :=
      match rest with
      | 'e' :: rest | 'E' :: rest => do
        let (exponent, rest) ← readExponent rest
        return (← realOf? negative significand (places + exponent), rest)
      | _ => do return (← realOf? negative significand places, rest)
    match rest with
    | '.' :: rest =>
      let fraction := rest.takeWhile Char.isDigit
      if fraction.isEmpty then none
      else
        let (significand, dropped) := appendDigits significand fraction
        withExponent significand ((extra : Int) - (fraction.length - dropped : Nat))
          (rest.dropWhile Char.isDigit)
    | 'e' :: _ | 'E' :: _ => withExponent significand extra rest
    | _ =>
      if extra ≠ 0 then withExponent significand extra rest
      else if !negative then some (.integer significand, rest)
      else if significand = 0 ∨ Nat.pow 2 63 < significand then withExponent significand 0 rest
      else some (.integer (-significand), rest)

/-! ## Tokens -/

/-- A blank between tokens. -/
def isGap (c : Char) : Bool := c == ' ' || c == '\n' || c == '\t' || c == '\r'

/-- The first token of a text that does not start with a blank, with what
follows. -/
def readToken : List Char → Option (Token × List Char)
  | '[' :: rest => some (.listOpen, rest)
  | ']' :: rest => some (.listClose, rest)
  | '\x7b' :: rest => some (.recordOpen, rest)
  | '\x7d' :: rest => some (.recordClose, rest)
  | ',' :: rest => some (.comma, rest)
  | ':' :: rest => some (.colon, rest)
  | '"' :: rest => (readText [] rest).map fun (s, rest) => (.scalar (.text s), rest)
  | '-' :: rest => (readMagnitude true rest).map fun (n, rest) => (.scalar n, rest)
  | 'n' :: 'u' :: 'l' :: 'l' :: rest => some (.scalar .null, rest)
  | 't' :: 'r' :: 'u' :: 'e' :: rest => some (.scalar (.bool true), rest)
  | 'f' :: 'a' :: 'l' :: 's' :: 'e' :: rest => some (.scalar (.bool false), rest)
  | cs => (readMagnitude false cs).map fun (n, rest) => (.scalar n, rest)

/-- Cuts a text into tokens; `fuel` bounds their number. -/
def tokensWithin (acc : List Token) : (fuel : Nat) → List Char → Option (List Token)
  | 0, cs => if (cs.dropWhile isGap).isEmpty then some acc.reverse else none
  | fuel + 1, cs =>
    match cs.dropWhile isGap with
    | [] => some acc.reverse
    | cs => do
      let (token, rest) ← readToken cs
      tokensWithin (token :: acc) fuel rest

/-- The tokens of a text.  Each has at least one character. -/
def tokens? (cs : List Char) : Option (List Token) := tokensWithin [] cs.length cs

end FiatRamp.Json
