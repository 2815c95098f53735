import FiatRamp.Toml.Basic

/-!
# FiatRamp.Toml.Word

Values that are written without quotes: truth values, numbers and dates.

Each is one word, a run of letters, digits and the signs `+ - _ . :`, which is
read as a whole (`Value.ofWord?`).  A date and a time may also be two words
with one blank between them.
-/

namespace FiatRamp.Toml

/-- A character of a word. -/
def isWordChar (c : Char) : Bool :=
  c.isAlphanum || c == '+' || c == '-' || c == '_' || c == '.' || c == ':'

/-! ## Numbers -/

/-- Digits without the single underscores that may stand between them. -/
def digits? (isDigit : Char → Bool) : List Char → Option (List Char)
  | [] => none
  | [c] => if isDigit c then some [c] else none
  | c :: '_' :: rest => if isDigit c then (digits? isDigit rest).map (c :: ·) else none
  | c :: rest => if isDigit c then (digits? isDigit rest).map (c :: ·) else none

/-- The digits of a decimal number, which starts with zero only if it is zero. -/
def decimalDigits? : List Char → Option (List Char)
  | ['0'] => some ['0']
  | '0' :: _ => none
  | cs => digits? Char.isDigit cs

/-- A sign, if there is one, and what follows; `true` for minus. -/
def splitSign : List Char → Bool × List Char
  | '-' :: rest => (true, rest)
  | '+' :: rest => (false, rest)
  | cs => (false, cs)

/-- A whole number, if 64 bits with a sign can hold it. -/
def word64? (n : Int) : Option Value :=
  if -Nat.pow 2 63 ≤ n ∧ n < Nat.pow 2 63 then some (.integer n) else none

def isHexDigit (c : Char) : Bool :=
  c.isDigit || ('a' ≤ c && c ≤ 'f') || ('A' ≤ c && c ≤ 'F')

/-- The value of a hexadecimal digit. -/
def hexDigit (c : Char) : Nat :=
  if c.isDigit then c.toNat - '0'.toNat else c.toLower.toNat - 'a'.toNat + 10

/-- The number whose digits in base `base` are given. -/
def ofDigits (base : Nat) (cs : List Char) : Nat := cs.foldl (fun n c => base * n + hexDigit c) 0

/-- Digits of a base, behind the mark of that base. -/
def basedInteger? (base : Nat) (isDigit : Char → Bool) (cs : List Char) : Option Value := do
  word64? (ofDigits base (← digits? isDigit cs))

/-- A whole number, in decimal or behind `0x`, `0o` or `0b`. -/
def integer? : List Char → Option Value
  | '0' :: 'x' :: cs => basedInteger? 16 isHexDigit cs
  | '0' :: 'o' :: cs => basedInteger? 8 (fun c => '0' ≤ c && c ≤ '7') cs
  | '0' :: 'b' :: cs => basedInteger? 2 (fun c => c == '0' || c == '1') cs
  | cs => do
    let (negative, cs) := splitSign cs
    let n : Int := ofDigits 10 (← decimalDigits? cs)
    word64? (if negative then -n else n)

/-- `digits * 10 ^ exponent` is too large for a double, to which it would be
rounded. -/
def exceedsDouble (digits : Nat) (exponent : Int) : Bool :=
  let places : Int := (Nat.toDigits 10 digits).length + exponent
  if digits = 0 ∨ places < 309 then false
  else if 309 < places then true
  else (Nat.pow 2 1024 - Nat.pow 2 970) * Nat.pow 10 (-exponent).toNat ≤
    digits * Nat.pow 10 exponent.toNat

/-- The exponent behind its letter. -/
def exponent? (cs : List Char) : Option Int := do
  let (negative, cs) := splitSign cs
  let n : Int := ofDigits 10 (← digits? Char.isDigit cs)
  return if negative then -n else n

def isExponentMark (c : Char) : Bool := c == 'e' || c == 'E'

/-- A number with a point, an exponent, or both.  One that is too large for a
double is refused, unless it is negative. -/
def float? (word : List Char) : Option Value := do
  let (negative, cs) := splitSign word
  let (base, mark) := cs.span (!isExponentMark ·)
  let (whole, point) := base.span (· != '.')
  if point.isEmpty && mark.isEmpty then none
  let whole ← decimalDigits? whole
  let fraction ← if point.isEmpty then some [] else digits? Char.isDigit point.tail
  let exponent ← if mark.isEmpty then some 0 else exponent? mark.tail
  if !negative && exceedsDouble (ofDigits 10 (whole ++ fraction)) (exponent - fraction.length) then
    none
  return .float (String.ofList word)

/-- Infinity or no number at all, with a sign or without. -/
def specialFloat? (word : List Char) : Option Value :=
  let name := (splitSign word).2
  if name = ['i', 'n', 'f'] ∨ name = ['n', 'a', 'n'] then some (.float (String.ofList word))
  else none

/-! ## Dates and times -/

/-- Two digits that stand for a number from `low` to `high`. -/
def isBetween (low high : Nat) (a b : Char) : Bool :=
  a.isDigit && b.isDigit && low ≤ ofDigits 10 [a, b] && ofDigits 10 [a, b] ≤ high

def isLeapYear (year : Nat) : Bool := year % 4 = 0 && (year % 100 ≠ 0 || year % 400 = 0)

/-- How many days a month has. -/
def daysOf (year month : Nat) : Nat :=
  if month = 2 then if isLeapYear year then 29 else 28
  else if month = 4 ∨ month = 6 ∨ month = 9 ∨ month = 11 then 30
  else 31

/-- What follows a date. -/
def afterDate? : List Char → Option (List Char)
  | a :: b :: c :: d :: '-' :: m :: n :: '-' :: e :: f :: rest =>
    if [a, b, c, d].all Char.isDigit && isBetween 1 12 m n &&
        isBetween 1 (daysOf (ofDigits 10 [a, b, c, d]) (ofDigits 10 [m, n])) e f then some rest
    else none
  | _ => none

/-- What follows a time of day.  A second may be a leap second. -/
def afterTime? : List Char → Option (List Char)
  | a :: b :: ':' :: c :: d :: ':' :: e :: f :: rest =>
    if isBetween 0 23 a b && isBetween 0 59 c d && isBetween 0 60 e f then
      match rest with
      | '.' :: fraction =>
        if (fraction.takeWhile Char.isDigit).isEmpty then none
        else some (fraction.dropWhile Char.isDigit)
      | _ => some rest
    else none
  | _ => none

/-- The distance of a clock from that of Greenwich. -/
def isOffset : List Char → Bool
  | ['Z'] | ['z'] => true
  | [sign, a, b, ':', c, d] =>
    (sign == '+' || sign == '-') && isBetween 0 23 a b && isBetween 0 59 c d
  | _ => false

/-- A time of day, at a given distance from Greenwich or not. -/
def isClock (cs : List Char) : Bool :=
  (afterTime? cs).any fun rest => rest.isEmpty || isOffset rest

/-- A date, a time of day, or a date and a time. -/
def isDate (cs : List Char) : Bool :=
  match afterDate? cs with
  | some [] => true
  | some ('T' :: clock) | some ('t' :: clock) | some (' ' :: clock) => isClock clock
  | some _ => false
  | none => (afterTime? cs).any List.isEmpty

def date? (word : List Char) : Option Value :=
  if isDate word then some (.date (String.ofList word)) else none

/-- A date alone, behind which a time may follow as another word. -/
def isDay (word : List Char) : Bool := (afterDate? word).any List.isEmpty

/-! ## Words -/

/-- The value a word stands for. -/
def Value.ofWord? (word : List Char) : Option Value :=
  if word = ['t', 'r', 'u', 'e'] then some (.bool true)
  else if word = ['f', 'a', 'l', 's', 'e'] then some (.bool false)
  else date? word <|> integer? word <|> float? word <|> specialFloat? word

/-- Reads a word, or a date and a time that are two, with what follows. -/
def readWord (cs : List Char) : Option (Value × List Char) :=
  let (word, rest) := cs.span isWordChar
  match isDay word, rest with
  | true, ' ' :: more =>
    let (clock, rest') := more.span isWordChar
    if clock.isEmpty then (Value.ofWord? word).map (·, rest)
    else (date? (word ++ ' ' :: clock)).map (·, rest')
  | _, _ => (Value.ofWord? word).map (·, rest)

end FiatRamp.Toml
