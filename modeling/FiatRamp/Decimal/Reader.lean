import FiatRamp.Decimal.Basic

/-!
# FiatRamp.Decimal.Reader

Reading decimals from text.

The plain form is an optional sign, digits with at most one point among them,
and underscores anywhere after the first digit.  Digits of the fraction beyond
the 28th, or beyond 96 bits, are rounded away, half up; a whole part beyond 96
bits is refused.  A text that is not plain may be a plain one times a power of
ten, `1.5e3` (`Decimal.ofScientific?`).
-/

namespace FiatRamp

namespace Decimal

/-- The value of a decimal digit. -/
def digitOf (c : Char) : Nat := c.toNat - '0'.toNat

/-- A natural number below `bound`: digits, with a plus sign or none. -/
def natOfChars? (bound : Nat) (cs : List Char) : Option Nat :=
  let digits := match cs with
    | '+' :: rest => rest
    | _ => cs
  if digits ≠ [] ∧ digits.all Char.isDigit then
    let n := Nat.ofDigitChars 10 digits 0
    if n < bound then some n else none
  else none

/-! ## Plain form -/

/-- Ends the fraction at `units` of `10 ^ -scale`, where `digit` is the first
digit that has no room.  A carry beyond 96 bits costs one more digit. -/
def roundOff (units scale digit : Nat) : Option (Nat × Nat) :=
  if digit < 5 then some (units, scale)
  else if units + 1 < unitsBound then some (units + 1, scale)
  else if scale = 0 then none
  else some ((units + 1 + 4) / 10, scale - 1)

/-- Reads the digits of a number without its sign, after `units` of
`10 ^ -scale`.  `point` tells whether the point was met, `digits` whether any
digit was. -/
def scan (units scale : Nat) (point digits : Bool) : List Char → Option (Nat × Nat)
  | [] => if digits then some (units, scale) else none
  | c :: rest =>
    if c.isDigit then
      let next := units * 10 + digitOf c
      if point then
        if maxScale ≤ scale ∨ unitsBound ≤ next then
          if rest.all fun d => d.isDigit || d == '_' then roundOff units scale (digitOf c) else none
        else scan next (scale + 1) true true rest
      else if unitsBound ≤ next then none
      else scan next scale false true rest
    else if c = '.' && !point then scan units scale true digits rest
    else if c = '_' && digits then scan units scale point digits rest
    else none

/-- Splits off a sign; `true` stands for minus. -/
def splitSign : List Char → Bool × List Char
  | '-' :: rest => (true, rest)
  | '+' :: rest => (false, rest)
  | cs => (false, cs)

/-- A decimal in plain form. -/
def ofPlain? (cs : List Char) : Option Decimal := do
  let (negative, rest) := splitSign cs
  let (units, scale) ← scan 0 0 false false rest
  ofUnits? (if negative then -(units : Int) else units) scale

/-! ## Scientific form -/

/-- A decimal with at most `scale` digits after the point, rounded half away
from zero. -/
def cutTo (d : Decimal) (scale : Nat) : Int :=
  if d.scale ≤ scale then d.units else divHalfAway d.units (Nat.pow 10 (d.scale - scale))

/-- `d / 10 ^ n`.  Digits without room are rounded away. -/
def shiftRight? (d : Decimal) (n : Nat) : Option Decimal :=
  if maxScale < n then none
  else if maxScale < d.scale + n then ofUnits? (d.cutTo (maxScale - n)) maxScale
  else ofUnits? d.units (d.scale + n)

/-- `d * 10 ^ n`, without digits after the point once it is whole. -/
def shiftLeft? (d : Decimal) (n : Nat) : Option Decimal :=
  if n ≤ d.scale then ofUnits? d.units (d.scale - n)
  else if maxScale < n then none
  else ofUnits? (d.units * Nat.pow 10 (n - d.scale)) 0

/-- Exponents are 32-bit numbers. -/
def exponentBound : Nat := Nat.pow 2 32

/-- A plain decimal, the letter `e` of either case and an exponent. -/
def ofScientific? (cs : List Char) : Option Decimal := do
  let isMark := fun c : Char => c == 'e' || c == 'E'
  let base ← ofPlain? (cs.takeWhile fun c => !isMark c)
  match cs.dropWhile fun c => !isMark c with
  | [] => none
  | _ :: '-' :: exponent => base.shiftRight? (← natOfChars? exponentBound exponent)
  | _ :: exponent => base.shiftLeft? (← natOfChars? exponentBound exponent)

/-! ## Either form -/

/-- A decimal in plain or scientific form. -/
def ofChars? (cs : List Char) : Option Decimal := ofPlain? cs <|> ofScientific? cs

/-- A decimal from text, without blanks around it. -/
def ofText? (s : String) : Option Decimal := ofChars? s.toList

end Decimal

end FiatRamp
