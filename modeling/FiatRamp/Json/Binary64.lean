import FiatRamp.Json.Basic

/-!
# FiatRamp.Json.Binary64

Doubles as exact numbers: rounding to the nearest one, and the shortest
decimal that stands for one.

A double here is `mantissa * 2 ^ exponent`, its sign kept apart.  Everything
is computed on natural numbers, so nothing is lost on the way.
-/

namespace FiatRamp

/-- The magnitude of a double, `mantissa * 2 ^ exponent`. -/
structure Binary64 where
  mantissa : Nat
  exponent : Int
  deriving DecidableEq, Inhabited

namespace Binary64

/-- The smallest exponent of a double. -/
def leastExponent : Int := -1074

/-- The largest exponent of a double. -/
def greatestExponent : Int := 971

/-- `n / d` rounded to a whole number, a tie to the even one. -/
def nearest (n d : Nat) : Nat :=
  let quotient := n / d
  let twice := 2 * (n % d)
  if d < twice ∨ (twice = d ∧ quotient % 2 = 1) then quotient + 1 else quotient

/-- `n / d` rounded to a double, or `none` beyond the largest one. -/
def ofRatio? (n d : Nat) : Option Binary64 :=
  if n = 0 then some ⟨0, leastExponent⟩
  else
    let guess : Int := (Nat.log2 n : Int) - Nat.log2 d - 53
    let step (e : Int) : Nat := if 0 ≤ e then nearest n (d * Nat.pow 2 e.toNat)
      else nearest (n * Nat.pow 2 (-e).toNat) d
    let exact (e : Int) : Bool :=
      if 0 ≤ e then n / (d * Nat.pow 2 e.toNat) < Nat.pow 2 53
      else n * Nat.pow 2 (-e).toNat / d < Nat.pow 2 53
    let fitting := if exact guess then guess else if exact (guess + 1) then guess + 1 else guess + 2
    let exponent := max fitting leastExponent
    let mantissa := step exponent
    let rounded : Binary64 := if mantissa = Nat.pow 2 53 then ⟨Nat.pow 2 52, exponent + 1⟩
      else ⟨mantissa, exponent⟩
    if rounded.exponent ≤ greatestExponent then some rounded else none

/-- The numerator of a double as a fraction. -/
def numerator (x : Binary64) : Nat := x.mantissa * Nat.pow 2 x.exponent.toNat

/-- The denominator of a double as a fraction. -/
def denominator (x : Binary64) : Nat := Nat.pow 2 (-x.exponent).toNat

/-- The product of two doubles. -/
def mul? (x y : Binary64) : Option Binary64 :=
  ofRatio? (x.numerator * y.numerator) (x.denominator * y.denominator)

/-- The quotient of two doubles. -/
def div? (x y : Binary64) : Option Binary64 :=
  ofRatio? (x.numerator * y.denominator) (x.denominator * y.numerator)

/-- A power of ten. -/
def powerOfTen? (n : Nat) : Option Binary64 := ofRatio? (Nat.pow 10 n) 1

/-- The largest power of ten among the doubles. -/
def greatestTenPower : Nat := 308

/-- `significand * 10 ^ exponent`, each factor and then the result rounded to a
double; `none` beyond the largest one.  Very small numbers are reached in two
divisions. -/
def ofScientific? (significand : Nat) (exponent : Int) : Option Binary64 := do
  let x ← ofRatio? significand 1
  if x.mantissa = 0 then return x
  match exponent with
  | .ofNat n => if greatestTenPower < n then none else x.mul? (← powerOfTen? n)
  | .negSucc n =>
    let places := n + 1
    if places ≤ greatestTenPower then x.div? (← powerOfTen? places)
    else
      let small ← x.div? (← powerOfTen? greatestTenPower)
      if small.mantissa = 0 then return small
      if places - greatestTenPower ≤ greatestTenPower then
        small.div? (← powerOfTen? (places - greatestTenPower))
      else ofRatio? 0 1

/-! ## Shortest decimal -/

/-- `digits * 10 ^ exponent` rounded to a double. -/
def ofDecimal? (digits : Nat) (exponent : Int) : Option Binary64 :=
  ofRatio? (digits * Nat.pow 10 exponent.toNat) (Nat.pow 10 (-exponent).toNat)

/-- The decimals next to `x` on the grid of `10 ^ exponent` that round to `x`,
the nearer one first. -/
def candidates (x : Binary64) (exponent : Int) : List Nat :=
  let n := x.numerator * Nat.pow 10 (-exponent).toNat
  let d := x.denominator * Nat.pow 10 exponent.toNat
  let below := n / d
  let ordered := if 2 * (n % d) ≤ d then [below, below + 1] else [below + 1, below]
  ordered.filter fun digits => ofDecimal? digits exponent == some x

/-- The decimals that stand for `x`, on ever finer grids. -/
def shortestFrom (x : Binary64) (exponent : Int) : (steps : Nat) → Nat × Int
  | 0 => (x.numerator * Nat.pow 10 (-exponent).toNat / (x.denominator * Nat.pow 10 exponent.toNat),
      exponent)
  | steps + 1 =>
    match x.candidates exponent with
    | digits :: _ => (digits, exponent)
    | [] => shortestFrom x (exponent - 1) steps

/-- Drops zeros at the end of the digits. -/
def stripZeros (digits : Nat) (exponent : Int) : (places : Nat) → Nat × Int
  | 0 => (digits, exponent)
  | places + 1 =>
    if digits % 10 = 0 then stripZeros (digits / 10) (exponent + 1) places else (digits, exponent)

/-- The shortest decimal that rounds to `x`, the nearest one of those. -/
def toReal (negative : Bool) (x : Binary64) : Real :=
  if x.mantissa = 0 then ⟨negative, 0, 0⟩
  else
    let whole := x.numerator / x.denominator
    let top : Int :=
      if 0 < whole then (Nat.toDigits 10 whole).length
      else -((Nat.toDigits 10 (x.denominator / x.numerator)).length - 1 : Int)
    let (digits, exponent) := shortestFrom x top 20
    let (digits, exponent) := stripZeros digits exponent 20
    ⟨negative, digits, exponent⟩

end Binary64

end FiatRamp
