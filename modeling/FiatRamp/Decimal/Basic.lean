/-!
# FiatRamp.Decimal.Basic

Decimals with 96 bits: a whole number of units of `10 ^ -scale`.

A decimal keeps the scale it was written with, so `1.50` and `1.5` are two
decimals of one value.  Values are compared exactly (`Decimal.compare`); a sum
takes the larger scale and gives up trailing digits, rounding half to even,
only as far as its units would need more than 96 bits (`Decimal.add?`).
-/

namespace FiatRamp

/-- A decimal `units / 10 ^ scale`.  There is no negative zero. -/
structure Decimal where
  /-- The value in units of `10 ^ -scale`. -/
  units : Int
  /-- How many digits stand after the point. -/
  scale : Nat
  /-- The magnitude fits 96 bits. -/
  natAbs_units_lt : units.natAbs < Nat.pow 2 96
  /-- At most 28 digits stand after the point. -/
  scale_le : scale ≤ 28
  deriving DecidableEq

namespace Decimal

/-! ## Building -/

/-- The first magnitude that no longer fits. -/
def unitsBound : Nat := Nat.pow 2 96

/-- The largest scale. -/
def maxScale : Nat := 28

/-- The decimal with these units and scale, if it exists. -/
def ofUnits? (units : Int) (scale : Nat) : Option Decimal :=
  if h : units.natAbs < Nat.pow 2 96 ∧ scale ≤ 28 then some ⟨units, scale, h.1, h.2⟩ else none

/-- Zero without digits after the point. -/
def zero : Decimal := ⟨0, 0, by decide, by decide⟩

instance : Inhabited Decimal := ⟨zero⟩

/-- A whole number of 64 bits. -/
def ofInt64 (n : Int64) : Decimal :=
  ⟨n.toInt, 0, by
    have low := n.le_toInt
    have high := n.toInt_lt
    rw [Nat.pow_eq]
    omega, by decide⟩

/-! ## Value -/

/-- The value is zero, at whatever scale. -/
def isZero (d : Decimal) : Bool := d.units == 0

/-- The value is below zero. -/
def isNegative (d : Decimal) : Bool := d.units < 0

/-- The units of a decimal when it is written with `scale` digits after the
point; exact when that is not fewer than it has. -/
def unitsAt (d : Decimal) (scale : Nat) : Int := d.units * Nat.pow 10 (scale - d.scale)

/-- Orders decimals by value. -/
def compare (a b : Decimal) : Ordering :=
  Ord.compare (a.unitsAt (max a.scale b.scale)) (b.unitsAt (max a.scale b.scale))

/-- Two decimals of one value, whatever their scales. -/
def sameValue (a b : Decimal) : Bool := a.compare b == .eq

/-! ## Rounding -/

/-- The whole number nearest to `n / d`; a tie goes to the even one. -/
def divHalfEven (n : Int) (d : Nat) : Int :=
  let quotient := n.natAbs / d
  let twice := 2 * (n.natAbs % d)
  let nearest := if d < twice ∨ (twice = d ∧ quotient % 2 = 1) then quotient + 1 else quotient
  n.sign * nearest

/-- The whole number nearest to `n / d`; a tie goes away from zero. -/
def divHalfAway (n : Int) (d : Nat) : Int :=
  n.sign * (if d ≤ 2 * (n.natAbs % d) then n.natAbs / d + 1 else n.natAbs / d : Nat)

/-- Shortens `n / 10 ^ (kept + dropped)` until it fits 96 bits: first to
`kept` digits after the point, then to ever fewer. -/
def fit (n : Int) : (kept dropped : Nat) → Option Decimal
  | 0, dropped => ofUnits? (divHalfEven n (Nat.pow 10 dropped)) 0
  | kept + 1, dropped =>
    match ofUnits? (divHalfEven n (Nat.pow 10 dropped)) (kept + 1) with
    | some d => some d
    | none => fit n kept (dropped + 1)

/-! ## Sum -/

/-- The sum, or `none` when even its whole part does not fit 96 bits.  Adding
zero leaves the other summand as it is, scale included. -/
def add? (a b : Decimal) : Option Decimal :=
  if a.units = 0 then some b
  else if b.units = 0 then some a
  else
    let scale := max a.scale b.scale
    fit (a.unitsAt scale + b.unitsAt scale) scale 0

/-! ## Text -/

/-- The digits of `n`, filled up with zeros on the left to `width`. -/
def paddedDigits (width n : Nat) : List Char :=
  let digits := Nat.toDigits 10 n
  List.replicate (width - digits.length) '0' ++ digits

/-- A decimal as text: a sign if it is negative, its whole part and, after a
point, exactly `scale` digits. -/
def toChars (d : Decimal) : List Char :=
  let magnitude := d.units.natAbs
  let whole := Nat.toDigits 10 (magnitude / Nat.pow 10 d.scale)
  let fraction :=
    if d.scale = 0 then [] else '.' :: paddedDigits d.scale (magnitude % Nat.pow 10 d.scale)
  (if d.units < 0 then ['-'] else []) ++ whole ++ fraction

/-- A decimal as text. -/
def toText (d : Decimal) : String := String.ofList d.toChars

/-! ## Laws -/

theorem ofUnits?_eq_some {n : Int} {s : Nat} {d : Decimal} :
    ofUnits? n s = some d ↔ d.units = n ∧ d.scale = s := by
  unfold ofUnits?
  split
  · simp only [Option.some.injEq]
    constructor
    · rintro rfl; exact ⟨rfl, rfl⟩
    · obtain ⟨u, t, hu, ht⟩ := d
      rintro ⟨rfl, rfl⟩; rfl
  · rename_i outside
    simp only [reduceCtorEq, false_iff]
    rintro ⟨rfl, rfl⟩
    exact outside ⟨d.natAbs_units_lt, d.scale_le⟩

@[simp] theorem ofUnits?_self (d : Decimal) : ofUnits? d.units d.scale = some d :=
  ofUnits?_eq_some.2 ⟨rfl, rfl⟩

theorem add?_zero_left {a : Decimal} (b : Decimal) (h : a.units = 0) : a.add? b = some b := by
  simp [add?, h]

end Decimal

end FiatRamp
