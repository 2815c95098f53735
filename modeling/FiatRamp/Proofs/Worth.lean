import FiatRamp.Money
import Mathlib.Tactic

/-!
# FiatRamp.Proofs.Worth

What decimals and amounts of money are worth, as exact rational numbers.

Comparisons of decimals look at the value alone, whatever the scales
(`Decimal.compare_eq_lt_iff`, `Decimal.compare_eq_gt_iff`).  Operations on two
amounts of money succeed only within one currency, and then agree with the
order of the rationals.
-/

namespace FiatRamp

namespace Decimal

/-- The exact value of a decimal. -/
def toRat (d : Decimal) : ℚ := d.units / 10 ^ d.scale

theorem ten_pow_pos (s : ℕ) : (0 : ℚ) < 10 ^ s := by positivity

/-- Units at a scale that loses no digit are the value in steps of that scale. -/
theorem unitsAt_eq (d : Decimal) {s : ℕ} (h : d.scale ≤ s) :
    (d.unitsAt s : ℚ) = d.toRat * 10 ^ s := by
  have hs : (10 : ℚ) ^ s = 10 ^ (s - d.scale) * 10 ^ d.scale := by
    rw [← pow_add, Nat.sub_add_cancel h]
  have hd := (ten_pow_pos d.scale).ne'
  simp only [unitsAt, toRat, hs, Nat.pow_eq]
  push_cast
  field_simp

theorem unitsAt_lt_unitsAt {a b : Decimal} {s : ℕ} (ha : a.scale ≤ s) (hb : b.scale ≤ s) :
    a.unitsAt s < b.unitsAt s ↔ a.toRat < b.toRat := by
  rw [← Int.cast_lt (R := ℚ), unitsAt_eq a ha, unitsAt_eq b hb]
  exact mul_lt_mul_iff_left₀ (ten_pow_pos s)

/-! ## Order and sign -/

theorem compare_eq_lt_iff {a b : Decimal} : a.compare b = .lt ↔ a.toRat < b.toRat := by
  rw [← unitsAt_lt_unitsAt (Nat.le_max_left a.scale b.scale) (Nat.le_max_right ..)]
  exact compare_lt_iff_lt

theorem compare_eq_gt_iff {a b : Decimal} : a.compare b = .gt ↔ b.toRat < a.toRat := by
  rw [← unitsAt_lt_unitsAt (Nat.le_max_right a.scale b.scale) (Nat.le_max_left ..)]
  exact compare_gt_iff_gt

theorem isZero_iff {d : Decimal} : d.isZero = true ↔ d.toRat = 0 := by
  have hd := (ten_pow_pos d.scale).ne'
  simp [isZero, toRat, hd]

theorem toRat_eq_zero {d : Decimal} (h : d.units = 0) : d.toRat = 0 := by simp [toRat, h]

theorem isNegative_iff {d : Decimal} : d.isNegative = true ↔ d.toRat < 0 := by
  have hd := ten_pow_pos d.scale
  simp [isNegative, toRat, div_lt_iff₀ hd]

@[simp] theorem toRat_zero : zero.toRat = 0 := isZero_iff.1 rfl

end Decimal

namespace Money

/-- The exact value of an amount, in its currency. -/
def worth (m : Money) : ℚ := m.value.toRat

theorem isZero_iff {m : Money} : m.isZero = true ↔ m.worth = 0 := Decimal.isZero_iff

theorem isNegative_iff {m : Money} : m.isNegative = true ↔ m.worth < 0 := Decimal.isNegative_iff

/-! ## Two amounts of one currency -/

theorem isLess_eq_ok_iff {a b : Money} {r : Bool} :
    a.isLess b = .ok r ↔ a.currency = b.currency ∧ (r = true ↔ a.worth < b.worth) := by
  rw [worth, worth, ← Decimal.compare_eq_lt_iff]
  by_cases h : a.currency = b.currency
  · cases r <;> simp [isLess, compare, mismatch, h, Except.map]
  · simp [isLess, compare, mismatch, h, Except.map]

theorem isGreater_eq_ok_iff {a b : Money} {r : Bool} :
    a.isGreater b = .ok r ↔ a.currency = b.currency ∧ (r = true ↔ b.worth < a.worth) := by
  rw [worth, worth, ← Decimal.compare_eq_gt_iff]
  by_cases h : a.currency = b.currency
  · cases r <;> simp [isGreater, compare, mismatch, h, Except.map]
  · simp [isGreater, compare, mismatch, h, Except.map]

/-- A sum is taken within one currency and is the sum of the decimals. -/
theorem add_eq_ok_iff {a b total : Money} :
    a.add b = .ok total ↔
      a.currency = b.currency ∧ total.currency = a.currency ∧
        a.value.add? b.value = some total.value := by
  by_cases h : a.currency = b.currency
  · cases hsum : a.value.add? b.value with
    | none => simp [add, mismatch, h, hsum, bind, Except.bind]
    | some value =>
        obtain ⟨v, c⟩ := total
        simp [add, mismatch, h, hsum, bind, Except.bind, and_comm, eq_comm]
  · simp [add, mismatch, h, bind, Except.bind]

end Money

end FiatRamp
