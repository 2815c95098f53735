import FiatRamp.Proofs.Worth

/-!
# FiatRamp.Proofs.Rounding

How far the sum of two decimals is from the exact one.

A sum is rounded to a nearest decimal of its own scale, and it gives up a
digit only where keeping that digit would take more than 96 bits
(`Decimal.Rounds`, `Decimal.rounds_of_add?`).  A bound that is itself a
decimal is crossed by rounding in one way only: the rounded sum meets the
bound exactly and the exact sum lies a little beyond it
(`Decimal.Rounds.eq_of_le_of_lt`).
-/

namespace FiatRamp

namespace Decimal

/-! ## Rounding whole numbers -/

/-- **Nearest**: a rounded quotient is off by at most half the divisor. -/
theorem two_mul_abs_divHalfEven_sub_le (n : ℤ) {d : ℕ} (hd : 0 < d) :
    2 * |divHalfEven n d * d - n| ≤ d := by
  have hdiv := Nat.div_add_mod n.natAbs d
  have hmod := Nat.mod_lt n.natAbs hd
  have hsign := Int.sign_mul_natAbs n
  -- what is left to bound lives in the magnitudes
  have hmag : ∀ q : ℕ, |n.sign * (q : ℤ) * d - n| ≤ |(q : ℤ) * d - n.natAbs| := by
    intro q
    calc
      |n.sign * (q : ℤ) * d - n| = |n.sign * ((q : ℤ) * d - n.natAbs)| := by
        rw [mul_sub, hsign, mul_assoc]
      _ = |n.sign| * |(q : ℤ) * d - n.natAbs| := abs_mul ..
      _ ≤ 1 * |(q : ℤ) * d - n.natAbs| := by
        apply mul_le_mul_of_nonneg_right _ (abs_nonneg _)
        rcases Int.sign_trichotomy n with h | h | h <;> simp [h]
      _ = |(q : ℤ) * d - n.natAbs| := one_mul _
  unfold divHalfEven
  simp only
  split
  · next hup =>
      refine le_trans (mul_le_mul_of_nonneg_left (hmag _) (by norm_num)) ?_
      have hnext : ((n.natAbs / d + 1 : ℕ) : ℤ) * d - n.natAbs = d - (n.natAbs % d : ℕ) := by
        have := congrArg (Nat.cast (R := ℤ)) hdiv
        push_cast at this ⊢
        linarith
      rw [hnext, abs_of_nonneg (by omega)]
      omega
  · next hdown =>
      refine le_trans (mul_le_mul_of_nonneg_left (hmag _) (by norm_num)) ?_
      have hsame : ((n.natAbs / d : ℕ) : ℤ) * d - n.natAbs = -(n.natAbs % d : ℕ) := by
        have := congrArg (Nat.cast (R := ℤ)) hdiv
        push_cast at this ⊢
        linarith
      rw [hsame, abs_neg, abs_of_nonneg (by omega)]
      omega

/-- The magnitude of a rounded quotient is the rounded quotient of the magnitude. -/
theorem natAbs_divHalfEven (n : ℤ) (d : ℕ) :
    (divHalfEven n d).natAbs =
      if d < 2 * (n.natAbs % d) ∨ (2 * (n.natAbs % d) = d ∧ n.natAbs / d % 2 = 1)
      then n.natAbs / d + 1 else n.natAbs / d := by
  unfold divHalfEven
  simp only
  rcases eq_or_ne n 0 with rfl | hn
  · simp
  · rw [Int.natAbs_mul, Int.natAbs_sign_of_ne_zero hn, one_mul, Int.natAbs_natCast]

/-- A whole number is its own quotient by one. -/
@[simp] theorem divHalfEven_one (n : ℤ) : divHalfEven n 1 = n := by
  unfold divHalfEven
  simp only [Nat.mod_one, Nat.div_one, mul_zero, Nat.not_lt_zero, zero_ne_one, false_and, or_self,
    if_false]
  exact Int.sign_mul_natAbs n

/-! ## Shortening -/

/-- The digits `fit` gives up are those that do not fit: one fewer would have
taken more than 96 bits. -/
theorem units_of_fit {n : ℤ} {kept dropped : ℕ} {r : Decimal} (hkept : kept ≤ 28)
    (h : fit n kept dropped = some r) :
    ∃ extra, r.scale + extra = kept ∧ r.units = divHalfEven n (10 ^ (dropped + extra)) ∧
      (0 < extra → 2 ^ 96 ≤ (divHalfEven n (10 ^ (dropped + extra - 1))).natAbs) := by
  induction kept generalizing dropped with
  | zero =>
      obtain ⟨hunits, hscale⟩ := ofUnits?_eq_some.1 h
      exact ⟨0, by omega, hunits, by simp⟩
  | succ kept ih =>
      unfold fit at h
      split at h
      · next d hd =>
          cases h
          obtain ⟨hunits, hscale⟩ := ofUnits?_eq_some.1 hd
          exact ⟨0, by omega, hunits, by simp⟩
      · next hnone =>
          obtain ⟨extra, hscale, hunits, hmore⟩ := ih (by omega) h
          refine ⟨extra + 1, by omega, by rw [hunits]; congr 2; omega, fun _ => ?_⟩
          rcases Nat.eq_zero_or_pos extra with hzero | hpos
          · rw [hzero]
            apply Nat.le_of_not_lt
            intro hfits
            rw [Nat.zero_add, Nat.add_sub_cancel] at hfits
            rw [ofUnits?, dif_pos ⟨hfits, hkept⟩] at hnone
            contradiction
          · have := hmore hpos
            rwa [show dropped + (extra + 1) - 1 = dropped + 1 + extra - 1 by omega]

/-! ## Rounded sums -/

/-- `r` is `x` rounded to the scale of `r`, which is smaller than `x` needs only
if the next larger scale would take more than 96 bits. -/
structure Rounds (x : ℚ) (r : Decimal) : Prop where
  /-- Off by at most half a unit of the last digit. -/
  nearest : |r.units - x * 10 ^ r.scale| ≤ 1 / 2
  /-- A digit is given up only for want of room. -/
  room : r.toRat ≠ x → (2 : ℚ) ^ 96 - 1 / 2 ≤ |x * 10 ^ (r.scale + 1)|

/-- An exact sum is a rounded one. -/
theorem Rounds.of_eq {x : ℚ} {r : Decimal} (h : r.toRat = x) : Rounds x r := by
  have hs := (ten_pow_pos r.scale).ne'
  refine ⟨?_, fun hne => (hne h).elim⟩
  rw [← h, toRat, div_mul_cancel₀ _ hs]
  norm_num

/-- A rounded quotient by a power of ten, in fractions. -/
theorem abs_divHalfEven_sub_le (n : ℤ) (k : ℕ) :
    |(divHalfEven n (10 ^ k) : ℚ) - n / 10 ^ k| ≤ 1 / 2 := by
  have hk := ten_pow_pos k
  have h := two_mul_abs_divHalfEven_sub_le n (d := 10 ^ k) (by positivity)
  have h' : 2 * |(divHalfEven n (10 ^ k) : ℚ) * 10 ^ k - n| ≤ 10 ^ k := by exact_mod_cast h
  have hsplit : (divHalfEven n (10 ^ k) : ℚ) * 10 ^ k - n =
      ((divHalfEven n (10 ^ k) : ℚ) - n / 10 ^ k) * 10 ^ k := by
    field_simp
  rw [hsplit, abs_mul, abs_of_pos hk] at h'
  nlinarith

/-- Shortening rounds. -/
theorem rounds_of_fit {n : ℤ} {s : ℕ} {r : Decimal} (hs : s ≤ 28) (h : fit n s 0 = some r) :
    Rounds (n / 10 ^ s) r := by
  obtain ⟨extra, hscale, hunits, hmore⟩ := units_of_fit hs h
  rw [Nat.zero_add] at hunits hmore
  have hpow : (10 : ℚ) ^ s = 10 ^ r.scale * 10 ^ extra := by rw [← pow_add, hscale]
  have hr := ten_pow_pos r.scale
  have he := ten_pow_pos extra
  have hx : (n : ℚ) / 10 ^ s * 10 ^ r.scale = n / 10 ^ extra := by
    rw [hpow]
    field_simp
  refine ⟨?_, fun hne => ?_⟩
  · rw [hunits, hx]
    exact abs_divHalfEven_sub_le n extra
  · rcases Nat.eq_zero_or_pos extra with hzero | hpos
    · refine (hne ?_).elim
      subst hzero
      rw [toRat, hunits, hpow]
      simp
    · have hbig : (2 : ℚ) ^ 96 ≤ |(divHalfEven n (10 ^ (extra - 1)) : ℚ)| := by
        have := hmore hpos
        rw [← Int.cast_abs, Int.abs_eq_natAbs]
        exact_mod_cast this
      have hnear := abs_divHalfEven_sub_le n (extra - 1)
      have hx' : (n : ℚ) / 10 ^ s * 10 ^ (r.scale + 1) = n / 10 ^ (extra - 1) := by
        have hsucc : (10 : ℚ) ^ extra = 10 ^ (extra - 1) * 10 := by
          rw [← pow_succ, Nat.sub_add_cancel hpos]
        rw [pow_succ, ← mul_assoc, hx, hsucc]
        field_simp
      rw [hx']
      have htri := abs_sub_abs_le_abs_sub (divHalfEven n (10 ^ (extra - 1)) : ℚ)
        (n / 10 ^ (extra - 1))
      linarith

/-- At the larger scale of two decimals their sum is that of their units. -/
theorem toRat_add_toRat (a b : Decimal) :
    a.toRat + b.toRat =
      ((a.unitsAt (max a.scale b.scale) + b.unitsAt (max a.scale b.scale) : ℤ) : ℚ) /
        10 ^ max a.scale b.scale := by
  have hs := (ten_pow_pos (max a.scale b.scale)).ne'
  push_cast
  rw [unitsAt_eq a (Nat.le_max_left ..), unitsAt_eq b (Nat.le_max_right ..)]
  field_simp

/-- **Sums round**: the sum of two decimals is their exact sum, rounded. -/
theorem rounds_of_add? {a b r : Decimal} (h : a.add? b = some r) :
    Rounds (a.toRat + b.toRat) r := by
  unfold add? at h
  split at h
  · next ha =>
      cases h
      exact .of_eq (by rw [toRat_eq_zero ha, zero_add])
  split at h
  · next hb =>
      cases h
      exact .of_eq (by rw [toRat_eq_zero hb, add_zero])
  · rw [toRat_add_toRat]
    exact rounds_of_fit (Nat.max_le.2 ⟨a.scale_le, b.scale_le⟩) h

/-! ## Rounding and a bound -/

/-- The value of a decimal, in tenths of a step that is coarser than its own,
leaves out at least one of the magnitudes of 96 bits. -/
theorem abs_toRat_mul_le {c : Decimal} {s : ℕ} (h : s ≤ c.scale) :
    |c.toRat * 10 ^ s| ≤ 2 ^ 96 - 1 := by
  have hpow : (10 : ℚ) ^ c.scale = 10 ^ (c.scale - s) * 10 ^ s := by
    rw [← pow_add, Nat.sub_add_cancel h]
  have hs := (ten_pow_pos s).ne'
  have hmore : (1 : ℚ) ≤ 10 ^ (c.scale - s) := one_le_pow₀ (by norm_num)
  have hunits : |(c.units : ℚ)| ≤ 2 ^ 96 - 1 := by
    have := c.natAbs_units_lt
    rw [Nat.pow_eq] at this
    rw [← Int.cast_abs, Int.abs_eq_natAbs]
    have h' : (c.units.natAbs : ℤ) ≤ 2 ^ 96 - 1 := by omega
    exact_mod_cast h'
  have heq : c.toRat * 10 ^ s = c.units / 10 ^ (c.scale - s) := by
    rw [toRat, hpow]
    field_simp
  rw [heq, abs_div, abs_of_pos (ten_pow_pos _)]
  exact le_trans (div_le_self (abs_nonneg _) hmore) hunits

/-- **Crossing a bound**: where a rounded value keeps a bound and the exact one
does not, the rounded value is the bound.  A bound with more digits than the
rounded value cannot be crossed, since what was rounded has more than 96 bits
at that scale and would have been rounded up. -/
theorem Rounds.eq_of_le_of_lt {x : ℚ} {r c : Decimal} (hr : Rounds x r)
    (hle : r.toRat ≤ c.toRat) (hlt : c.toRat < x) : r.toRat = c.toRat := by
  have hpos := ten_pow_pos r.scale
  have hnear := abs_le.1 hr.nearest
  have hroom := hr.room (ne_of_lt (lt_of_le_of_lt hle hlt))
  have hunits : r.toRat * 10 ^ r.scale = r.units := div_mul_cancel₀ _ hpos.ne'
  have hlo : (r.units : ℚ) ≤ c.toRat * 10 ^ r.scale := by
    rw [← hunits]
    exact mul_le_mul_of_nonneg_right hle hpos.le
  have hhi : c.toRat * 10 ^ r.scale < x * 10 ^ r.scale := mul_lt_mul_of_pos_right hlt hpos
  by_cases hscale : c.scale ≤ r.scale
  · -- the bound is a whole number of the last digit, and there is only one in reach
    rw [← unitsAt_eq c hscale] at hlo hhi
    have hlo' : r.units ≤ c.unitsAt r.scale := by exact_mod_cast hlo
    have hhi' : (c.unitsAt r.scale : ℚ) < r.units + 1 := by linarith
    have hhi'' : c.unitsAt r.scale < r.units + 1 := by exact_mod_cast hhi'
    have heq : (c.unitsAt r.scale : ℚ) = r.units := by
      have : c.unitsAt r.scale = r.units := by omega
      exact_mod_cast this
    rw [unitsAt_eq c hscale, ← hunits] at heq
    exact (mul_right_cancel₀ hpos.ne' heq).symm
  · have hbound := abs_le.1 (abs_toRat_mul_le (c := c) (s := r.scale + 1) (by omega))
    rw [pow_succ (10 : ℚ), ← mul_assoc] at hbound hroom
    rcases le_or_gt 0 (x * 10 ^ r.scale) with hx | hx
    · have hsmall : (r.units : ℚ) ≤ 7922816251426433759354395033 := by
        have : (r.units : ℚ) < 7922816251426433759354395034 := by linarith
        have : r.units < 7922816251426433759354395034 := by exact_mod_cast this
        have : r.units ≤ 7922816251426433759354395033 := by omega
        exact_mod_cast this
      rw [abs_of_nonneg (by linarith)] at hroom
      linarith
    · rw [abs_of_neg (by linarith)] at hroom
      linarith

end Decimal

end FiatRamp
