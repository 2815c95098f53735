import FiatRamp.Proofs.Rounding

/-!
# FiatRamp.Proofs.Monotone

Rounded sums keep the order.

Two exact sums may be rounded at different scales, the larger one at a smaller
scale as a rule, but below zero the other way round.  What they are rounded to
keeps their order all the same (`Decimal.RoundsEven.mono`): a sum that gave up
a digit is so far from zero that no decimal with that digit lies beyond it.
Two sums of one scale keep their order since a tie goes to the even decimal,
and so do two spellings of one sum.
-/

namespace FiatRamp

namespace Decimal

/-! ## Ties -/

/-- The distance of a rounded quotient is that of its magnitude. -/
theorem abs_divHalfEven_mul_sub (n : ℤ) (d : ℕ) :
    |divHalfEven n d * d - n| = |((divHalfEven n d).natAbs : ℤ) * d - n.natAbs| := by
  have hsign : divHalfEven n d = n.sign * (divHalfEven n d).natAbs := by
    rw [natAbs_divHalfEven, divHalfEven]
  have hn := Int.sign_mul_natAbs n
  rcases eq_or_ne n 0 with rfl | hne
  · simp [divHalfEven]
  · calc
      |divHalfEven n d * d - n|
          = |n.sign * (((divHalfEven n d).natAbs : ℤ) * d - n.natAbs)| := by
        rw [mul_sub, hn, ← mul_assoc, ← hsign]
      _ = |((divHalfEven n d).natAbs : ℤ) * d - n.natAbs| := by
        rw [abs_mul, Int.abs_eq_natAbs n.sign, Int.natAbs_sign_of_ne_zero hne, Nat.cast_one,
          one_mul]

/-- **Ties**: a rounded quotient that is off by half the divisor is even. -/
theorem even_divHalfEven {n : ℤ} {d : ℕ} (hd : 0 < d)
    (tie : 2 * |divHalfEven n d * d - n| = d) : Even (divHalfEven n d) := by
  have hdiv := Nat.div_add_mod n.natAbs d
  have hmod := Nat.mod_lt n.natAbs hd
  rw [abs_divHalfEven_mul_sub, natAbs_divHalfEven] at tie
  rw [← Int.natAbs_even, natAbs_divHalfEven, Nat.even_iff]
  generalize n.natAbs / d = q at *
  generalize n.natAbs % d = t at *
  rw [← hdiv] at tie
  split
  · next hup =>
      rw [if_pos hup] at tie
      have hleft : ((q + 1 : ℕ) : ℤ) * d - (d * q + t : ℕ) = d - t := by push_cast; ring
      rw [hleft, abs_of_nonneg (by omega)] at tie
      omega
  · next hdown =>
      rw [if_neg hdown] at tie
      have hleft : (q : ℤ) * d - (d * q + t : ℕ) = -t := by push_cast; ring
      rw [hleft, abs_neg, abs_of_nonneg (by omega)] at tie
      omega

/-- `r` is `x` rounded to the scale of `r`, and even where `x` is halfway between two
decimals of that scale. -/
structure RoundsEven (x : ℚ) (r : Decimal) : Prop extends Rounds x r where
  even : |r.units - x * 10 ^ r.scale| = 1 / 2 → Even r.units

/-- Shortening sends ties to the even decimal. -/
theorem roundsEven_of_fit {n : ℤ} {s : ℕ} {r : Decimal} (hs : s ≤ 28) (h : fit n s 0 = some r) :
    RoundsEven (n / 10 ^ s) r := by
  refine ⟨rounds_of_fit hs h, fun htie => ?_⟩
  obtain ⟨extra, hscale, hunits, -⟩ := units_of_fit hs h
  rw [Nat.zero_add] at hunits
  have he := ten_pow_pos extra
  have hx : (n : ℚ) / 10 ^ s * 10 ^ r.scale * 10 ^ extra = n := by
    have hs' := (ten_pow_pos s).ne'
    rw [mul_assoc, ← pow_add, hscale]
    field_simp
  rw [hunits]
  apply even_divHalfEven (by positivity)
  rw [← hunits]
  have hscaled : 2 * |(r.units : ℚ) * 10 ^ extra - n| = 10 ^ extra := by
    calc
      2 * |(r.units : ℚ) * 10 ^ extra - n|
          = 2 * |((r.units : ℚ) - n / 10 ^ s * 10 ^ r.scale) * 10 ^ extra| := by rw [sub_mul, hx]
      _ = 10 ^ extra := by
        rw [abs_mul, htie, abs_of_pos he]
        ring
  exact_mod_cast hscaled

/-- **Sums round to even**: the sum of two decimals is their exact sum, rounded, and a
tie goes to the even decimal. -/
theorem roundsEven_of_add? {a b r : Decimal} (h : a.add? b = some r) :
    RoundsEven (a.toRat + b.toRat) r := by
  refine ⟨rounds_of_add? h, ?_⟩
  -- a summand that is left alone is no tie
  have hexact : r.toRat = a.toRat + b.toRat →
      |r.units - (a.toRat + b.toRat) * 10 ^ r.scale| = 1 / 2 → Even r.units := by
    intro hsum htie
    have hs := (ten_pow_pos r.scale).ne'
    rw [← hsum, toRat, div_mul_cancel₀ _ hs] at htie
    norm_num at htie
  unfold add? at h
  split at h
  · next ha =>
      cases h
      exact hexact (by rw [toRat_eq_zero ha, zero_add])
  split at h
  · next hb =>
      cases h
      exact hexact (by rw [toRat_eq_zero hb, add_zero])
  · rw [toRat_add_toRat]
    exact (roundsEven_of_fit (Nat.max_le.2 ⟨a.scale_le, b.scale_le⟩) h).even

/-! ## The other side of zero -/

/-- The decimal on the other side of zero. -/
def neg (d : Decimal) : Decimal where
  units := -d.units
  scale := d.scale
  natAbs_units_lt := by
    rw [Int.natAbs_neg]
    exact d.natAbs_units_lt
  scale_le := d.scale_le

@[simp] theorem units_neg (d : Decimal) : d.neg.units = -d.units := rfl

@[simp] theorem scale_neg (d : Decimal) : d.neg.scale = d.scale := rfl

@[simp] theorem toRat_neg (d : Decimal) : d.neg.toRat = -d.toRat := by
  simp [toRat, neg_div]

/-- Rounding is the same on both sides of zero. -/
theorem RoundsEven.neg {x : ℚ} {r : Decimal} (h : RoundsEven x r) : RoundsEven (-x) r.neg := by
  have hdist : |(r.neg.units : ℚ) - -x * 10 ^ r.neg.scale| = |r.units - x * 10 ^ r.scale| := by
    rw [← abs_neg]
    congr 1
    simp
    ring
  refine ⟨⟨?_, fun hne => ?_⟩, fun htie => ?_⟩
  · rw [hdist]
    exact h.nearest
  · rw [toRat_neg] at hne
    rw [scale_neg, neg_mul, abs_neg]
    exact h.room fun heq => hne (congrArg Neg.neg heq)
  · rw [hdist] at htie
    rw [units_neg, even_neg]
    exact h.even htie

/-! ## Order -/

section

variable {x y : ℚ} {r s : Decimal}

theorem toRat_mul_pow (d : Decimal) : d.toRat * 10 ^ d.scale = d.units :=
  div_mul_cancel₀ _ (ten_pow_pos d.scale).ne'

/-- Rounding keeps a lower bound that has no digit more. -/
theorem Rounds.le_of_le {c : Decimal} (hs : Rounds y s) (hscale : c.scale ≤ s.scale)
    (h : c.toRat ≤ y) : c.toRat ≤ s.toRat := by
  have hpos := ten_pow_pos s.scale
  have hnear := abs_le.1 hs.nearest
  have hbelow : (c.unitsAt s.scale : ℚ) ≤ y * 10 ^ s.scale := by
    rw [unitsAt_eq c hscale]
    exact mul_le_mul_of_nonneg_right h hpos.le
  have hunits : c.unitsAt s.scale < s.units + 1 := by
    have : (c.unitsAt s.scale : ℚ) < s.units + 1 := by linarith
    exact_mod_cast this
  have hle : (c.unitsAt s.scale : ℚ) ≤ s.units := by
    have : c.unitsAt s.scale ≤ s.units := by omega
    exact_mod_cast this
  rw [unitsAt_eq c hscale, ← toRat_mul_pow s] at hle
  exact le_of_mul_le_mul_right hle hpos

/-- At one scale a larger value is not rounded to less, as two neighbours are not both even. -/
theorem RoundsEven.le_of_scale_eq (hr : RoundsEven x r) (hs : RoundsEven y s) (h : x ≤ y)
    (hscale : r.scale = s.scale) : r.toRat ≤ s.toRat := by
  have hpos := ten_pow_pos s.scale
  have hxy : x * 10 ^ s.scale ≤ y * 10 ^ s.scale := mul_le_mul_of_nonneg_right h hpos.le
  have hnear := abs_le.1 hr.nearest
  have hnear' := abs_le.1 hs.nearest
  have htie := hr.even
  rw [hscale] at hnear htie
  have hunits : r.units ≤ s.units := by
    by_contra hmore
    have hstep : (s.units : ℚ) + 1 ≤ r.units := by
      have : s.units + 1 ≤ r.units := by omega
      exact_mod_cast this
    have hup : Even r.units := htie (by rw [abs_of_nonneg] <;> linarith)
    have hdown : Even s.units := hs.even (by rw [abs_of_nonpos] <;> linarith)
    have hnext : r.units = s.units + 1 := by
      have : (r.units : ℚ) = s.units + 1 := by linarith
      exact_mod_cast this
    rw [hnext] at hup
    exact (Int.even_add_one.1 hup) hdown
  rw [toRat, toRat, hscale]
  exact div_le_div_of_nonneg_right (by exact_mod_cast hunits) hpos.le

/-- A value from zero on takes 96 bits at each scale up to that of its rounding, for it is
not rounded up to an even number that does not fit. -/
theorem RoundsEven.mul_pow_lt_of_scale_lt (hs : RoundsEven y s) {k : ℕ} (finer : k < s.scale)
    (hy : 0 ≤ y) : y * 10 ^ (k + 1) < 2 ^ 96 - 1 / 2 := by
  have hpow : (10 : ℚ) ^ s.scale = 10 ^ (k + 1) * 10 ^ (s.scale - (k + 1)) := by
    rw [← pow_add, Nat.add_sub_cancel' finer]
  have hmore : (1 : ℚ) ≤ 10 ^ (s.scale - (k + 1)) := one_le_pow₀ (by norm_num)
  have hgrows : y * 10 ^ (k + 1) ≤ y * 10 ^ s.scale := by
    rw [hpow, ← mul_assoc]
    exact le_mul_of_one_le_right (mul_nonneg hy (ten_pow_pos _).le) hmore
  have hnear := abs_le.1 hs.nearest
  by_contra hlarge
  have hfits := abs_le.1 (abs_toRat_mul_le (c := s) (s := s.scale) le_rfl)
  rw [toRat_mul_pow] at hfits
  have hlast : (s.units : ℚ) = 2 ^ 96 - 1 := by linarith
  have heven := hs.even (by rw [abs_of_nonpos] <;> linarith)
  have hunits : s.units = 2 ^ 96 - 1 := by exact_mod_cast hlast
  rw [hunits, Int.even_iff] at heven
  norm_num at heven

/-- **Order across scales**: a smaller value that is rounded at a smaller scale. -/
theorem RoundsEven.le_of_scale_lt (hr : RoundsEven x r) (hs : RoundsEven y s) (h : x ≤ y)
    (finer : r.scale < s.scale) : r.toRat ≤ s.toRat := by
  by_cases hexact : r.toRat = x
  · exact hs.toRounds.le_of_le finer.le (hexact ▸ h)
  have hroom := hr.room hexact
  have hpos := ten_pow_pos (r.scale + 1)
  rcases le_or_gt 0 x with hx | hx
  · -- the larger value would have given up that digit too
    have hlt := hs.mul_pow_lt_of_scale_lt finer (hx.trans h)
    rw [abs_of_nonneg (mul_nonneg hx hpos.le)] at hroom
    have hxy : x * 10 ^ (r.scale + 1) ≤ y * 10 ^ (r.scale + 1) :=
      mul_le_mul_of_nonneg_right h hpos.le
    linarith
  · -- what the smaller value is rounded to lies below all decimals with that digit
    rw [abs_of_neg (mul_neg_of_neg_of_pos hx hpos), pow_succ (10 : ℚ), ← mul_assoc] at hroom
    have hnear := abs_le.1 hr.nearest
    have hunits : (r.units : ℚ) ≤ -7922816251426433759354395034 := by
      have : (r.units : ℚ) < -7922816251426433759354395033 := by linarith
      have : r.units < -7922816251426433759354395033 := by exact_mod_cast this
      have : r.units ≤ -7922816251426433759354395034 := by omega
      exact_mod_cast this
    have hfits := abs_le.1 (abs_toRat_mul_le (c := s) (s := r.scale + 1) finer)
    have hfar : r.toRat * 10 ^ (r.scale + 1) = r.units * 10 := by
      rw [pow_succ, ← mul_assoc, toRat_mul_pow]
    refine le_of_mul_le_mul_right ?_ hpos
    rw [hfar]
    linarith

/-- **Rounding keeps the order**, whatever the scales. -/
theorem RoundsEven.mono (hr : RoundsEven x r) (hs : RoundsEven y s) (h : x ≤ y) :
    r.toRat ≤ s.toRat := by
  rcases lt_trichotomy r.scale s.scale with hlt | heq | hgt
  · exact hr.le_of_scale_lt hs h hlt
  · exact hr.le_of_scale_eq hs h heq
  · have hneg := hs.neg.le_of_scale_lt hr.neg (neg_le_neg h) hgt
    rw [toRat_neg, toRat_neg] at hneg
    exact neg_le_neg_iff.1 hneg

end

/-- **Sums keep the order**: what is more in sum with a decimal is not rounded to less. -/
theorem add?_mono {a b c r s : Decimal} (hr : a.add? c = some r) (hs : b.add? c = some s)
    (h : a.toRat ≤ b.toRat) : r.toRat ≤ s.toRat :=
  (roundsEven_of_add? hr).mono (roundsEven_of_add? hs) (add_le_add_left h c.toRat)

end Decimal

end FiatRamp
