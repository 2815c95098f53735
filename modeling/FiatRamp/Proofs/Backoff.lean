import FiatRamp.Proofs.Readiness

/-!
# FiatRamp.Proofs.Backoff

How the exponential schedule backs off.

The schedule computes on 64-bit milliseconds and stops at the largest one in
every step.  Its least wait is all the same the base, doubled for every attempt
before and cut at the cap, as if numbers had no bound (`Delay.leastMillis_eq`):
whatever stops short of the true number lies above the cap.  The random part
reaches every millisecond of its range (`Delay.exists_backoffMillis_eq`), and so
the waits are exactly those from the least one to a tenth more
(`Delay.backs_off_exponentially`).
-/

namespace FiatRamp.Delay

variable {base cap : UInt64} {attempt later draw least ms n : Nat}

/-! ## The least wait -/

/-- The base, doubled for every attempt before and cut at the cap, in numbers that have no
bound. -/
def cappedDoubling (attempt : Nat) (base cap : UInt64) : Nat :=
  min (base.toNat * 2 ^ (attempt - 1)) cap.toNat

theorem maxWord_eq : maxWord = 2 ^ 64 - 1 := rfl

/-- Below a cap it does not show that a number stops at the largest one. -/
theorem min_saturate (n : Nat) (cap : UInt64) : min (saturate n) cap.toNat = min n cap.toNat := by
  have hcap := toNat_le_maxWord cap
  unfold saturate
  omega

/-- Nor does it show that the power does. -/
theorem min_mul_saturatedPower (n : Nat) (base cap : UInt64) :
    min (base.toNat * saturatedPower n) cap.toNat = min (base.toNat * 2 ^ n) cap.toNat := by
  by_cases hlarge : 64 ≤ n
  · have hpower : saturatedPower n = maxWord := if_pos hlarge
    have hword : maxWord ≤ 2 ^ n := by
      have hmono : 2 ^ 64 ≤ 2 ^ n := Nat.pow_le_pow_right (by decide) hlarge
      rw [maxWord_eq]
      omega
    rcases Nat.eq_zero_or_pos base.toNat with hzero | hpos
    · simp [hzero]
    · -- both products lie above every cap
      have hcap := toNat_le_maxWord cap
      have hleft : maxWord ≤ base.toNat * maxWord := Nat.le_mul_of_pos_left _ hpos
      have hright : 2 ^ n ≤ base.toNat * 2 ^ n := Nat.le_mul_of_pos_left _ hpos
      rw [hpower]
      omega
  · have hpower : saturatedPower n = 2 ^ n := if_neg hlarge
    rw [hpower]

/-- **The least wait never wraps**: it is the one that numbers without a bound give. -/
theorem leastMillis_eq (hattempt : 1 ≤ attempt) :
    leastMillis attempt base cap = cappedDoubling attempt base cap := by
  have hne : attempt ≠ 0 := by omega
  rw [leastMillis, if_neg hne, min_saturate, min_mul_saturatedPower, cappedDoubling]

/-- The least wait does not fall from attempt to attempt. -/
theorem cappedDoubling_mono (hle : attempt ≤ later) :
    cappedDoubling attempt base cap ≤ cappedDoubling later base cap := by
  have hpower : 2 ^ (attempt - 1) ≤ 2 ^ (later - 1) :=
    Nat.pow_le_pow_right (by decide) (by omega)
  have hproduct := Nat.mul_le_mul_left base.toNat hpower
  unfold cappedDoubling
  omega

/-- A least wait that has reached the cap stays there. -/
theorem cappedDoubling_eq_cap (hle : attempt ≤ later)
    (hcap : cappedDoubling attempt base cap = cap.toNat) :
    cappedDoubling later base cap = cap.toNat := by
  have hmono : cappedDoubling attempt base cap ≤ cappedDoubling later base cap :=
    cappedDoubling_mono hle
  have hbound : cappedDoubling later base cap ≤ cap.toNat := Nat.min_le_right _ _
  omega

/-! ## The random part -/

/-- The random part is below a tenth of the least wait. -/
theorem jitterMillis_le (least draw : Nat) : jitterMillis least draw ≤ least / 10 - 1 := by
  unfold jitterMillis
  split
  · next hpos =>
      have hbelow := Nat.mod_lt draw hpos
      omega
  · exact Nat.zero_le _

/-- Every number of milliseconds below a tenth is drawn. -/
theorem jitterMillis_of_le (h : n ≤ least / 10 - 1) : jitterMillis least n = n := by
  unfold jitterMillis
  split
  · next hpos => exact Nat.mod_eq_of_lt (by omega)
  · omega

/-- No wait is longer than the least one by a tenth, nor than the largest number there is. -/
theorem backoffMillis_le :
    backoffMillis attempt base cap draw ≤
      min (leastMillis attempt base cap + (leastMillis attempt base cap / 10 - 1)) maxWord := by
  have hjitter := jitterMillis_le (leastMillis attempt base cap) draw
  simp only [backoffMillis, saturate]
  omega

/-- Every wait in between comes about. -/
theorem exists_backoffMillis_eq (hleast : leastMillis attempt base cap ≤ ms)
    (hmost : ms ≤
      min (leastMillis attempt base cap + (leastMillis attempt base cap / 10 - 1)) maxWord) :
    ∃ draw, backoffMillis attempt base cap draw = ms := by
  refine ⟨ms - leastMillis attempt base cap, ?_⟩
  have hjitter : jitterMillis (leastMillis attempt base cap) (ms - leastMillis attempt base cap) =
      ms - leastMillis attempt base cap := jitterMillis_of_le (by omega)
  simp only [backoffMillis, saturate, hjitter]
  omega

/-- Before the first attempt nothing is waited. -/
theorem backoffMillis_zero : backoffMillis 0 base cap draw = 0 := by
  simp [backoffMillis, leastMillis, jitterMillis, saturate]

/-! ## Waits -/

/-- The waits of a schedule after an attempt are exactly those from `least` to `most`, in
whole milliseconds. -/
structure Spreads (delay : Delay) (attempt least most : Nat) : Prop where
  within : ∀ draw, ∃ ms, delay.after attempt draw = .ofMillis ms ∧ least ≤ ms ∧ ms ≤ most
  reached : ∀ ms, least ≤ ms → ms ≤ most → ∃ draw, delay.after attempt draw = .ofMillis ms

/-- **Waits back off exponentially**: after an attempt they spread from the base, doubled
for every attempt before and cut at the cap, over up to a tenth more, but never beyond the
largest number of 64 bits.  The least wait does not fall, and once at the cap it stays
there.  Before the first attempt there is no wait. -/
theorem backs_off_exponentially (base cap : UInt64) :
    (∀ attempt, 1 ≤ attempt →
      let least := cappedDoubling attempt base cap
      (exponential base cap).Spreads attempt least (min (least + (least / 10 - 1)) (2 ^ 64 - 1))) ∧
    (∀ attempt later, 1 ≤ attempt → attempt ≤ later →
      cappedDoubling attempt base cap ≤ cappedDoubling later base cap ∧
      (cappedDoubling attempt base cap = cap.toNat →
        cappedDoubling later base cap = cap.toNat)) ∧
    ∀ draw, (exponential base cap).after 0 draw = .ofMillis 0 := by
  refine ⟨fun attempt hattempt => ?_, fun attempt later _ hle => ?_, fun draw => ?_⟩
  · have hleast : leastMillis attempt base cap = cappedDoubling attempt base cap :=
      leastMillis_eq hattempt
    constructor
    · intro draw
      have hlow : leastMillis attempt base cap ≤ backoffMillis attempt base cap draw :=
        leastMillis_le_backoffMillis
      have hhigh : backoffMillis attempt base cap draw ≤
          min (leastMillis attempt base cap + (leastMillis attempt base cap / 10 - 1)) maxWord :=
        backoffMillis_le
      rw [hleast] at hlow hhigh
      exact ⟨backoffMillis attempt base cap draw, rfl, hlow, hhigh⟩
    · intro ms hlow hhigh
      rw [← hleast] at hlow hhigh
      obtain ⟨draw, hdraw⟩ := exists_backoffMillis_eq hlow hhigh
      exact ⟨draw, congrArg Duration.ofMillis hdraw⟩
  · exact ⟨cappedDoubling_mono hle, cappedDoubling_eq_cap hle⟩
  · exact congrArg Duration.ofMillis backoffMillis_zero

/-- The fourth wait from 150 milliseconds on takes one second and a fifth, and is cut at a
second, to which less than a tenth is added; with the largest base and cap there is no
room for it. -/
theorem backs_off_exponentially_capped :
    (exponential 150 1000).Spreads 4 1000 1099 ∧
      (exponential 18446744073709551615 18446744073709551615).Spreads 4294967295
        18446744073709551615 18446744073709551615 ∧
      cappedDoubling 3 150 1000 = 600 ∧ cappedDoubling 4000 150 1000 = 1000 := by
  have hcapped := (backs_off_exponentially 150 1000).1 4 (by decide)
  have hlargest :=
    (backs_off_exponentially 18446744073709551615 18446744073709551615).1 4294967295 (by decide)
  have hleast : cappedDoubling 4294967295 18446744073709551615 18446744073709551615 =
      18446744073709551615 :=
    ((backs_off_exponentially 18446744073709551615 18446744073709551615).2.1 1 4294967295
      (by decide) (by decide)).2 (by decide)
  have hlater : cappedDoubling 4000 150 1000 = 1000 :=
    ((backs_off_exponentially 150 1000).2.1 4 4000 (by decide) (by decide)).2 (by decide)
  simp only [hleast] at hlargest
  exact ⟨hcapped, hlargest, by decide, hlater⟩

end FiatRamp.Delay
