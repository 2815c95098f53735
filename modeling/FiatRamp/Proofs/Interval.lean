import FiatRamp.Proofs.Monotone
import FiatRamp.Proofs.Overflow
import FiatRamp.Proofs.Staleness

/-!
# FiatRamp.Proofs.Interval

Which amounts of a transfer pass the full check.

Where an amount passes, every smaller one passes that the lower limit keeps:
its total is not too large (`Decimal.exists_add?_of_le`), and though totals are
rounded before the balance is asked to cover them, a smaller one is not rounded
to more.  So the amounts that pass are those between two bounds
(`Engine.executable_interval`).
-/

namespace FiatRamp

/-! ## Smaller sums -/

/-- **Overflow is closed upwards**: where a decimal has a sum, a smaller one from zero on
has one too, and it is not larger. -/
theorem Decimal.exists_add?_of_le {a b fee s : Decimal} (pos : 0 ≤ a.toRat)
    (le : a.toRat ≤ b.toRat) (h : b.add? fee = some s) :
    ∃ r, a.add? fee = some r ∧ r.toRat ≤ s.toRat := by
  cases hsum : a.add? fee with
  | some r => exact ⟨r, rfl, add?_mono hsum h le⟩
  | none =>
      have hlarge := add?_eq_none_iff.1 hsum
      have hfits : ¬ (2 : ℚ) ^ 96 - 1 / 2 ≤ |b.toRat + fee.toRat| := by
        rw [← add?_eq_none_iff, h]
        simp
      rw [not_le, abs_lt] at hfits
      -- a fee alone is never too large
      have hfee := abs_le.1 (abs_toRat_mul_le (c := fee) (s := 0) (Nat.zero_le _))
      rw [pow_zero, mul_one] at hfee
      have hsmall : |a.toRat + fee.toRat| < 2 ^ 96 - 1 / 2 := by
        rw [abs_lt]
        constructor <;> linarith
      exact (not_le_of_gt hsmall hlarge).elim

/-- The total of a smaller amount. -/
theorem Money.exists_add_of_le {a b fee total : Money} (same : a.currency = b.currency)
    (pos : 0 ≤ a.worth) (le : a.worth ≤ b.worth) (h : b.add fee = .ok total) :
    ∃ less, a.add fee = .ok less ∧ less.currency = total.currency ∧ less.worth ≤ total.worth := by
  obtain ⟨hfee, htotal, hsum⟩ := add_eq_ok_iff.1 h
  obtain ⟨r, hr, hle⟩ := Decimal.exists_add?_of_le pos le hsum
  refine ⟨⟨r, a.currency⟩, add_eq_ok_iff.2 ⟨same.trans hfee, rfl, hr⟩, ?_, hle⟩
  exact same.trans htotal.symm

/-! ## Smaller amounts -/

section

variable {p : Pending} {a b : Money} (same : a.currency = b.currency) (pos : 0 < a.worth)
  (le : a.worth ≤ b.worth)

include same pos le

/-- A smaller amount that the lower limit keeps lies within the limits. -/
theorem Pending.classifyAmount_of_le
    (reached : ∀ bound, p.minLimit = .limited bound → bound.worth ≤ a.worth)
    (h : Pending.classifyAmount { p with amount := b } = .ok .canExecute) :
    Pending.classifyAmount { p with amount := a } = .ok .canExecute := by
  rw [classifyAmount_eq_iff, Limit.judges_canExecute_iff] at h ⊢
  obtain ⟨hweighs, hreached, hobserved⟩ := h
  refine ⟨⟨hweighs.min_known, hweighs.max_known, pos.ne'⟩, ?_, ?_⟩
  · intro bound hbound
    obtain ⟨hnative, -⟩ := hreached bound hbound
    exact ⟨same.trans hnative, reached bound hbound⟩
  · intro bound hbound
    obtain ⟨hnative, hmax⟩ := hobserved bound hbound
    exact ⟨same.trans hnative, le.trans hmax⟩

/-- A balance that covers an amount covers a smaller one. -/
theorem Pending.classifyBalance_of_le
    (h : Pending.classifyBalance { p with amount := b } = .ok .canExecute) :
    Pending.classifyBalance { p with amount := a } = .ok .canExecute := by
  rw [classifyBalance_eq_canExecute_iff] at h ⊢
  obtain ⟨total, htotal, hcovers⟩ := h
  obtain ⟨less, hless, hcurrency, hle⟩ := Money.exists_add_of_le same pos.le le htotal
  obtain ⟨hbalance, hcovered⟩ := Money.isGreater_eq_ok_iff.1 hcovers
  refine ⟨less, hless, Money.isGreater_eq_ok_iff.2 ⟨hcurrency.trans hbalance, ?_⟩⟩
  have hmax : total.worth ≤ p.availableBalance.worth := by simpa using hcovered
  simpa using hle.trans hmax

/-- A smaller amount that the lower limit keeps passes where a larger one does. -/
theorem Route.assess_of_le {route : Route}
    (reached : ∀ bound, p.minLimit = .limited bound → bound.worth ≤ a.worth)
    (h : route.assess { p with amount := b } = .ok .canExecute) :
    route.assess { p with amount := a } = .ok .canExecute := by
  rw [assess_eq_canExecute_iff] at h ⊢
  obtain ⟨hamount, hbalance⟩ := h
  exact ⟨Pending.classifyAmount_of_le same pos le reached hamount,
    fun haction => Pending.classifyBalance_of_le same pos le (hbalance haction)⟩

end

/-- An amount that the full check lets pass in some world is one the route lets pass. -/
theorem Route.assess_of_validateAll {ctx : EngineContext σ} {route : Route} {p q : Pending}
    {w : World σ} (h : (((route.engine ctx).validateAll p).run.run w).1 = .ok q)
    (passed : q.verdict = .canExecute) : route.assess p = .ok .canExecute := by
  rw [run_validateAll] at h
  cases hassess : route.assess p with
  | error => simp [hassess, Except.map, Except.mapError] at h
  | ok verdict =>
      rw [hassess] at h
      cases h
      rw [show verdict = .canExecute from passed]

/-- **The amounts that pass form an interval**: where the full check lets an amount pass, it
lets every smaller one from above zero pass that the lower limit keeps, whatever the fee,
the balance and the limits.  So it lets every amount pass that lies between two that pass. -/
theorem Engine.executable_interval {ctx : EngineContext σ} {e : Engine σ}
    (builtIn : e.IsBuiltIn ctx) (suits : e.checkAccounts = .ok ()) (p : Pending) {b c : Money}
    (same : b.currency = c.currency) (pos : 0 < b.worth) (le : b.worth ≤ c.worth) {w : World σ}
    {q : Pending} (h : ((e.validateAll { p with amount := c }).run.run w).1 = .ok q)
    (passed : q.verdict = .canExecute) :
    ((∀ bound, p.minLimit = .limited bound → bound.worth ≤ b.worth) →
        e.LetsPass { p with amount := b }) ∧
      ∀ a : Money, a.currency = c.currency → a.worth ≤ b.worth →
        e.LetsPass { p with amount := a } → e.LetsPass { p with amount := b } := by
  obtain ⟨route, rfl⟩ := builtIn.exists_route suits
  have hassess := Route.assess_of_validateAll h passed
  have hdown : (∀ bound, p.minLimit = .limited bound → bound.worth ≤ b.worth) →
      (route.engine ctx).LetsPass { p with amount := b } := fun hreached =>
    Flow.letsPass_of_assess (Route.assess_of_le same pos le hreached hassess)
  refine ⟨hdown, fun a _ hab hpasses => hdown fun bound hbound => ?_⟩
  -- what passes below has reached the lower limit
  obtain ⟨hamount, -⟩ := Route.assess_eq_canExecute_iff.1
    (Route.assess_of_validateAll (hpasses w) rfl)
  obtain ⟨-, hreached, -⟩ :=
    Limit.judges_canExecute_iff.1 (Pending.classifyAmount_eq_iff.1 hamount)
  exact (hreached bound hbound).2.trans hab

/-- Whole units are worth their number. -/
theorem Money.worth_ofMajor (units : Int64) (currency : Currency) :
    (ofMajor units currency).worth = units.toInt := by
  simp [worth, ofMajor, Decimal.toRat, Decimal.ofInt64]

namespace Sample

/-- Forty pence that the bank pays for a transfer. -/
def bonus : Money where
  value :=
    { units := -4
      scale := 1
      natAbs_units_lt := by decide
      scale_le := by decide }
  currency := sterling

/-- A transfer on which the bank pays forty pence, from an account with the largest amount. -/
def subsidised : Pending := { largestTransfer with feeAmount := bonus, availableBalance := mostPounds }

end Sample

/-- The largest amount passes after its total was rounded to a whole number, so five pounds
pass whose total has a digit after the point. -/
theorem Engine.executable_interval_subsidised :
    ((Sample.unboundedWithdrawal.validateAll
        { Sample.subsidised with amount := Sample.mostPounds }).run.run (.start ())).1 =
      .ok { Sample.subsidised with amount := Sample.mostPounds, verdict := .canExecute } ∧
    Sample.unboundedWithdrawal.LetsPass { Sample.subsidised with amount := Sample.pounds 5 } := by
  have hone : (Sample.pounds 1).worth = 1 := Money.worth_ofMajor 1 Sample.sterling
  have hfive : (Sample.pounds 5).worth = 5 := Money.worth_ofMajor 5 Sample.sterling
  have hmost : Sample.mostPounds.worth = 79228162514264337593543950335 := by
    norm_num [Money.worth, Decimal.toRat, Sample.mostPounds, Sample.pounds, Money.ofMajor,
      Decimal.ofInt64]
  have hpasses : ((Sample.unboundedWithdrawal.validateAll
      { Sample.subsidised with amount := Sample.mostPounds }).run.run (.start ())).1 =
        .ok { Sample.subsidised with amount := Sample.mostPounds, verdict := .canExecute } := by
    decide +kernel
  obtain ⟨hdown, -⟩ := Engine.executable_interval Sample.isBuiltIn_unboundedWithdrawal rfl
    Sample.subsidised (b := Sample.pounds 5) (c := Sample.mostPounds) rfl (by rw [hfive]; norm_num)
    (by rw [hfive, hmost]; norm_num) hpasses rfl
  refine ⟨hpasses, hdown fun bound hbound => ?_⟩
  cases hbound
  rw [hone, hfive]
  norm_num

end FiatRamp
