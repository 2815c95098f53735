import FiatRamp.Proofs.Rounding
import FiatRamp.Proofs.Safety

/-!
# FiatRamp.Proofs.Overflow

When a validation comes to no verdict.

The sum of two decimals fails exactly where their exact sum, rounded to a whole
number, takes more than 96 bits (`Decimal.add?_eq_none_iff`).  Within one
currency that is the only way in which holding a transfer against its limits
and its balance can fail (`Pending.classifyBalance_eq_error_iff`), so a
validation fails for a withdrawal of an amount within its limits whose total is
too large, and for no other transfer (`Engine.validation_fails_iff`).
-/

namespace FiatRamp

namespace Decimal

/-! ## Rounding up to a bound -/

/-- **Reaching an even bound**: a rounded quotient reaches it from half a step below
it on, as a tie goes to the even one. -/
theorem le_natAbs_divHalfEven_iff (n : ℤ) {d b : ℕ} (hd : 0 < d) (hb : b % 2 = 0) (hpos : 0 < b) :
    b ≤ (divHalfEven n d).natAbs ↔ (2 * b - 1) * d ≤ 2 * n.natAbs := by
  have hdiv := Nat.div_add_mod n.natAbs d
  have hmod := Nat.mod_lt n.natAbs hd
  rw [natAbs_divHalfEven]
  generalize n.natAbs / d = q at *
  generalize n.natAbs % d = r at *
  rw [← hdiv]
  have hbound : (2 * b - 1) * d + d = 2 * (d * b) := by
    rw [← Nat.succ_mul, Nat.succ_eq_add_one, Nat.sub_add_cancel (by omega)]
    ring
  rcases Nat.lt_trichotomy (q + 1) b with hlt | heq | hgt
  · have hstep : d * (q + 2) ≤ d * b := Nat.mul_le_mul_left d hlt
    rw [mul_add] at hstep
    constructor
    · split <;> omega
    · omega
  · have hstep : d * b = d * q + d := by rw [← heq, mul_add, mul_one]
    constructor
    · split <;> omega
    · intro h
      rw [if_pos (by omega)]
      omega
  · have hstep : d * b ≤ d * q := Nat.mul_le_mul_left d (by omega)
    constructor
    · omega
    · split <;> omega

/-! ## Sums that are too large -/

/-- Shortening fails if what is left without any digit after the point does not fit. -/
theorem fit_eq_none_iff {n : ℤ} {kept dropped : ℕ} (hkept : kept ≤ 28) :
    fit n kept dropped = none ↔ (2 ^ 97 - 1) * 10 ^ (kept + dropped) ≤ 2 * n.natAbs := by
  have htoo : ∀ k s, s ≤ 28 → (ofUnits? (divHalfEven n (10 ^ k)) s = none ↔
      (2 ^ 97 - 1) * 10 ^ k ≤ 2 * n.natAbs) := by
    intro k s hs
    have hreach := le_natAbs_divHalfEven_iff n (d := 10 ^ k) (b := 2 ^ 96) (by positivity)
      (by norm_num) (by norm_num)
    rw [show 2 * 2 ^ 96 - 1 = 2 ^ 97 - 1 by norm_num] at hreach
    rw [← hreach, ofUnits?]
    simp [hs]
  induction kept generalizing dropped with
  | zero =>
      rw [Nat.zero_add]
      exact htoo dropped 0 (Nat.zero_le _)
  | succ kept ih =>
      have hrest : fit n kept (dropped + 1) = none ↔ _ := ih (by omega)
      have hscale : kept + (dropped + 1) = kept + 1 + dropped := by omega
      rw [hscale] at hrest
      refine Iff.trans ?_ hrest
      rw [fit]
      cases hfirst : ofUnits? (divHalfEven n (Nat.pow 10 dropped)) (kept + 1) with
      | none => rfl
      | some r =>
          -- what fits with a digit more fits without it
          rw [Nat.pow_eq] at hfirst
          have hsmall := mt (htoo dropped (kept + 1) hkept).2 (by simp [hfirst])
          refine iff_of_false (by simp) fun hnone => hsmall (le_trans ?_ (hrest.1 hnone))
          exact Nat.mul_le_mul_left _ (Nat.pow_le_pow_right (by norm_num) (by omega))

/-- **Overflow**: two decimals have no sum exactly if their exact sum, rounded to a
whole number, takes more than 96 bits. -/
theorem add?_eq_none_iff {a b : Decimal} :
    a.add? b = none ↔ (2 : ℚ) ^ 96 - 1 / 2 ≤ |a.toRat + b.toRat| := by
  have hdecimal : ∀ d : Decimal, ¬ (2 : ℚ) ^ 96 - 1 / 2 ≤ |d.toRat| := by
    intro d
    have hle := abs_toRat_mul_le (c := d) (s := 0) (Nat.zero_le _)
    rw [pow_zero, mul_one] at hle
    linarith
  unfold add?
  split
  · next ha => simpa [toRat_eq_zero ha] using hdecimal b
  split
  · next hb => simpa [toRat_eq_zero hb] using hdecimal a
  · have hscale := Nat.max_le.2 ⟨a.scale_le, b.scale_le⟩
    have hpos := ten_pow_pos (max a.scale b.scale)
    dsimp only
    rw [fit_eq_none_iff hscale, Nat.add_zero, toRat_add_toRat, abs_div, abs_of_pos hpos,
      le_div_iff₀ hpos, ← Int.cast_abs, Int.abs_eq_natAbs, Int.cast_natCast,
      ← Nat.cast_le (α := ℚ)]
    push_cast
    constructor <;> intro h <;> linarith

end Decimal

namespace Money

variable {a b : Money} (same : a.currency = b.currency)

include same

/-- Two amounts of one currency can be compared. -/
theorem exists_isGreater : ∃ r, a.isGreater b = .ok r :=
  ⟨decide (b.worth < a.worth), isGreater_eq_ok_iff.2 ⟨same, decide_eq_true_iff⟩⟩

/-- Two amounts of one currency have a sum unless it is too large. -/
theorem add_eq_error_iff {cause : MoneyError} :
    a.add b = .error cause ↔
      cause = .overflow a b ∧ (2 : ℚ) ^ 96 - 1 / 2 ≤ |a.worth + b.worth| := by
  rw [worth, worth, ← Decimal.add?_eq_none_iff, add, mismatch, if_pos same]
  cases hsum : a.value.add? b.value with
  | none => simp [bind, Except.bind, eq_comm]
  | some total => simp [bind, Except.bind]

end Money

/-! ## Classification -/

namespace Pending

/-- All the money that the classification of a transfer looks at is of one currency. -/
structure InOneCurrency (p : Pending) : Prop where
  fee : p.amount.currency = p.feeAmount.currency
  balance : p.amount.currency = p.availableBalance.currency
  min : ∀ bound, p.minLimit = .limited bound → p.amount.currency = bound.currency
  max : ∀ bound, p.maxLimit = .limited bound → p.amount.currency = bound.currency

/-- The total of amount and fee, rounded to a whole number, takes more than 96 bits. -/
def Overflows (p : Pending) : Prop := (2 : ℚ) ^ 96 - 1 / 2 ≤ |p.amount.worth + p.feeAmount.worth|

section

variable {p : Pending} (h : p.InOneCurrency)

include h

/-- Within one currency an amount can be held against the limits. -/
theorem InOneCurrency.exists_classifyAmount : ∃ verdict, p.classifyAmount = .ok verdict := by
  have hjudges := judges_classifyAmount p
  cases hverdict : p.classifyAmount with
  | ok verdict => exact ⟨verdict, rfl⟩
  | error cause =>
      rw [hverdict] at hjudges
      cases hjudges with
      | foreignMin _ hlimited hforeign => exact (hforeign (h.min _ hlimited)).elim
      | foreignMax _ _ hlimited hforeign => exact (hforeign (h.max _ hlimited)).elim

/-- Within one currency holding a transfer against the balance fails on overflow only. -/
theorem InOneCurrency.classifyBalance_eq_error_iff {cause : MoneyError} :
    p.classifyBalance = .error cause ↔
      cause = .overflow p.amount p.feeAmount ∧ p.Overflows := by
  rw [Overflows, ← Money.add_eq_error_iff h.fee, classifyBalance, totalOutgoing]
  cases htotal : p.amount.add p.feeAmount with
  | error => simp [bind, Except.bind]
  | ok total =>
      obtain ⟨-, htotal, -⟩ := Money.add_eq_ok_iff.1 htotal
      obtain ⟨greater, hgreater⟩ := Money.exists_isGreater (htotal.trans h.balance)
      cases greater <;> simp [hgreater, bind, Except.bind, pure, Except.pure]

end

end Pending

/-- A validation on the engine overflows: it is one of a withdrawal whose amount keeps
its limits and whose total is too large. -/
def Engine.OverflowsOn (e : Engine σ) (p : Pending) : Prop :=
  e.name = Withdrawal.engineName ∧ p.classifyAmount = .ok .canExecute ∧ p.Overflows

namespace Route

variable (ctx : EngineContext σ) (route : Route) {p : Pending}

/-- Within one currency a validation comes to a verdict unless it overflows. -/
theorem assess_eq_error_iff (h : p.InOneCurrency) {cause : MoneyError} :
    route.assess p = .error cause ↔
      cause = .overflow p.amount p.feeAmount ∧ (route.engine ctx).OverflowsOn p := by
  obtain ⟨verdict, hverdict⟩ := h.exists_classifyAmount
  unfold assess
  rw [Engine.OverflowsOn, name_engine, hverdict]
  cases huntouched : p.isUntouched with
  | true =>
      have hpass : verdict ≠ .canExecute := by
        rintro rfl
        simp [isUntouched_eq_false hverdict] at huntouched
      simp [hpass]
  | false =>
      cases route with
      | deposit => simp [name, Deposit.engineName, Withdrawal.engineName]
      | withdrawal =>
          by_cases hpass : verdict = .canExecute
          · simp [hpass, name, bind, Except.bind, h.classifyBalance_eq_error_iff]
          · simp [hpass, bind, Except.bind]

end Route

/-- **Validations fail on overflow only**: as long as all money is of one currency, to
validate the amount comes to a verdict, and so does to validate everything unless it
overflows. -/
theorem Engine.validation_fails_iff {ctx : EngineContext σ} {e : Engine σ}
    (builtIn : e.IsBuiltIn ctx) (suits : e.checkAccounts = .ok ()) {p : Pending}
    (h : p.InOneCurrency) (w : World σ) :
    (∃ verdict, ((e.validateAmount p).run.run w).1 = .ok { p with verdict }) ∧
      (e.OverflowsOn p →
        ((e.validateAll p).run.run w).1 = .error (.money (.overflow p.amount p.feeAmount))) ∧
      (¬ e.OverflowsOn p →
        ∃ verdict, ((e.validateAll p).run.run w).1 = .ok { p with verdict }) := by
  obtain ⟨route, rfl⟩ := builtIn.exists_route suits
  refine ⟨?_, fun hoverflows => ?_, fun hfits => ?_⟩
  · obtain ⟨verdict, hverdict⟩ := h.exists_classifyAmount
    rw [Route.run_validateAmount, Route.run_classifyAmount, hverdict]
    split
    · exact ⟨p.verdict, rfl⟩
    · exact ⟨verdict, rfl⟩
  · rw [Route.run_validateAll, (route.assess_eq_error_iff ctx h).2 ⟨rfl, hoverflows⟩]
    rfl
  · rw [Route.run_validateAll]
    cases hassess : route.assess p with
    | error cause => exact (hfits ((route.assess_eq_error_iff ctx h).1 hassess).2).elim
    | ok verdict => exact ⟨verdict, rfl⟩

namespace Sample

/-- The largest amount of pounds there is. -/
def mostPounds : Money where
  value :=
    { (pounds 0).value with
      units := 79228162514264337593543950335
      natAbs_units_lt := by decide }
  currency := sterling

/-- A custodian that lets any amount be withdrawn from one pound on. -/
def unbounded : Custodian Unit := fun request backend =>
  match request with
  | .limits currency _ => .done (.ok ⟨.ofMajor 1 currency, none⟩) backend
  | request => obliging request backend

/-- The engine that withdraws with its help. -/
def unboundedWithdrawal : Engine Unit := .withdrawal (context unbounded) cash bank

theorem isBuiltIn_unboundedWithdrawal : unboundedWithdrawal.IsBuiltIn (context unbounded) :=
  ⟨cash, bank, .inr rfl⟩

/-- The largest amount, on its way to the bank for a fee of two pounds. -/
def largestTransfer : Pending :=
  { Withdrawal.opening ⟨"Cash", sterling, pounds 100⟩ sterling ⟨pounds 1, none⟩ (pounds 2) with
    amount := mostPounds }

end Sample

/-- The total of the largest amount and a fee of two pounds is too large. -/
theorem Engine.validation_fails_iff_largest :
    Sample.largestTransfer.InOneCurrency ∧
      Sample.unboundedWithdrawal.OverflowsOn Sample.largestTransfer ∧
      ((Sample.unboundedWithdrawal.validateAll Sample.largestTransfer).run.run (.start ())).1 =
        .error (.money (.overflow Sample.mostPounds (Sample.pounds 2))) := by
  have hnative : Sample.largestTransfer.InOneCurrency :=
    ⟨rfl, rfl, fun bound hbound => by cases hbound; rfl, fun bound hbound => by cases hbound⟩
  have hoverflows : Sample.unboundedWithdrawal.OverflowsOn Sample.largestTransfer := by
    have hfee : (Sample.pounds 2).value.units = 2 := by decide
    refine ⟨rfl, by decide +kernel, ?_⟩
    change (2 : ℚ) ^ 96 - 1 / 2 ≤ |Sample.mostPounds.worth + (Sample.pounds 2).worth|
    simp only [Money.worth, Decimal.toRat, hfee, Sample.mostPounds]
    norm_num [Sample.pounds, Money.ofMajor, Decimal.ofInt64]
  obtain ⟨-, hfails, -⟩ :=
    Engine.validation_fails_iff Sample.isBuiltIn_unboundedWithdrawal rfl hnative (.start ())
  exact ⟨hnative, hoverflows, hfails hoverflows⟩

/-- **An overflow**: a flow on an account of one currency comes to no verdict on the
largest amount. -/
theorem Flow.validate_overflows :
    ∃ p₀ history s,
      History Sample.unboundedWithdrawal (.start ()) p₀ history s ∧ s.pending.InOneCurrency ∧
        (FlowCall.validate.apply Sample.unboundedWithdrawal s).1 =
          .error (.engine (.money (.overflow Sample.mostPounds (Sample.pounds 2)))) := by
  have hstart : start Sample.unboundedWithdrawal (.start ()) = (.ok _, _) := rfl
  have hhistory := history_drive hstart [.updateAmount Sample.mostPounds]
  refine ⟨_, _, _, hhistory, ?_, by decide +kernel⟩
  exact ⟨rfl, rfl, fun bound hbound => by cases hbound; rfl, fun bound hbound => by cases hbound⟩

end FiatRamp
