import FiatRamp.Proofs.Classification
import FiatRamp.Proofs.Route

/-!
# FiatRamp.Proofs.Verdict

What a passing verdict says about a transfer.

A verdict is a number of comparisons of money.  An amount that passes lies
within the limits, in their currency (`Pending.classifyAmount_eq_canExecute_iff`,
`Limit.keeps_lower_iff`, `Limit.keeps_upper_iff`); a withdrawal that passes has a
total the balance covers (`Pending.classifyBalance_eq_canExecute_iff`).  A validation
comes to one of these two verdicts, or to nothing new (`Route.assess_eq_ok_iff`).
-/

namespace FiatRamp

namespace Pending

/-- An amount passes if both bounds are known and keep it, and it is not zero. -/
theorem classifyAmount_eq_canExecute_iff {p : Pending} :
    p.classifyAmount = .ok .canExecute ↔
      (p.minLimit.isKnown = true ∧ p.maxLimit.isKnown = true) ∧ p.amount.isZero = false ∧
        isBelow p.amount p.minLimit = .ok false ∧ isAbove p.amount p.maxLimit = .ok false := by
  rw [classifyAmount_eq_iff, Limit.judges_canExecute_iff, isBelow_eq_false_iff,
    isAbove_eq_false_iff, Limit.isKnown_iff, Limit.isKnown_iff, ← Bool.not_eq_true,
    Money.isZero_iff]
  constructor
  · rintro ⟨hweighs, hkept⟩
    exact ⟨⟨hweighs.min_known, hweighs.max_known⟩, hweighs.nonzero, hkept⟩
  · rintro ⟨⟨hmin, hmax⟩, hnonzero, hkept⟩
    exact ⟨⟨hmin, hmax, hnonzero⟩, hkept⟩

/-- The balance covers a transfer if its total is a decimal that is not more. -/
theorem classifyBalance_eq_canExecute_iff {p : Pending} :
    p.classifyBalance = .ok .canExecute ↔
      ∃ total, p.totalOutgoing = .ok total ∧ total.isGreater p.availableBalance = .ok false := by
  unfold classifyBalance
  cases p.totalOutgoing with
  | error => simp [bind, Except.bind]
  | ok total =>
      cases h : total.isGreater p.availableBalance with
      | error => simp [bind, Except.bind, h]
      | ok greater => cases greater <;> simp [bind, Except.bind, pure, Except.pure, h]

end Pending

/-- The amount is not below the least amount of a transfer. -/
theorem Limit.keeps_lower_iff {amount : Money} {limits : TransferLimits} :
    Pending.isBelow amount (.lower limits) = .ok false ↔
      amount.currency = limits.min.currency ∧ limits.min.worth ≤ amount.worth := by
  rw [lower, Pending.isBelow, Money.isLess_eq_ok_iff]
  simp

/-- The amount is not above the greatest amount of a transfer, if there is one. -/
theorem Limit.keeps_upper_iff {amount : Money} {limits : TransferLimits} :
    Pending.isAbove amount (.upper limits) = .ok false ↔
      ∀ max ∈ limits.max, amount.currency = max.currency ∧ amount.worth ≤ max.worth := by
  unfold upper
  cases limits.max with
  | none => simp [Pending.isAbove]
  | some max =>
      rw [Pending.isAbove, Money.isGreater_eq_ok_iff]
      simp

namespace Route

variable {route : Route} {p : Pending} {verdict : Verdict}

/-- An amount that passes was entered. -/
theorem isUntouched_eq_false (h : p.classifyAmount = .ok .canExecute) : p.isUntouched = false := by
  obtain ⟨-, hnonzero, -⟩ := Pending.classifyAmount_eq_canExecute_iff.1 h
  simp [Pending.isUntouched, hnonzero]

/-- What a validation comes to: nothing new for a transfer nobody has touched, the verdict
on the balance for a withdrawal whose amount passes, and else the verdict on the amount. -/
theorem assess_eq_ok_iff :
    route.assess p = .ok verdict ↔
      p.isUntouched = true ∧ p.verdict = verdict ∨
      p.isUntouched = false ∧
        (p.classifyAmount = .ok verdict ∧ (route.action = .withdraw → verdict ≠ .canExecute) ∨
          route.action = .withdraw ∧ p.classifyAmount = .ok .canExecute ∧
            p.classifyBalance = .ok verdict) := by
  unfold assess
  cases huntouched : p.isUntouched with
  | true => simp
  | false =>
      cases route with
      | deposit => simp [action]
      | withdrawal =>
          cases hamount : p.classifyAmount with
          | error => simp [bind, Except.bind]
          | ok first =>
              by_cases hpass : first = .canExecute
              · simp only [bind, Except.bind, hpass, action, if_true]
                grind
              · simp only [bind, Except.bind, hpass, action, if_false]
                grind

/-- A transfer that passes is one whose amount passes and, of a withdrawal, whose
total the balance covers.  One nobody has touched does not pass. -/
theorem assess_eq_canExecute_iff :
    route.assess p = .ok .canExecute ↔
      p.classifyAmount = .ok .canExecute ∧
        (route.action = .withdraw → p.classifyBalance = .ok .canExecute) := by
  rw [assess_eq_ok_iff]
  constructor
  · rintro (⟨huntouched, hverdict⟩ | ⟨-, ⟨hamount, hdeposit⟩ | ⟨-, hamount, hbalance⟩⟩)
    · simp [Pending.isUntouched, hverdict] at huntouched
    · exact ⟨hamount, fun haction => (hdeposit haction rfl).elim⟩
    · exact ⟨hamount, fun _ => hbalance⟩
  · rintro ⟨hamount, hbalance⟩
    refine .inr ⟨isUntouched_eq_false hamount, ?_⟩
    by_cases haction : route.action = .withdraw
    · exact .inr ⟨haction, hamount, hbalance haction⟩
    · exact .inl ⟨hamount, fun hwithdraw => (haction hwithdraw).elim⟩

end Route

end FiatRamp
