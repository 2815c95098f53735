import FiatRamp.Proofs.Worth
import FiatRamp.Transfer.Pending

/-!
# FiatRamp.Proofs.Classification

The rule by which an amount is held against its limits.

`Limit.Judges` states the rule on exact values: what keeps an amount from
passing is looked at in a fixed order, and the first such thing decides.  A
currency that does not fit is found only where two amounts are compared, so
what was decided before hides it.  `Pending.classifyAmount_eq_iff` says that
classification follows the rule and comes to nothing else.
-/

namespace FiatRamp

/-! ## Comparing money -/

namespace Money

variable (a b : Money)

/-- Amounts are compared by value within one currency, and not at all otherwise. -/
theorem isLess_eq : a.isLess b = if a.currency = b.currency then .ok (a.worth < b.worth)
    else .error (.currencyMismatch a.currency b.currency) := by
  by_cases same : a.currency = b.currency
  · rw [if_pos same, isLess_eq_ok_iff]
    exact ⟨same, decide_eq_true_iff⟩
  · simp [isLess, compare, mismatch, same, Except.map]

theorem isGreater_eq : a.isGreater b = if a.currency = b.currency then .ok (b.worth < a.worth)
    else .error (.currencyMismatch a.currency b.currency) := by
  by_cases same : a.currency = b.currency
  · rw [if_pos same, isGreater_eq_ok_iff]
    exact ⟨same, decide_eq_true_iff⟩
  · simp [isGreater, compare, mismatch, same, Except.map]

end Money

/-! ## The rule -/

namespace Limit

/-- There is something to hold against limits that were fetched. -/
structure Weighs (amount : Money) (min max : Limit) : Prop where
  min_known : min ≠ .unknown
  max_known : max ≠ .unknown
  nonzero : amount.worth ≠ 0

/-- A lower limit keeps an amount. -/
def IsReached (min : Limit) (amount : Money) : Prop :=
  ∀ bound, min = .limited bound → amount.currency = bound.currency ∧ bound.worth ≤ amount.worth

/-- An upper limit keeps an amount. -/
def IsObserved (max : Limit) (amount : Money) : Prop :=
  ∀ bound, max = .limited bound → amount.currency = bound.currency ∧ amount.worth ≤ bound.worth

/-- **The rule of limits**: what comes of holding an amount against its limits, on exact
values.  Limits are inclusive, and the lower one comes first. -/
inductive Judges (amount : Money) (min max : Limit) : Except MoneyError Verdict → Prop where
  /-- A limit was not fetched. -/
  | unknown (missing : min = .unknown ∨ max = .unknown) : Judges amount min max (.ok .unknownError)
  /-- There is nothing to move, at whatever scale. -/
  | zero (min_known : min ≠ .unknown) (max_known : max ≠ .unknown) (zero : amount.worth = 0) :
      Judges amount min max (.ok .invalidAmount)
  | foreignMin {bound : Money} (weighs : Weighs amount min max) (limited : min = .limited bound)
      (foreign : amount.currency ≠ bound.currency) :
      Judges amount min max (.error (.currencyMismatch amount.currency bound.currency))
  | below {bound : Money} (weighs : Weighs amount min max) (limited : min = .limited bound)
      (native : amount.currency = bound.currency) (less : amount.worth < bound.worth) :
      Judges amount min max (.ok .underMinLimit)
  | foreignMax {bound : Money} (weighs : Weighs amount min max) (reached : min.IsReached amount)
      (limited : max = .limited bound) (foreign : amount.currency ≠ bound.currency) :
      Judges amount min max (.error (.currencyMismatch amount.currency bound.currency))
  | above {bound : Money} (weighs : Weighs amount min max) (reached : min.IsReached amount)
      (limited : max = .limited bound) (native : amount.currency = bound.currency)
      (more : bound.worth < amount.worth) : Judges amount min max (.ok .overMaxLimit)
  | passes (weighs : Weighs amount min max) (reached : min.IsReached amount)
      (observed : max.IsObserved amount) : Judges amount min max (.ok .canExecute)

theorem isKnown_iff {limit : Limit} : limit.isKnown = true ↔ limit ≠ .unknown := by
  cases limit <;> simp [isKnown]

/-- What the custodian names is known. -/
theorem lower_ne_unknown {limits : TransferLimits} : lower limits ≠ .unknown := by simp [lower]

theorem upper_ne_unknown {limits : TransferLimits} : upper limits ≠ .unknown := by
  unfold upper
  cases limits.max <;> simp

/-- Nothing but an amount that both limits keep passes. -/
theorem judges_canExecute_iff {amount : Money} {min max : Limit} :
    Judges amount min max (.ok .canExecute) ↔
      Weighs amount min max ∧ min.IsReached amount ∧ max.IsObserved amount := by
  constructor
  · intro h
    cases h with
    | passes hweighs hreached hobserved => exact ⟨hweighs, hreached, hobserved⟩
  · rintro ⟨hweighs, hreached, hobserved⟩
    exact .passes hweighs hreached hobserved

end Limit

namespace Pending

/-! ## Following the rule -/

section

variable {amount : Money} {limit : Limit} {cause : MoneyError}

theorem isBelow_eq_false_iff : isBelow amount limit = .ok false ↔ limit.IsReached amount := by
  cases limit with
  | unknown | unbounded => simp [isBelow, Limit.IsReached]
  | limited bound => simp [isBelow, Limit.IsReached, Money.isLess_eq_ok_iff]

theorem isBelow_eq_true_iff : isBelow amount limit = .ok true ↔
    ∃ bound, limit = .limited bound ∧ amount.currency = bound.currency ∧
      amount.worth < bound.worth := by
  cases limit with
  | unknown | unbounded => simp [isBelow]
  | limited bound => simp [isBelow, Money.isLess_eq_ok_iff]

theorem isBelow_eq_error_iff : isBelow amount limit = .error cause ↔
    ∃ bound, limit = .limited bound ∧ amount.currency ≠ bound.currency ∧
      cause = .currencyMismatch amount.currency bound.currency := by
  cases limit with
  | unknown | unbounded => simp [isBelow]
  | limited bound =>
      rw [isBelow, Money.isLess_eq]
      by_cases native : amount.currency = bound.currency <;> simp [native, eq_comm]

theorem isAbove_eq_false_iff : isAbove amount limit = .ok false ↔ limit.IsObserved amount := by
  cases limit with
  | unknown | unbounded => simp [isAbove, Limit.IsObserved]
  | limited bound => simp [isAbove, Limit.IsObserved, Money.isGreater_eq_ok_iff]

theorem isAbove_eq_true_iff : isAbove amount limit = .ok true ↔
    ∃ bound, limit = .limited bound ∧ amount.currency = bound.currency ∧
      bound.worth < amount.worth := by
  cases limit with
  | unknown | unbounded => simp [isAbove]
  | limited bound => simp [isAbove, Money.isGreater_eq_ok_iff]

theorem isAbove_eq_error_iff : isAbove amount limit = .error cause ↔
    ∃ bound, limit = .limited bound ∧ amount.currency ≠ bound.currency ∧
      cause = .currencyMismatch amount.currency bound.currency := by
  cases limit with
  | unknown | unbounded => simp [isAbove]
  | limited bound =>
      rw [isAbove, Money.isGreater_eq]
      by_cases native : amount.currency = bound.currency <;> simp [native, eq_comm]

end

section

variable {p : Pending} {outcome : Except MoneyError Verdict}

/-- Without both limits nothing is compared. -/
theorem classifyAmount_of_unknown (h : p.minLimit = .unknown ∨ p.maxLimit = .unknown) :
    p.classifyAmount = .ok .unknownError := by
  have hunknown : (!p.minLimit.isKnown || !p.maxLimit.isKnown) = true := by
    rcases h with h | h <;> simp [h, Limit.isKnown]
  rw [classifyAmount, if_pos hunknown]
  rfl

/-- With both limits a zero decides before anything is compared, and else the comparisons do,
that with the lower limit first. -/
theorem classifyAmount_of_known (hmin : p.minLimit ≠ .unknown) (hmax : p.maxLimit ≠ .unknown) :
    p.classifyAmount =
      if p.amount.worth = 0 then .ok .invalidAmount
      else match isBelow p.amount p.minLimit, isAbove p.amount p.maxLimit with
        | .error cause, _ => .error cause
        | .ok true, _ => .ok .underMinLimit
        | .ok false, .error cause => .error cause
        | .ok false, .ok true => .ok .overMaxLimit
        | .ok false, .ok false => .ok .canExecute := by
  have hknown : ¬ (!p.minLimit.isKnown || !p.maxLimit.isKnown) = true := by
    simp [Limit.isKnown_iff.2 hmin, Limit.isKnown_iff.2 hmax]
  rw [classifyAmount, if_neg hknown]
  by_cases hzero : p.amount.worth = 0
  · rw [if_pos hzero, if_pos (Money.isZero_iff.2 hzero)]
    rfl
  · rw [if_neg hzero, if_neg (mt Money.isZero_iff.1 hzero)]
    cases isBelow p.amount p.minLimit with
    | error => rfl
    | ok below =>
        cases isAbove p.amount p.maxLimit with
        | error => cases below <;> rfl
        | ok above => cases below <;> cases above <;> rfl

/-- What classification comes to is what the rule says. -/
theorem judges_classifyAmount (p : Pending) :
    Limit.Judges p.amount p.minLimit p.maxLimit p.classifyAmount := by
  by_cases hunknown : p.minLimit = .unknown ∨ p.maxLimit = .unknown
  · rw [classifyAmount_of_unknown hunknown]
    exact .unknown hunknown
  obtain ⟨hmin, hmax⟩ := not_or.1 hunknown
  rw [classifyAmount_of_known hmin hmax]
  by_cases hzero : p.amount.worth = 0
  · rw [if_pos hzero]
    exact .zero hmin hmax hzero
  rw [if_neg hzero]
  have hweighs : Limit.Weighs p.amount p.minLimit p.maxLimit := ⟨hmin, hmax, hzero⟩
  cases hbelow : isBelow p.amount p.minLimit with
  | error cause =>
      obtain ⟨bound, hlimited, hforeign, rfl⟩ := isBelow_eq_error_iff.1 hbelow
      exact .foreignMin hweighs hlimited hforeign
  | ok below =>
      cases below with
      | true =>
          obtain ⟨bound, hlimited, hnative, hless⟩ := isBelow_eq_true_iff.1 hbelow
          exact .below hweighs hlimited hnative hless
      | false =>
          have hreached := isBelow_eq_false_iff.1 hbelow
          cases habove : isAbove p.amount p.maxLimit with
          | error cause =>
              obtain ⟨bound, hlimited, hforeign, rfl⟩ := isAbove_eq_error_iff.1 habove
              exact .foreignMax hweighs hreached hlimited hforeign
          | ok above =>
              cases above with
              | true =>
                  obtain ⟨bound, hlimited, hnative, hmore⟩ := isAbove_eq_true_iff.1 habove
                  exact .above hweighs hreached hlimited hnative hmore
              | false => exact .passes hweighs hreached (isAbove_eq_false_iff.1 habove)

/-- What the rule says is what classification comes to. -/
theorem classifyAmount_of_judges (h : Limit.Judges p.amount p.minLimit p.maxLimit outcome) :
    p.classifyAmount = outcome := by
  have hcompared : ∀ hweighs : Limit.Weighs p.amount p.minLimit p.maxLimit, _ := fun hweighs =>
    (classifyAmount_of_known hweighs.min_known hweighs.max_known).trans (if_neg hweighs.nonzero)
  cases h with
  | unknown hmissing => exact classifyAmount_of_unknown hmissing
  | zero hmin hmax hzero => rw [classifyAmount_of_known hmin hmax, if_pos hzero]
  | foreignMin hweighs hlimited hforeign =>
      rw [hcompared hweighs, isBelow_eq_error_iff.2 ⟨_, hlimited, hforeign, rfl⟩]
  | below hweighs hlimited hnative hless =>
      rw [hcompared hweighs, isBelow_eq_true_iff.2 ⟨_, hlimited, hnative, hless⟩]
  | foreignMax hweighs hreached hlimited hforeign =>
      rw [hcompared hweighs, isBelow_eq_false_iff.2 hreached,
        isAbove_eq_error_iff.2 ⟨_, hlimited, hforeign, rfl⟩]
  | above hweighs hreached hlimited hnative hmore =>
      rw [hcompared hweighs, isBelow_eq_false_iff.2 hreached,
        isAbove_eq_true_iff.2 ⟨_, hlimited, hnative, hmore⟩]
  | passes hweighs hreached hobserved =>
      rw [hcompared hweighs, isBelow_eq_false_iff.2 hreached, isAbove_eq_false_iff.2 hobserved]

/-- **Classification follows the rule of limits**, and comes to nothing else. -/
theorem classifyAmount_eq_iff :
    p.classifyAmount = outcome ↔ Limit.Judges p.amount p.minLimit p.maxLimit outcome :=
  ⟨fun h => h ▸ judges_classifyAmount p, classifyAmount_of_judges⟩

end

end Pending

end FiatRamp
