import FiatRamp.Proofs.Overflow
import FiatRamp.Simulator.Report

/-!
# FiatRamp.Proofs.Order

What the texts of a command stand for, and the rule of validation.

All texts of a command that can be read make up an order, with its amounts in
one currency (`Simulator.Command.Names`).  An order fails if its amount is
negative or its total has no sum, it passes if its amount lies within the limits
and the balance covers the total, and any other order is stopped by the first
rule it breaks.  These three are what a validation of the transfer comes to
(`Simulator.Command.Names.assess`, `Simulator.Order.verdict_of_passes`,
`Simulator.Order.verdict_of_fails`, `Simulator.Order.verdict_of_not_passes`).
-/

namespace FiatRamp

/-! ## Readings -/

namespace Money

/-- An amount is read in the currency asked for. -/
theorem currency_of_parse {text : String} {currency : Currency} {m : Money}
    (h : parse text currency = .ok m) : m.currency = currency := by
  unfold parse at h
  split at h
  · cases h
    rfl
  · cases h

/-- So is an amount that may be missing. -/
theorem currency_of_mapM_parse {text? : Option String} {currency : Currency} {max? : Option Money}
    (h : text?.mapM (parse · currency) = .ok max?) :
    ∀ max, max? = some max → max.currency = currency := by
  cases text? with
  | none => cases h; nofun
  | some text =>
      cases hread : parse text currency with
      | error cause => simp [hread] at h
      | ok m =>
          simp only [Option.mapM_some, hread, Except.map_ok, Except.ok.injEq] at h
          subst h
          rintro max ⟨⟩
          exact currency_of_parse hread

end Money

/-! ## Verdicts -/

namespace Pending

variable {p : Pending} {limits : TransferLimits}

/-- The verdict on an amount within one currency: the first rule it breaks, if any. -/
theorem classifyAmount_eq (hmin : p.minLimit = .lower limits) (hmax : p.maxLimit = .upper limits)
    (h : p.InOneCurrency) :
    p.classifyAmount = .ok (
      if p.amount.worth = 0 then .invalidAmount
      else if p.amount.worth < limits.min.worth then .underMinLimit
      else if limits.max.any fun max => max.worth < p.amount.worth then .overMaxLimit
      else .canExecute) := by
  have hlower : p.minLimit = .limited limits.min := hmin
  have hmin_known : p.minLimit ≠ .unknown := hmin ▸ Limit.lower_ne_unknown
  have hmax_known : p.maxLimit ≠ .unknown := hmax ▸ Limit.upper_ne_unknown
  refine classifyAmount_of_judges ?_
  by_cases hzero : p.amount.worth = 0
  · rw [if_pos hzero]
    exact .zero hmin_known hmax_known hzero
  rw [if_neg hzero]
  have hweighs : Limit.Weighs p.amount p.minLimit p.maxLimit := ⟨hmin_known, hmax_known, hzero⟩
  by_cases hlow : p.amount.worth < limits.min.worth
  · rw [if_pos hlow]
    exact .below hweighs hlower (h.min _ hlower) hlow
  rw [if_neg hlow]
  have hreached : p.minLimit.IsReached p.amount := by
    intro bound hbound
    cases hlower.symm.trans hbound
    exact ⟨h.min _ hlower, not_lt.1 hlow⟩
  cases hlimit : limits.max with
  | none =>
      have hunbounded : p.maxLimit = .unbounded := by rw [hmax, Limit.upper, hlimit]
      exact .passes hweighs hreached (by simp [hunbounded, Limit.IsObserved])
  | some max =>
      have hlimited : p.maxLimit = .limited max := by rw [hmax, Limit.upper, hlimit]
      rw [Option.any_some]
      by_cases hmore : max.worth < p.amount.worth
      · rw [decide_eq_true hmore, if_pos rfl]
        exact .above hweighs hreached hlimited (h.max _ hlimited) hmore
      · rw [decide_eq_false hmore, if_neg (by simp)]
        refine .passes hweighs hreached fun bound hbound => ?_
        cases hlimited.symm.trans hbound
        exact ⟨h.max _ hlimited, not_lt.1 hmore⟩

/-- The verdict on the balance. -/
theorem classifyBalance_eq (h : p.InOneCurrency) :
    p.classifyBalance = p.totalOutgoing.map fun total =>
      if p.availableBalance.worth < total.worth then .insufficientFunds else .canExecute := by
  unfold classifyBalance
  cases htotal : p.totalOutgoing with
  | error => rfl
  | ok total =>
      obtain ⟨-, hcurrency, -⟩ := Money.add_eq_ok_iff.1 htotal
      have hgreater : total.isGreater p.availableBalance =
          .ok (p.availableBalance.worth < total.worth) :=
        Money.isGreater_eq_ok_iff.2 ⟨hcurrency.trans h.balance, by simp⟩
      by_cases hless : p.availableBalance.worth < total.worth <;>
        simp [hgreater, hless, Except.map, bind, Except.bind, pure, Except.pure]

end Pending

namespace Simulator

/-! ## Orders -/

/-- What the texts of a command stand for. -/
structure Order where
  currency : Currency
  amount : Money
  limits : TransferLimits
  /-- Of a withdrawal, the balance and the fee. -/
  funds : Option (Money × Money)

/-- The texts of a scenario stand for a balance and a fee. -/
inductive Scenario.Names (currency : Currency) : Scenario → Option (Money × Money) → Prop
  | deposit {authoriseAfter : UInt32} : Names currency (.deposit authoriseAfter) none
  | withdraw {balanceText feeText : String} {balance fee : Money}
      (readBalance : Money.parse balanceText currency = .ok balance)
      (readFee : Money.parse feeText currency = .ok fee) :
      Names currency (.withdraw balanceText feeText) (some (balance, fee))

/-- All texts of a command can be read, and stand for an order. -/
structure Command.Names (command : Command) (order : Order) : Prop where
  currency : Currency.parse command.args.currency = .ok order.currency
  amount : Money.parse command.args.amount order.currency = .ok order.amount
  min : Money.parse command.args.min order.currency = .ok order.limits.min
  max : command.args.max.mapM (Money.parse · order.currency) = .ok order.limits.max
  funds : command.scenario.Names order.currency order.funds

namespace Order

section

variable (order : Order)

/-- The amount lies within the limits. -/
def WithinLimits : Prop :=
  order.limits.min.worth ≤ order.amount.worth ∧
    ∀ max ∈ order.limits.max, order.amount.worth ≤ max.worth

/-- Amount and fee have no sum. -/
def Overflows : Prop :=
  ∃ balance fee cause, order.funds = some (balance, fee) ∧ order.amount.add fee = .error cause

/-- The amount cannot be validated. -/
def Fails : Prop :=
  order.amount.worth < 0 ∨ order.amount.worth ≠ 0 ∧ order.WithinLimits ∧ order.Overflows

/-- The amount passes, and with the fee it is covered by the balance. -/
def Passes : Prop :=
  0 < order.amount.worth ∧ order.WithinLimits ∧
    ∀ balance fee, order.funds = some (balance, fee) →
      ∃ total, order.amount.add fee = .ok total ∧ total.worth ≤ balance.worth

/-- Why an order does not pass: the first rule that it breaks. -/
def objection : Verdict :=
  if order.amount.worth = 0 then .uninitialised
  else if order.amount.worth < order.limits.min.worth then .underMinLimit
  else if order.limits.max.any fun max => max.worth < order.amount.worth then .overMaxLimit
  else .insufficientFunds

/-- The account at the bank. -/
def bank : BankAccount where
  id := bankId
  label := bankName
  accountNumber := accountNumber
  accountType := accountType
  currency := order.currency

/-- The account the custodian keeps. -/
def fiat (balance : Money) : FiatAccount where
  label := order.currency.code ++ " Account"
  currency := order.currency
  balance := balance

/-- The way the money goes. -/
def route : Route :=
  match order.funds with
  | none => .deposit order.bank (order.fiat (.zero order.currency))
  | some (balance, _) => .withdrawal (order.fiat balance) order.bank rfl

/-- The fee of the custodian. -/
def fee : Money := (order.funds.map Prod.snd).getD (.zero order.currency)

/-- The transfer once the amount was entered. -/
def pending (userFiat : Currency) : Pending :=
  { order.route.opening userFiat order.limits order.fee with
    amount := order.amount
    confirmations := []
    stage := .amountEntry }

end

end Order

/-! ## The rule -/

section

variable {command : Command} {order : Order}

/-- All amounts of an order are in its currency. -/
theorem Command.Names.inOneCurrency (h : command.Names order) (userFiat : Currency) :
    (order.pending userFiat).InOneCurrency := by
  obtain ⟨-, hamount, hmin, hmax, hfunds⟩ := h
  replace hamount := Money.currency_of_parse hamount
  replace hmin := Money.currency_of_parse hmin
  replace hmax := Money.currency_of_mapM_parse hmax
  obtain ⟨currency, amount, ⟨min, max?⟩, funds⟩ := order
  dsimp only at *
  have hupper : ∀ bound, Limit.upper ⟨min, max?⟩ = .limited bound →
      amount.currency = bound.currency := by
    intro bound hbound
    cases max? with
    | none => cases hbound
    | some max =>
        cases hbound
        rw [hamount, hmax _ rfl]
  have hlower : ∀ bound, Limit.lower ⟨min, max?⟩ = .limited bound →
      amount.currency = bound.currency := by
    intro bound hbound
    cases hbound
    rw [hamount, hmin]
  generalize command.scenario = scenario at hfunds
  cases hfunds with
  | deposit => exact ⟨hamount, hamount, hlower, hupper⟩
  | withdraw readBalance readFee =>
      have hfee := hamount.trans (Money.currency_of_parse readFee).symm
      have hbalance := hamount.trans (Money.currency_of_parse readBalance).symm
      exact ⟨hfee, hbalance, hlower, hupper⟩

/-- What a validation of an order comes to. -/
def Order.verdict (order : Order) : Except MoneyError Verdict :=
  if order.amount.worth = 0 then .ok .uninitialised
  else if order.amount.worth < order.limits.min.worth then .ok .underMinLimit
  else if order.limits.max.any fun max => max.worth < order.amount.worth then .ok .overMaxLimit
  else
    match order.funds with
    | none => .ok .canExecute
    | some (balance, fee) => (order.amount.add fee).map fun total =>
        if balance.worth < total.worth then .insufficientFunds else .canExecute

/-- The transfer of an order is assessed by the order alone. -/
theorem Command.Names.assess (h : command.Names order) (userFiat : Currency) :
    order.route.assess (order.pending userFiat) = order.verdict := by
  have hnative := h.inOneCurrency userFiat
  obtain ⟨currency, amount, limits, funds⟩ := order
  have hamount : (Order.pending ⟨currency, amount, limits, funds⟩ userFiat).classifyAmount =
      .ok (if amount.worth = 0 then .invalidAmount
        else if amount.worth < limits.min.worth then .underMinLimit
        else if limits.max.any fun max => max.worth < amount.worth then .overMaxLimit
        else .canExecute) := by
    cases funds <;> exact Pending.classifyAmount_eq rfl rfl hnative
  have hbalance := Pending.classifyBalance_eq hnative
  have huntouched : (Order.pending ⟨currency, amount, limits, funds⟩ userFiat).isUntouched =
      decide (amount.worth = 0) := by
    have hzero : amount.isZero = decide (amount.worth = 0) := by
      rw [Bool.eq_iff_iff, Money.isZero_iff, decide_eq_true_iff]
    rw [← hzero]
    cases funds <;> rfl
  unfold Route.assess Order.verdict
  rw [huntouched, hamount]
  by_cases hzero : amount.worth = 0
  · simp only [hzero, decide_true, if_true]
    cases funds <;> rfl
  simp only [hzero, decide_false, if_false]
  cases funds with
  | none =>
      change Except.ok _ = _
      split
      · rfl
      · split <;> rfl
  | some money =>
      obtain ⟨balance, fee⟩ := money
      simp only [Order.route]
      by_cases hlow : amount.worth < limits.min.worth
      · simp [hlow, bind, Except.bind]
      by_cases hhigh : (limits.max.any fun max => max.worth < amount.worth) = true
      · simp [hlow, hhigh, bind, Except.bind]
      · simp only [hlow, hhigh, if_false]
        exact hbalance

namespace Order

theorem withinLimits_iff : order.WithinLimits ↔ ¬ order.amount.worth < order.limits.min.worth ∧
    (order.limits.max.any fun max => max.worth < order.amount.worth) = false := by
  unfold WithinLimits
  cases order.limits.max <;> simp

/-- What passes can be executed. -/
theorem verdict_of_passes (h : order.Passes) : order.verdict = .ok .canExecute := by
  obtain ⟨hpositive, hwithin, hcovered⟩ := h
  obtain ⟨hlow, hhigh⟩ := withinLimits_iff.mp hwithin
  unfold verdict
  rw [if_neg hpositive.ne', if_neg hlow, if_neg (by simp [hhigh])]
  cases hfunds : order.funds with
  | none => rfl
  | some money =>
      obtain ⟨total, htotal, hle⟩ := hcovered money.1 money.2 hfunds
      simp [htotal, Except.map, not_lt.mpr hle]

/-- An amount that is not negative comes to no verdict if its total is too large. -/
theorem verdict_of_fails (h : order.Fails) (hsign : ¬ order.amount.worth < 0) :
    ∃ cause, order.verdict = .error cause := by
  obtain ⟨hnonzero, hwithin, balance, fee, cause, hfunds, htotal⟩ := h.resolve_left hsign
  obtain ⟨hlow, hhigh⟩ := withinLimits_iff.mp hwithin
  unfold verdict
  rw [if_neg hnonzero, if_neg hlow, if_neg (by simp [hhigh]), hfunds]
  exact ⟨cause, by simp [htotal, Except.map]⟩

/-- What neither fails nor passes breaks one of the rules. -/
theorem verdict_of_not_passes (hfails : ¬ order.Fails) (hpasses : ¬ order.Passes) :
    order.verdict = .ok order.objection ∧ order.objection ≠ .canExecute := by
  unfold verdict objection
  by_cases hzero : order.amount.worth = 0
  · simp [hzero]
  by_cases hlow : order.amount.worth < order.limits.min.worth
  · simp [hzero, hlow]
  by_cases hhigh : (order.limits.max.any fun max => max.worth < order.amount.worth) = true
  · simp [hzero, hlow, hhigh]
  have hwithin := withinLimits_iff.mpr ⟨hlow, by simpa using hhigh⟩
  have hpositive : 0 < order.amount.worth :=
    lt_of_le_of_ne (not_lt.mp fun hneg => hfails (.inl hneg)) (Ne.symm hzero)
  rw [if_neg hzero, if_neg hlow, if_neg hhigh, if_neg hzero, if_neg hlow, if_neg hhigh]
  cases hfunds : order.funds with
  | none => exact (hpasses ⟨hpositive, hwithin, by simp [hfunds]⟩).elim
  | some money =>
      obtain ⟨balance, fee⟩ := money
      cases htotal : order.amount.add fee with
      | error cause =>
          exact (hfails (.inr ⟨hzero, hwithin, balance, fee, cause, hfunds, htotal⟩)).elim
      | ok total =>
          have hshort : balance.worth < total.worth := by
            refine not_le.mp fun hle => hpasses ⟨hpositive, hwithin, ?_⟩
            intro b f hbf
            rw [hfunds] at hbf
            cases hbf
            exact ⟨total, htotal, hle⟩
          simp [htotal, Except.map, hshort]

/-- What passes has a summary, and that of a withdrawal names the total. -/
theorem exists_summary (h : order.Passes) {p : Pending} (hamount : p.amount = order.amount)
    (hfee : p.feeAmount = order.fee) :
    ∃ lines, order.route.summary p = .ok lines ∧
      ∀ balance fee, order.funds = some (balance, fee) →
        ∃ total, order.amount.add fee = .ok total ∧ .total total ∈ lines := by
  obtain ⟨currency, amount, limits, funds⟩ := order
  cases funds with
  | none => exact ⟨_, rfl, nofun⟩
  | some money =>
      obtain ⟨balance, fee⟩ := money
      obtain ⟨total, htotal, -⟩ := h.2.2 balance fee rfl
      have houtgoing : p.totalOutgoing = .ok total := by
        rw [Pending.totalOutgoing, hamount, hfee]
        exact htotal
      refine ⟨_, congrArg (Except.map (Withdrawal.confirmations _ _ p.feeAmount p.amount))
        houtgoing, ?_⟩
      rintro _ _ ⟨⟩
      exact ⟨total, htotal, by simp [Withdrawal.confirmations]⟩

end Order

/-- A withdrawal is not authorised by the bank, and a deposit only in some currencies. -/
theorem Command.Names.isAuthorised_route (h : command.Names order)
    (plain : ∀ authoriseAfter currency, command.scenario = .deposit authoriseAfter →
      Currency.parse command.args.currency = .ok currency → currency.isOpenBanking = false) :
    order.route.isAuthorised = false := by
  have hplain := fun authoriseAfter hscenario => plain authoriseAfter _ hscenario h.currency
  have hfunds := h.funds
  obtain ⟨currency, amount, limits, funds⟩ := order
  generalize command.scenario = scenario at hfunds hplain
  cases hfunds with
  | deposit => exact hplain _ rfl
  | withdraw => rfl

end

end Simulator

end FiatRamp
