import FiatRamp.Engine.Registry
import FiatRamp.Proofs.Submission

/-!
# FiatRamp.Proofs.Route

The two engines, seen through what they calculate.

A `Route` is a pair of accounts one of the engines accepts.  Between start and
submission its engine only calculates: a validation comes to the verdict
`Route.assess` and counts `Route.counted`, the summary is `Route.summary`, and
the submission is `Route.submission`.  The equations at the end run every stage
of the engine in these terms, so what a flow does can be told without looking
into either engine.
-/

namespace FiatRamp

/-! ## Routes -/

/-- Two accounts an engine accepts. -/
inductive Route where
  /-- From a linked bank into a fiat account. -/
  | deposit (bank : BankAccount) (fiat : FiatAccount)
  /-- From a fiat account to a linked bank of its currency. -/
  | withdrawal (fiat : FiatAccount) (bank : BankAccount) (agree : fiat.currency = bank.currency)

namespace Route

def source : Route → Account
  | .deposit bank _ => .bank bank
  | .withdrawal fiat _ _ => .fiat fiat

def target : Route → Account
  | .deposit _ fiat => .fiat fiat
  | .withdrawal _ bank _ => .bank bank

def action : Route → TransferAction
  | .deposit .. => .deposit
  | .withdrawal .. => .withdraw

/-- The linked bank of a route. -/
def bank : Route → BankAccount
  | .deposit bank _ => bank
  | .withdrawal _ bank _ => bank

/-- The name of the engine of a route. -/
def name : Route → String
  | .deposit .. => Deposit.engineName
  | .withdrawal .. => Withdrawal.engineName

/-- The engine of a route. -/
def engine (ctx : EngineContext σ) (route : Route) : Engine σ :=
  match route with
  | .deposit .. => .deposit ctx route.source route.target
  | .withdrawal .. => .withdrawal ctx route.source route.target

/-- The currency money leaves the source in. -/
def currency (route : Route) : Currency := route.source.currency

/-- Money comes from a bank, so only limits of open banking are of interest. -/
def fromBank : Route → Bool
  | .deposit .. => true
  | .withdrawal .. => false

/-- The bank asks the user before it pays. -/
def isAuthorised : Route → Bool
  | .deposit bank _ => bank.currency.isOpenBanking
  | .withdrawal .. => false

/-! ## What an engine calculates -/

/-- A transfer of nothing within the limits, and of a withdrawal with its fee. -/
def opening (userFiat : Currency) (route : Route) (limits : TransferLimits) (fee : Money) :
    Pending :=
  match route with
  | .deposit bank _ => (Pending.zeroed bank.currency userFiat).withLimits limits
  | .withdrawal fiat _ _ => Withdrawal.opening fiat userFiat limits fee

/-- The verdict of a validation. -/
def assess (route : Route) (p : Pending) : Except MoneyError Verdict :=
  if p.isUntouched then .ok p.verdict
  else
    match route with
    | .deposit .. => p.classifyAmount
    | .withdrawal .. => do
      let verdict ← p.classifyAmount
      if verdict = .canExecute then p.classifyBalance else .ok verdict

/-- What a withdrawal counts when the balance does not cover it. -/
def shortfall (p : Pending) : List Verdict :=
  match p.classifyBalance with
  | .ok .insufficientFunds => [.insufficientFunds]
  | _ => []

/-- The verdicts a validation counts: that on the amount and, of a withdrawal,
that on the balance if it is another one. -/
def counted (route : Route) (p : Pending) : List Verdict :=
  if p.isUntouched then []
  else
    match p.classifyAmount with
    | .error _ => []
    | .ok verdict =>
      match route with
      | .deposit .. => [verdict]
      | .withdrawal .. => verdict :: if verdict = .canExecute then shortfall p else []

/-- The summary the user confirms. -/
def summary (route : Route) (p : Pending) : Except MoneyError (List Confirmation) :=
  match route with
  | .deposit bank _ => .ok (Deposit.confirmations bank route.target p.amount)
  | .withdrawal .. =>
    p.totalOutgoing.map (Withdrawal.confirmations route.source route.target p.feeAmount p.amount)

/-- What the custodian is asked to move. -/
def submission (ctx : EngineContext σ) (route : Route) (p : Pending) : Submission :=
  match route with
  | .deposit bank _ =>
    .transfer bank.id p.amount p.amount.currency.code
      (if bank.currency.isOpenBanking then some (ctx.callback .yapily .pay) else none)
  | .withdrawal _ bank _ => .order bank.id p.amount

/-- The result of a submission that was accepted. -/
def result (route : Route) (id : String) (amount : Money) : TransferResult :=
  match route with
  | .deposit .. => .payment id amount
  | .withdrawal .. => .order id amount

/-- What follows a submission that was accepted under an id. -/
def followUp (ctx : EngineContext σ) (route : Route) (id : String) (cancel : Option Duration) :
    EngineStep σ FollowUp :=
  if route.isAuthorised then Deposit.awaitApproval ctx id cancel else return .completed

@[simp] theorem source_engine (ctx : EngineContext σ) (route : Route) :
    (route.engine ctx).source = route.source := by
  cases route <;> rfl

@[simp] theorem target_engine (ctx : EngineContext σ) (route : Route) :
    (route.engine ctx).target = route.target := by
  cases route <;> rfl

@[simp] theorem id_result (route : Route) (id : String) (amount : Money) :
    (route.result id amount).id = id := by
  cases route <;> rfl

@[simp] theorem amount_result (route : Route) (id : String) (amount : Money) :
    (route.result id amount).amount = amount := by
  cases route <;> rfl

@[simp] theorem amount_submission (ctx : EngineContext σ) (route : Route) (p : Pending) :
    (route.submission ctx p).amount = p.amount := by
  cases route <;> rfl

@[simp] theorem bankId_submission (ctx : EngineContext σ) (route : Route) (p : Pending) :
    (route.submission ctx p).bankId = route.bank.id := by
  cases route <;> rfl

@[simp] theorem name_engine (ctx : EngineContext σ) (route : Route) :
    (route.engine ctx).name = route.name := by
  cases route <;> rfl

/-! ## Running an engine -/

section

variable (ctx : EngineContext σ) (route : Route) (p : Pending) (w : World σ)

theorem checkAccounts_engine : (route.engine ctx).checkAccounts = .ok () := by
  cases route with
  | deposit => rfl
  | withdrawal fiat bank agree =>
      change (if fiat.currency = bank.currency then _ else _) = _
      rw [if_pos agree]

/-- A route passes the check of its accounts at every stage. -/
theorem run_assertAccounts_bind {β : Type} (next : Unit → EngineStep σ β) :
    ((route.engine ctx).assertAccounts >>= next).run.run w = (next ()).run.run w := by
  rw [Engine.run_assertAccounts_bind, checkAccounts_engine]

theorem run_updateAmount (amount : Money) :
    ((route.engine ctx).updateAmount p amount).run.run w =
      (if amount.isNegative then .error (.precondition (.amountMustNotBeNegative amount))
        else .ok { p with amount }, w) := by
  rw [Engine.updateAmount, run_assertAccounts_bind]
  cases amount.isNegative <;> rfl

theorem run_updateFeeLevel (level : FeeLevel) (customFee : Option UInt64) :
    ((route.engine ctx).updateFeeLevel p level customFee).run.run w =
      (if p.feeSelection.isAvailable level then
          .ok { p with feeSelection :=
            { selected := level
              available := p.feeSelection.available
              customAmount := if level = .custom then customFee else none } }
        else .error (.precondition (.levelMustBeAvailable level route.name)), w) := by
  rw [Engine.updateFeeLevel, run_assertAccounts_bind]
  cases h : p.feeSelection.isAvailable level with
  | false => cases route <;> rfl
  | true =>
      have hcontains : p.feeSelection.available.contains level = true := h
      simp only [FeeSelection.select, FeeSelection.ofLevels, hcontains]
      cases route <;> rfl

theorem run_buildConfirmations :
    ((route.engine ctx).buildConfirmations p).run.run w =
      (((route.summary p).map fun confirmations => { p with confirmations }).mapError .money,
        w) := by
  rw [Engine.buildConfirmations, run_assertAccounts_bind]
  cases route with
  | deposit => rfl
  | withdrawal =>
      change (EngineStep.ofMoney p.totalOutgoing >>= _).run.run w = _
      rw [run_bind, EngineStep.run_ofMoney, summary]
      cases p.totalOutgoing <;> rfl

/-- The check of the amount, which both engines begin a validation with. -/
theorem run_classifyAmount (name : String) :
    (Engine.classifyAmount name p).run.run w =
      if p.isUntouched then (.ok p, w)
      else
        match p.classifyAmount with
        | .ok verdict => (.ok { p with verdict }, w.record (.validation name verdict))
        | .error e => (.error (.money e), w) := by
  rw [Engine.classifyAmount]
  cases p.isUntouched with
  | true => rfl
  | false =>
      change (EngineStep.ofMoney p.classifyAmount >>= _).run.run w = _
      rw [run_bind, EngineStep.run_ofMoney]
      cases p.classifyAmount <;> rfl

theorem run_validateAmount :
    ((route.engine ctx).validateAmount p).run.run w =
      (Engine.classifyAmount route.name p).run.run w := by
  rw [Engine.validateAmount, run_assertAccounts_bind]
  cases route <;> rfl

/-- The balance either covers what leaves the account or does not. -/
theorem classifyBalance_eq_ok {verdict : Verdict} (h : p.classifyBalance = .ok verdict) :
    verdict = .canExecute ∨ verdict = .insufficientFunds := by
  unfold Pending.classifyBalance at h
  cases htotal : p.totalOutgoing with
  | error e => rw [htotal] at h; cases h
  | ok total =>
      rw [htotal] at h
      change (total.isGreater p.availableBalance >>= _) = _ at h
      cases hgreater : total.isGreater p.availableBalance with
      | error e => rw [hgreater] at h; cases h
      | ok greater =>
          rw [hgreater] at h
          cases greater <;> cases h <;> simp

/-- The check of the balance, which only an amount that has passed is put to. -/
theorem run_classifyBalance (verdict : Verdict) :
    (Withdrawal.classifyBalance { p with verdict }).run.run w =
      if verdict = .canExecute then
        ((p.classifyBalance.map fun verdict => { p with verdict }).mapError .money,
          w.recordAll ((shortfall p).map (.validation Withdrawal.engineName)))
      else (.ok { p with verdict }, w) := by
  rw [Withdrawal.classifyBalance]
  by_cases hpass : verdict = .canExecute
  · simp only [hpass, ne_eq, not_true_eq_false, if_false, if_true]
    change (EngineStep.ofMoney p.classifyBalance >>= _).run.run w = _
    rw [run_bind, EngineStep.run_ofMoney, shortfall]
    cases h : p.classifyBalance with
    | error e => simp [World.recordAll_nil, Except.map, Except.mapError]
    | ok verdict =>
        rcases classifyBalance_eq_ok p h with rfl | rfl
        · simp only [List.map_nil, World.recordAll_nil]
          rfl
        · rfl
  · simp only [hpass, ne_eq, not_false_eq_true, if_true, if_false]
    rfl

/-- **Validation** comes to the verdict of the route and only counts. -/
theorem run_validateAll :
    ((route.engine ctx).validateAll p).run.run w =
      (((route.assess p).map fun verdict => { p with verdict }).mapError .money,
        w.recordAll ((route.counted p).map (.validation route.name))) := by
  rw [Engine.validateAll, run_assertAccounts_bind]
  cases route with
  | deposit =>
      change (Engine.classifyAmount Deposit.engineName p).run.run w = _
      rw [run_classifyAmount, assess, counted]
      cases p.isUntouched with
      | true => simp [World.recordAll_nil, Except.map, Except.mapError]
      | false => cases p.classifyAmount <;> simp [World.recordAll, World.record, Except.map,
          Except.mapError, name]
  | withdrawal =>
      change (Engine.classifyAmount Withdrawal.engineName p >>= _).run.run w = _
      rw [run_bind, run_classifyAmount, assess, counted]
      cases huntouched : p.isUntouched with
      | true =>
          have hverdict : p.verdict ≠ .canExecute := by
            intro h
            simp [Pending.isUntouched, h] at huntouched
          have hleft := run_classifyBalance p w p.verdict
          rw [if_neg hverdict] at hleft
          simp [hleft, World.recordAll_nil, Except.map, Except.mapError]
      | false =>
          cases hamount : p.classifyAmount with
          | error e =>
              simp [World.recordAll_nil, Except.map, Except.mapError, bind, Except.bind]
          | ok verdict =>
              have hbalance := run_classifyBalance p
                (w.record (.validation Withdrawal.engineName verdict)) verdict
              by_cases hpass : verdict = .canExecute
              · rw [if_pos hpass, hpass] at hbalance
                simp [hbalance, hpass, World.recordAll_record, bind, Except.bind, name]
              · rw [if_neg hpass] at hbalance
                simp [hbalance, hpass, World.recordAll_singleton, Except.map, Except.mapError, bind,
                  Except.bind, name]

/-- A submission gives its answer and is counted by whether there is one. -/
theorem run_submit (name : String) (step : EngineStep σ String) :
    (Engine.submit name step).run.run w =
      ((step.run.run w).1,
        (step.run.run w).2.record (.submission name (step.run.run w).1.isOk)) := by
  rw [Engine.submit, run_bind, EngineStep.run_attempt]
  cases h : step.run.run w with
  | mk answer after => cases answer <;> rfl

/-- **Submission** is one request, counted by whether it was accepted. -/
theorem run_execute :
    ((route.engine ctx).execute p).run.run w =
      (((route.submission ctx p).reply ctx.custodian ctx.deadlines w.backend).map
          fun id => route.result id p.amount,
        (w.answered ctx.custodian ctx.deadlines (route.submission ctx p).request).record
          (.submission route.name
            ((route.submission ctx p).reply ctx.custodian ctx.deadlines w.backend).isOk)) := by
  rw [Engine.execute, run_assertAccounts_bind]
  cases route with
  | deposit bank fiat =>
      change (Engine.submit Deposit.engineName (.ask ctx.custodian ctx.deadlines
        (.startTransfer bank.id p.amount p.amount.currency.code
          (if bank.currency.isOpenBanking then some (ctx.callback .yapily .pay) else none)))
        >>= _).run.run w = _
      rw [run_bind, run_submit, EngineStep.run_ask, submission, Submission.reply]
      cases Custodian.reply ctx.custodian ctx.deadlines _ w.backend <;> rfl
  | withdrawal fiat bank =>
      change (Engine.submit Withdrawal.engineName (.ask ctx.custodian ctx.deadlines
        (.withdraw bank.id p.amount)) >>= _).run.run w = _
      rw [run_bind, run_submit, EngineStep.run_ask, submission, Submission.reply]
      cases Custodian.reply ctx.custodian ctx.deadlines _ w.backend <;> rfl

/-- The engine hands its follow-up to the hook, and a failure keeps the id. -/
theorem run_followUp_hook (result : TransferResult) (cancel : Option Duration) :
    ((route.engine ctx).followUp p result cancel).run.run w =
      ((((route.engine ctx).onFollowUp p result cancel).run.run w).1.mapError fun cause =>
          ⟨result.id, cause⟩,
        (((route.engine ctx).onFollowUp p result cancel).run.run w).2) := by
  have hfollow : ((route.engine ctx).followUp p result cancel).run.run w =
      let done := ((route.engine ctx).assertAccounts >>= fun _ =>
        (route.engine ctx).onFollowUp p result cancel).run.run w
      (done.1.mapError fun cause => ⟨result.id, cause⟩, done.2) := rfl
  rw [hfollow, run_assertAccounts_bind]

/-- **Follow-up**: an authorised deposit waits for its approval, every other
transfer is complete, and a failure keeps the id. -/
theorem run_followUp (id : String) (amount : Money) (cancel : Option Duration) :
    ((route.engine ctx).followUp p (route.result id amount) cancel).run.run w =
      (((route.followUp ctx id cancel).run.run w).1.mapError fun cause => ⟨id, cause⟩,
        ((route.followUp ctx id cancel).run.run w).2) := by
  have hhook : (route.engine ctx).onFollowUp p (route.result id amount) cancel =
      route.followUp ctx id cancel := by
    cases route with
    | deposit bank fiat =>
        cases h : bank.currency.isOpenBanking <;>
          simp [engine, Engine.deposit, source, Account.currency, result, followUp, isAuthorised, h]
    | withdrawal => rfl
  rw [run_followUp_hook, hhook, id_result]

theorem run_initialise_deposit (bank : BankAccount) (fiat : FiatAccount) :
    ((deposit bank fiat).engine ctx).initialise.run.run w =
      ((ctx.custodian.reply ctx.deadlines (.limits bank.currency true) w.backend).map
          fun limits => (Pending.zeroed bank.currency ctx.userFiat).withLimits limits,
        w.answered ctx.custodian ctx.deadlines (.limits bank.currency true)) := by
  rw [Engine.initialise, run_assertAccounts_bind]
  change (EngineStep.ask ctx.custodian ctx.deadlines (.limits bank.currency true)
    >>= _).run.run w = _
  rw [run_bind, EngineStep.run_ask]
  cases Custodian.reply ctx.custodian ctx.deadlines _ w.backend <;> rfl

theorem run_initialise_withdrawal (fiat : FiatAccount) (bank : BankAccount)
    (agree : fiat.currency = bank.currency) :
    ((withdrawal fiat bank agree).engine ctx).initialise.run.run w =
      match ctx.custodian.reply ctx.deadlines (.limits fiat.currency false) w.backend with
      | .error e => (.error e, w.answered ctx.custodian ctx.deadlines (.limits fiat.currency false))
      | .ok limits =>
        let after := w.answered ctx.custodian ctx.deadlines (.limits fiat.currency false)
        ((ctx.custodian.reply ctx.deadlines (.withdrawalFee fiat.currency) after.backend).map
            (Withdrawal.opening fiat ctx.userFiat limits),
          after.answered ctx.custodian ctx.deadlines (.withdrawalFee fiat.currency)) := by
  rw [Engine.initialise, run_assertAccounts_bind]
  change (EngineStep.ask ctx.custodian ctx.deadlines (.limits fiat.currency false)
    >>= _).run.run w = _
  rw [run_bind, EngineStep.run_ask]
  cases Custodian.reply ctx.custodian ctx.deadlines (.limits fiat.currency false) w.backend with
  | error e => rfl
  | ok limits =>
      change (EngineStep.ask ctx.custodian ctx.deadlines (.withdrawalFee fiat.currency)
        >>= _).run.run _ = _
      rw [run_bind, EngineStep.run_ask]
      dsimp only
      cases Custodian.reply ctx.custodian ctx.deadlines (.withdrawalFee fiat.currency) _ <;> rfl

/-- **Opening**: a transfer that opens has the limits the custodian named, and
nothing but limits and fees was asked for. -/
theorem opening_of_initialise {p : Pending} {w w' : World σ}
    (h : (route.engine ctx).initialise.run.run w = (.ok p, w')) :
    ∃ limits fee asked,
      ctx.custodian.reply ctx.deadlines (.limits route.currency route.fromBank) w.backend =
        .ok limits ∧
      p = route.opening ctx.userFiat limits fee ∧
      w'.requests = w.requests ++ asked ∧ (∀ r ∈ asked, r.isAboutTerms = true) ∧
      w'.metrics = w.metrics := by
  cases route with
  | deposit bank fiat =>
      rw [run_initialise_deposit] at h
      cases hreply : Custodian.reply ctx.custodian ctx.deadlines (.limits bank.currency true)
          w.backend with
      | error e => rw [hreply] at h; cases h
      | ok limits =>
          rw [hreply] at h
          cases h
          exact ⟨limits, .zero bank.currency, [.limits bank.currency true], hreply, rfl, rfl,
            by simp [Request.isAboutTerms], rfl⟩
  | withdrawal fiat bank agree =>
      rw [run_initialise_withdrawal] at h
      cases hreply : Custodian.reply ctx.custodian ctx.deadlines (.limits fiat.currency false)
          w.backend with
      | error e => rw [hreply] at h; cases h
      | ok limits =>
          simp only [hreply] at h
          cases hfee : Custodian.reply ctx.custodian ctx.deadlines (.withdrawalFee fiat.currency)
              (w.answered ctx.custodian ctx.deadlines (.limits fiat.currency false)).backend with
          | error e => rw [hfee] at h; cases h
          | ok fee =>
              rw [hfee] at h
              cases h
              exact ⟨limits, fee, [.limits fiat.currency false, .withdrawalFee fiat.currency],
                hreply, rfl, by simp, by simp [Request.isAboutTerms], rfl⟩

end

/-! ## Where routes come from -/

theorem exists_eq_deposit (ctx : EngineContext σ) {source target : Account}
    (h : Deposit.checkAccounts source target = .ok ()) :
    ∃ route : Route, Engine.deposit ctx source target = route.engine ctx ∧
      source = route.source ∧ target = route.target ∧ route.action = .deposit := by
  cases source with
  | wallet | fiat => cases h
  | bank bank =>
      cases target with
      | wallet | bank => cases h
      | fiat fiat => exact ⟨.deposit bank fiat, rfl, rfl, rfl, rfl⟩

theorem exists_eq_withdrawal (ctx : EngineContext σ) {source target : Account}
    (h : Withdrawal.checkAccounts source target = .ok ()) :
    ∃ route : Route, Engine.withdrawal ctx source target = route.engine ctx ∧
      source = route.source ∧ target = route.target ∧ route.action = .withdraw := by
  cases source with
  | wallet | bank => cases h
  | fiat fiat =>
      cases target with
      | wallet | fiat => cases h
      | bank bank =>
          change (if fiat.currency = bank.currency then _ else _) = _ at h
          by_cases agree : fiat.currency = bank.currency
          · exact ⟨.withdrawal fiat bank agree, rfl, rfl, rfl, rfl⟩
          · rw [if_neg agree] at h
            cases h

/-- The standard registry knows two keys. -/
theorem find?_standard (ctx : EngineContext σ) (key : EngineKey) :
    (Registry.standard ctx).find? key =
      if key = Registry.withdrawalKey then some (.withdrawal ctx)
      else if key = Registry.depositKey then some (.deposit ctx)
      else none := by
  by_cases hwithdrawal : key = Registry.withdrawalKey
  · subst hwithdrawal
    rfl
  · by_cases hdeposit : key = Registry.depositKey
    · subst hdeposit
      rfl
    · have hw : (key == Registry.withdrawalKey) = false := beq_eq_false_iff_ne.2 hwithdrawal
      have hd : (key == Registry.depositKey) = false := beq_eq_false_iff_ne.2 hdeposit
      simp [Registry.standard, Registry.register, Registry.empty, Registry.find?, List.lookup_cons, hw,
        hd, hwithdrawal, hdeposit]

/-- **Binding** gives the engine of a route between the two accounts. -/
theorem exists_of_bind {ctx : EngineContext σ} {source target : Account}
    {action : TransferAction} {e : Engine σ}
    (h : (Registry.standard ctx).bind source target action = .ok e) :
    ∃ route : Route, e = route.engine ctx ∧ source = route.source ∧ target = route.target ∧
      action = route.action := by
  have hcheck : ∀ made : Engine σ, (made.checkAccounts.map fun _ => made) = .ok e →
      made = e ∧ made.checkAccounts = .ok () := by
    intro made hmade
    cases hok : made.checkAccounts with
    | error cause => rw [hok] at hmade; cases hmade
    | ok =>
        rw [hok] at hmade
        cases hmade
        exact ⟨rfl, rfl⟩
  unfold Registry.bind at h
  split at h
  · cases h
  · next make hfind =>
      obtain ⟨rfl, hok⟩ := hcheck _ h
      rw [find?_standard] at hfind
      split at hfind
      · next hkey =>
          cases hfind
          obtain ⟨route, he, hsource, htarget, haction⟩ := exists_eq_withdrawal ctx hok
          exact ⟨route, he, hsource, htarget, (congrArg EngineKey.action hkey).trans haction.symm⟩
      split at hfind
      · next hkey =>
          cases hfind
          obtain ⟨route, he, hsource, htarget, haction⟩ := exists_eq_deposit ctx hok
          exact ⟨route, he, hsource, htarget, (congrArg EngineKey.action hkey).trans haction.symm⟩
      · cases hfind

end Route

/-- One of the two engines, whatever its accounts. -/
def Engine.IsBuiltIn (ctx : EngineContext σ) (e : Engine σ) : Prop :=
  ∃ source target, e = .deposit ctx source target ∨ e = .withdrawal ctx source target

/-- The bank asks the user before it pays: a deposit in a currency of open banking. -/
def Engine.isOpenBankingDeposit (e : Engine σ) : Bool :=
  e.name == Deposit.engineName && e.source.currency.isOpenBanking

@[simp] theorem Route.isOpenBankingDeposit_engine (ctx : EngineContext σ) (route : Route) :
    (route.engine ctx).isOpenBankingDeposit = route.isAuthorised := by
  cases route <;> rfl

/-- An engine that accepts its accounts is the engine of a route. -/
theorem Engine.IsBuiltIn.exists_route {ctx : EngineContext σ} {e : Engine σ}
    (h : e.IsBuiltIn ctx) (hok : e.checkAccounts = .ok ()) :
    ∃ route : Route, e = route.engine ctx := by
  obtain ⟨source, target, rfl | rfl⟩ := h
  · obtain ⟨route, hroute, -⟩ := Route.exists_eq_deposit ctx hok
    exact ⟨route, hroute⟩
  · obtain ⟨route, hroute, -⟩ := Route.exists_eq_withdrawal ctx hok
    exact ⟨route, hroute⟩

end FiatRamp
