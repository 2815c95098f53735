import FiatRamp.Proofs.Cancelling
import FiatRamp.Proofs.Errors
import FiatRamp.Proofs.Order
import FiatRamp.Proofs.Waiting

/-!
# FiatRamp.Proofs.Simulation

The simulator tells the rule of validation.

A command whose texts can be read is run by driving a flow against a custodian
that is set up for its order (`Simulator.perform_of_names`).  Each operation of
the flow is stated by what it comes to at its stage, and so is their sequence
(`Simulator.run_drive`).  The custodian answers at once, and it accepts what is
submitted (`Simulator.Furnished`), so nothing but the rule of validation is left
to decide what is reported (`Simulator.verdict_is_the_rule`).
-/

namespace FiatRamp

/-! ## Operations at their stages -/

namespace Flow

section

variable (ctx : EngineContext σ) (route : Route) {s : FlowState σ}

theorem isTerminal_of_mem_beforeSubmission {stage : Stage} (h : stage ∈ beforeSubmission) :
    stage.isTerminal = false :=
  @isTerminal_of_mem_stages .validate _ h

/-- An amount that is not negative is put in place. -/
theorem run_updateAmount (hlegal : s.pending.stage ∈ beforeSubmission) (amount : Money) :
    (updateAmount (route.engine ctx) amount).run.run s =
      if amount.isNegative then
        (.error (.engine (.precondition (.amountMustNotBeNegative amount))), s)
      else
        (.ok (), ({ s with pending := { s.pending with amount, confirmations := [] } } :
          FlowState σ).enter route .amountEntry) := by
  rw [updateAmount, run_require_bind, isTerminal_of_mem_beforeSubmission hlegal, if_neg (by simp),
    if_pos hlegal, run_bind, run_runOrFail, Route.run_updateAmount, Route.name_engine]
  cases amount.isNegative <;> rfl

/-- A validation is judged by the route, and the stage follows its verdict. -/
theorem run_validate (hlegal : s.pending.stage ∈ beforeSubmission) :
    (validate (route.engine ctx)).run.run s =
      match route.assess s.pending with
      | .error cause => (.error (.engine (.money cause)), s.counting route)
      | .ok verdict => (.ok verdict, (s.judged route verdict).enter route
          (if verdict = .canExecute then .validated else .amountEntry)) := by
  rw [validate, run_require_bind, isTerminal_of_mem_beforeSubmission hlegal, if_neg (by simp),
    if_pos hlegal, run_bind, run_runOrFail, Route.run_validateAll, Route.name_engine]
  cases route.assess s.pending <;> rfl

/-- What was validated is summed up. -/
theorem run_buildConfirmations (hlegal : s.pending.stage = .validated) :
    (buildConfirmations (route.engine ctx)).run.run s =
      match route.summary s.pending with
      | .error cause => (.error (.engine (.money cause)), s)
      | .ok confirmations =>
        (.ok (), ({ s with pending := { s.pending with confirmations } } : FlowState σ).enter route
          .confirmed) := by
  rw [buildConfirmations, run_require_bind, hlegal, if_neg (by decide), if_pos (by decide),
    run_bind, run_runOrFail, Route.run_buildConfirmations, Route.name_engine]
  cases route.summary s.pending <;> rfl

/-- A transfer that passes and is accepted, and that needs no approval, succeeds. -/
theorem run_execute_of_accepted (hlegal : s.pending.stage = .confirmed)
    (hassess : route.assess s.pending = .ok .canExecute) {id : String}
    (hreply : s.reply ctx route = .ok id) (hplain : route.isAuthorised = false)
    (cancel : Option Duration) :
    (execute (route.engine ctx) cancel).run.run s =
      (.ok (.succeeded (route.result id s.pending.amount)),
        s.ended route (s.submitted ctx route) .succeeded) := by
  have hfollowed : s.followed ctx route id cancel = (.ok .completed, s.submitted ctx route) := by
    rw [FlowState.followed, Route.followUp_of_not_isAuthorised ctx id cancel hplain]
    rfl
  rw [execute, run_bind, run_prepare ctx route s hlegal, hassess]
  dsimp only
  rw [if_pos rfl]
  dsimp only
  rw [run_settle, hreply]
  simp only [hfollowed]

end

end Flow

namespace Simulator

/-! ## Driving a flow -/

section

variable (ctx : EngineContext σ) (route : Route) (s : FlowState σ) (currency : Currency)

theorem run_adapt {ε ε' τ α : Type} (f : ε → ε') (step : ExceptT ε (StateM τ) α) (t : τ) :
    (step.adapt f).run.run t = ((step.run.run t).1.mapError f, (step.run.run t).2) := rfl

theorem run_mk_pure {ε τ α : Type} (result : Except ε α) (t : τ) :
    (ExceptT.mk (pure result) : ExceptT ε (StateM τ) α).run.run t = (result, t) := rfl

/-- The flow once its amount was entered. -/
def entered (amount : Money) : FlowState σ :=
  ({ s with pending := { s.pending with amount, confirmations := [] } } : FlowState σ).enter route
    .amountEntry

/-- The flow once its amount has passed. -/
def passed (amount : Money) : FlowState σ :=
  ((entered route s amount).judged route .canExecute).enter route .validated

/-- The flow once its summary was built. -/
def summed (amount : Money) (confirmations : List Confirmation) : FlowState σ :=
  let t := passed route s amount
  ({ t with pending := { t.pending with confirmations } } : FlowState σ).enter route .confirmed

/-- The report on a flow that came to the submission. -/
def report (done : Except FlowError FlowOutcome × FlowState σ) : Json :=
  .record (("stage", done.2.pending.stage.toJson) :: outcomeFields done.2.pending done.1)

/-- What becomes of a flow whose amount was entered, by what its validation comes to. -/
def continuation (amount : Money) : Except MoneyError Verdict → Except Failure Json
  | .error cause => .error (.flow (.engine (.money cause)))
  | .ok verdict =>
    if verdict = .canExecute then
      match route.summary (passed route s amount).pending with
      | .error cause => .error (.flow (.engine (.money cause)))
      | .ok lines =>
        .ok (report ((Flow.execute (route.engine ctx) none).run.run (summed route s amount lines)))
    else .ok (.record [("stage", Stage.amountEntry.toJson), ("validation_state", verdict.toJson)])

/-- A flow that does not pass is reported with its verdict. -/
theorem continuation_of_ne {verdict : Verdict} (h : verdict ≠ .canExecute) (amount : Money) :
    continuation ctx route s amount (.ok verdict) =
      .ok (.record [("stage", Stage.amountEntry.toJson),
        ("validation_state", verdict.toJson)]) :=
  if_neg h

/-- A flow that passes is summed up and executed. -/
theorem continuation_canExecute {amount : Money} {lines : List Confirmation}
    (h : route.summary (passed route s amount).pending = .ok lines) :
    continuation ctx route s amount (.ok .canExecute) =
      .ok (report ((Flow.execute (route.engine ctx) none).run.run
        (summed route s amount lines))) := by
  rw [continuation, if_pos rfl, h]

/-- An amount that cannot be read is not entered. -/
theorem run_drive_of_unread (e : Engine σ) {text : String} {cause : MoneyError}
    (h : Money.parse text currency = .error cause) :
    ((drive e text currency).run.run s).1 = .error (.argument cause) := by
  unfold drive
  rw [h]
  rfl

/-- A negative amount is not entered either. -/
theorem run_drive_of_negative {text : String} {amount : Money}
    (h : Money.parse text currency = .ok amount)
    (hlegal : s.pending.stage ∈ Flow.beforeSubmission) (hsign : amount.isNegative = true) :
    ∃ cause, ((drive (route.engine ctx) text currency).run.run s).1 = .error (.flow cause) := by
  unfold drive
  rw [h, run_bind, run_mk_pure]
  dsimp only [Except.mapError]
  rw [run_bind, run_adapt, Flow.run_updateAmount ctx route hlegal, if_pos hsign]
  exact ⟨_, rfl⟩

/-- From an amount that was entered a flow goes on by its verdict. -/
theorem run_drive {text : String} {amount : Money} (h : Money.parse text currency = .ok amount)
    (hlegal : s.pending.stage ∈ Flow.beforeSubmission) (hsign : amount.isNegative = false) :
    ((drive (route.engine ctx) text currency).run.run s).1 =
      continuation ctx route s amount (route.assess (entered route s amount).pending) := by
  have hentered : (entered route s amount).pending.stage ∈ Flow.beforeSubmission := by
    simp [entered, FlowState.enter, Flow.beforeSubmission]
  have hupdate : (Flow.updateAmount (route.engine ctx) amount).run.run s =
      (.ok (), entered route s amount) := by
    rw [Flow.run_updateAmount ctx route hlegal, if_neg (by simp [hsign])]
    rfl
  unfold drive
  rw [h, run_bind, run_mk_pure]
  dsimp only [Except.mapError]
  rw [run_bind, run_adapt, hupdate]
  dsimp only [Except.mapError]
  have hvalidate := Flow.run_validate ctx route hentered
  rw [run_bind, run_adapt]
  cases hassess : route.assess (entered route s amount).pending with
  | error cause =>
      rw [hassess] at hvalidate
      rw [hvalidate]
      rfl
  | ok verdict =>
      rw [hassess] at hvalidate
      by_cases hpass : verdict = .canExecute
      · subst hpass
        have hpassed : (Flow.validate (route.engine ctx)).run.run (entered route s amount) =
            (.ok .canExecute, passed route s amount) := hvalidate
        have hbuild := Flow.run_buildConfirmations ctx route (s := passed route s amount) rfl
        rw [hpassed]
        dsimp only [Except.mapError]
        rw [if_neg (by simp), run_bind, run_adapt, hbuild, continuation, if_pos rfl]
        cases route.summary (passed route s amount).pending <;> rfl
      · rw [hvalidate]
        dsimp only [Except.mapError]
        rw [if_pos hpass, if_neg hpass, continuation_of_ne ctx route s hpass]
        rfl

end

/-! ## The simulated custodian -/

/-- The vault is set up for an order, and nothing was submitted to it yet. -/
structure Furnished (v : Vault) (order : Order) : Prop where
  limits : v.limits.lookup order.currency = some order.limits
  fee : v.serveFee order.currency = order.fee
  bank : (v.banks.lookup bankId).isSome = true
  accepts : v.rejection = none
  limitsPrompt : v.limitsLatency = 0
  submissionPrompt : v.submissionLatency = 0
  issued : v.issued = 0

section

variable {ctx : EngineContext Vault} {ids : Nat → String} {order : Order} {v : Vault}

/-- What comes of a request that the vault answers at once. -/
theorem asked_vault (hctx : ctx.custodian = Vault.custodian ids) (w : World Vault)
    (request : Request) (hprompt : w.backend.latency request = 0) :
    ctx.custodian.reply ctx.deadlines request w.backend =
        (w.backend.serve ids request).1.mapError .provider ∧
      (w.answered ctx.custodian ctx.deadlines request).backend =
        (w.backend.serve ids request).2 := by
  have hask := Vault.run_ask hctx hprompt
  rw [EngineStep.run_ask, Prod.mk.injEq] at hask
  exact ⟨hask.1, congrArg World.backend hask.2⟩

/-- The limits are named, and the vault stays set up. -/
theorem Furnished.limits_answered (hv : Furnished v order)
    (hctx : ctx.custodian = Vault.custodian ids) {w : World Vault} (hw : w.backend = v)
    (fromBank : Bool) :
    ctx.custodian.reply ctx.deadlines (.limits order.currency fromBank) w.backend =
        .ok order.limits ∧
      Furnished (w.answered ctx.custodian ctx.deadlines
        (.limits order.currency fromBank)).backend order := by
  subst hw
  obtain ⟨hreply, hbackend⟩ :=
    asked_vault hctx w (.limits order.currency fromBank) hv.limitsPrompt
  rw [hreply, hbackend]
  constructor
  · simp [Vault.serve, Vault.serveLimits, hv.limits, Except.mapError]
  · exact ⟨hv.limits, hv.fee, hv.bank, hv.accepts, hv.limitsPrompt, hv.submissionPrompt, hv.issued⟩

/-- The fee is named, and the vault stays set up. -/
theorem Furnished.fee_answered (hv : Furnished v order)
    (hctx : ctx.custodian = Vault.custodian ids) {w : World Vault} (hw : w.backend = v) :
    ctx.custodian.reply ctx.deadlines (.withdrawalFee order.currency) w.backend =
        .ok order.fee ∧
      Furnished (w.answered ctx.custodian ctx.deadlines (.withdrawalFee order.currency)).backend
        order := by
  subst hw
  obtain ⟨hreply, hbackend⟩ := asked_vault hctx w (.withdrawalFee order.currency) rfl
  rw [hreply, hbackend]
  constructor
  · simp [Vault.serve, hv.fee, Except.mapError]
  · exact hv

/-- A flow opens with the limits and the fee of its order. -/
theorem Furnished.start (hv : Furnished v order) (hctx : ctx.custodian = Vault.custodian ids) :
    ∃ w, Flow.start (order.route.engine ctx) (World.start v) =
        (.ok { order.route.opening ctx.userFiat order.limits order.fee with
          stage := .amountEntry }, w) ∧
      Furnished w.backend order := by
  have hopens : ∃ w, (order.route.engine ctx).initialise.run.run (World.start v) =
      (.ok (order.route.opening ctx.userFiat order.limits order.fee), w) ∧
        Furnished w.backend order := by
    obtain ⟨currency, amount, limits, funds⟩ := order
    cases funds with
    | none =>
        obtain ⟨hlimits, hafter⟩ := hv.limits_answered hctx (w := .start v) rfl true
        refine ⟨_, ?_, hafter⟩
        simp only [Order.route]
        rw [Route.run_initialise_deposit]
        simp only [Order.bank]
        rw [hlimits]
        rfl
    | some money =>
        obtain ⟨hlimits, hafter⟩ := hv.limits_answered hctx (w := .start v) rfl false
        obtain ⟨hfee, hlast⟩ := hafter.fee_answered hctx rfl
        have hrun := Route.run_initialise_withdrawal ctx (.start v)
          (Order.fiat ⟨currency, amount, limits, some money⟩ money.1)
          (Order.bank ⟨currency, amount, limits, some money⟩) rfl
        simp only [Order.fiat, hlimits, hfee] at hrun
        exact ⟨_, hrun, hlast⟩
  obtain ⟨w, hopens, hw⟩ := hopens
  refine ⟨w.record (.stage (order.route.engine ctx).name .amountEntry), ?_, hw⟩
  rw [Flow.start, hopens]

/-- A submission is accepted under the first id. -/
theorem Furnished.accepted {s : FlowState Vault} (hv : Furnished s.world.backend order)
    (hctx : ctx.custodian = Vault.custodian ids) : s.reply ctx order.route = .ok (ids 0) := by
  obtain ⟨currency, amount, limits, funds⟩ := order
  cases funds with
  | none =>
      refine (asked_vault hctx s.world (.startTransfer ..) hv.submissionPrompt).1.trans ?_
      simp [Vault.serve, Vault.serveTransfer, hv.accepts, hv.issued, Except.mapError]
  | some money =>
      obtain ⟨linked, hbank⟩ := Option.isSome_iff_exists.mp hv.bank
      refine (asked_vault hctx s.world (.withdraw ..) hv.submissionPrompt).1.trans ?_
      simp [Vault.serve, Vault.serveOrder, hv.accepts, hv.issued, Order.bank, hbank,
        Except.mapError]

end

/-! ## Running a command -/

/-- The engine between the accounts of a route is bound for its action. -/
theorem bind_route (ctx : EngineContext σ) (route : Route) :
    (Registry.standard ctx).bind route.source route.target route.action =
      .ok (route.engine ctx) := by
  rw [Registry.bind_standard]
  cases route with
  | deposit bank fiat => rfl
  | withdrawal fiat bank agree =>
      exact (if_pos rfl).trans (if_pos agree)

section

variable {command : Command} {order : Order}

/-- Limits are named by texts that can be read. -/
theorem limits_eq_ok_iff {args : TransferArgs} {currency : Currency} {limits : TransferLimits} :
    Setting.limits args currency = .ok limits ↔
      Money.parse args.min currency = .ok limits.min ∧
        args.max.mapM (Money.parse · currency) = .ok limits.max := by
  unfold Setting.limits
  obtain ⟨min, max⟩ := limits
  cases Money.parse args.min currency with
  | error => simp [bind, Except.bind]
  | ok least =>
      cases args.max.mapM (Money.parse · currency) with
      | error => simp [bind, Except.bind]
      | ok most => simp [bind, Except.bind, pure, Except.pure]

/-- The texts of a command that can be read make up the setting of its run. -/
theorem Command.Names.setting (h : command.Names order) :
    ∃ setting, Setting.ofCommand command = .ok setting ∧ setting.source = order.route.source ∧
      setting.target = order.route.target ∧ setting.action = order.route.action ∧
      setting.currency = order.currency ∧ Furnished setting.vault order := by
  have hlimits := limits_eq_ok_iff.mpr ⟨h.min, h.max⟩
  have hfunds := h.funds
  unfold Setting.ofCommand
  rw [h.currency]
  obtain ⟨currency, amount, limits, funds⟩ := order
  generalize command.scenario = scenario at hfunds
  cases hfunds with
  | deposit =>
      simp only [bind, Except.bind, hlimits]
      refine ⟨_, rfl, rfl, rfl, rfl, rfl, ?_⟩
      refine ⟨?_, ?_, ?_, rfl, rfl, rfl, rfl⟩
      · simp [Setting.furnish, Vault.withLimits, Vault.withBank]
      · rfl
      · rfl
  | withdraw readBalance readFee =>
      simp only [bind, Except.bind, hlimits, readBalance, readFee]
      refine ⟨_, rfl, rfl, rfl, rfl, rfl, ?_⟩
      refine ⟨?_, ?_, ?_, rfl, rfl, rfl, rfl⟩
      · simp [Setting.furnish, Vault.withLimits, Vault.withBank]
      · simp [Setting.furnish, Vault.withLimits, Vault.withBank, Vault.serveFee, Vault.withFee,
          Money.currency_of_parse readFee, Order.fee]
      · rfl

theorem exists_of_bind_eq_ok {ε α β : Type} {x : Except ε α} {f : α → Except ε β} {b : β}
    (h : x >>= f = .ok b) : ∃ a, x = .ok a ∧ f a = .ok b := by
  cases x with
  | error => cases h
  | ok a => exact ⟨a, rfl, h⟩

theorem eq_ok_of_mapError {ε ε' α : Type} {x : Except ε α} {f : ε → ε'} {a : α}
    (h : x.mapError f = .ok a) : x = .ok a := by
  cases x with
  | error => cases h
  | ok => cases h; rfl

/-- A setting can be made of texts that can be read only. -/
theorem Command.exists_names {setting : Setting} {amount : Money}
    (hsetting : Setting.ofCommand command = .ok setting)
    (hamount : Money.parse command.args.amount setting.currency = .ok amount) :
    ∃ order, command.Names order := by
  obtain ⟨currency, hcurrency, hsetting⟩ := exists_of_bind_eq_ok hsetting
  have hread : ∃ funds limits, command.scenario.Names currency funds ∧
      Setting.limits command.args currency = .ok limits ∧ setting.currency = currency := by
    cases hscenario : command.scenario with
    | deposit authoriseAfter =>
        rw [hscenario] at hsetting
        obtain ⟨limits, hlimits, hsetting⟩ := exists_of_bind_eq_ok hsetting
        cases hsetting
        exact ⟨_, limits, .deposit, hlimits, rfl⟩
    | withdraw balanceText feeText =>
        rw [hscenario] at hsetting
        obtain ⟨fee, hfee, hsetting⟩ := exists_of_bind_eq_ok hsetting
        obtain ⟨balance, hbalance, hsetting⟩ := exists_of_bind_eq_ok hsetting
        obtain ⟨limits, hlimits, hsetting⟩ := exists_of_bind_eq_ok hsetting
        cases hsetting
        exact ⟨_, limits, .withdraw hbalance hfee, hlimits, rfl⟩
  obtain ⟨funds, limits, hfunds, hlimits, rfl⟩ := hread
  obtain ⟨hmin, hmax⟩ := limits_eq_ok_iff.mp hlimits
  exact ⟨⟨_, amount, limits, funds⟩, hcurrency, hamount, hmin, hmax, hfunds⟩

variable (chance : Chance) (file : Option (List Nat))

/-- What the engines of a run work with. -/
def context (config : Config) (base : RedirectBase) (currency : Currency) :
    EngineContext Vault where
  custodian := Vault.custodian chance.ids
  callback := base.callback
  deadlines := config.timeouts.deadlines
  poll := config.poll.settings
  draw := chance.draw
  userFiat := currency

/-- A run is that of the flow that was started, whatever it is. -/
theorem run_of_started {config : Config} {setting : Setting} {base : RedirectBase}
    {currency : Currency} {e : Engine Vault} {p : Pending} {w : World Vault}
    (hsetting : Setting.ofCommand command = .ok setting) (hcurrency : setting.currency = currency)
    (hbase : RedirectBase.ofText config.banking.callbackBaseUrl = .ok base)
    (hbind : (Registry.standard (context chance config base currency)).bind setting.source
      setting.target setting.action = .ok e)
    (hstart : Flow.start e (World.start setting.vault) = (.ok p, w)) :
    (run chance config command).map Prod.fst =
      ((drive e command.args.amount currency).run.run ⟨p, w⟩).1 := by
  subst hcurrency
  unfold context at hbind
  unfold run
  rw [hsetting]
  simp only [bind, Except.bind, Except.mapError, hbase, hbind, hstart]
  obtain ⟨report, state⟩ := (drive e command.args.amount setting.currency).run.run ⟨p, w⟩
  cases report <;> rfl

/-- A command is run under the default configuration: it names no file, or one that leaves
everything at its default. -/
def Command.IsDefault (command : Command) (file : Option (List Nat)) : Prop :=
  command.config = none ∨ Config.load file = .ok {}

theorem perform_of_isDefault (hconfig : command.IsDefault file) :
    perform chance file command = run chance {} command := by
  unfold perform
  cases hpath : command.config with
  | none => rfl
  | some path =>
      have hload : Config.load file = .ok {} := by
        refine hconfig.resolve_left ?_
        rw [hpath]
        exact Option.some_ne_none path
      rw [hload]
      rfl

/-- The callbacks of the default configuration have a base. -/
theorem exists_default_base :
    ∃ base, RedirectBase.ofText ({} : Config).banking.callbackBaseUrl = .ok base := by
  have hok : (RedirectBase.ofText ({} : Config).banking.callbackBaseUrl).isOk = true := by
    decide +kernel
  cases hbase : RedirectBase.ofText ({} : Config).banking.callbackBaseUrl with
  | error cause => rw [hbase] at hok; cases hok
  | ok base => exact ⟨base, rfl⟩

/-- A report is on a command whose texts can be read. -/
theorem exists_names_of_run {config : Config} {done : Json × Duration}
    (h : run chance config command = .ok done) : ∃ order, command.Names order := by
  obtain ⟨setting, hsetting, h⟩ := exists_of_bind_eq_ok h
  obtain ⟨base, -, h⟩ := exists_of_bind_eq_ok h
  obtain ⟨e, -, h⟩ := exists_of_bind_eq_ok h
  generalize Flow.start e (World.start setting.vault) = opened at h
  obtain ⟨started, w⟩ := opened
  obtain ⟨p, -, h⟩ := exists_of_bind_eq_ok h
  cases hread : Money.parse command.args.amount setting.currency with
  | ok amount => exact Command.exists_names (eq_ok_of_mapError hsetting) hread
  | error cause =>
      have hunread := run_drive_of_unread ⟨p, w⟩ _ e hread
      generalize (drive e command.args.amount setting.currency).run.run ⟨p, w⟩ = driven
        at h hunread
      obtain ⟨report, state⟩ := driven
      cases hunread
      cases h

/-- A command is run by driving the flow of its order. -/
theorem perform_of_names (hconfig : command.IsDefault file) (h : command.Names order) :
    ∃ (ctx : EngineContext Vault) (s : FlowState Vault),
      ctx.custodian = Vault.custodian chance.ids ∧ Furnished s.world.backend order ∧
      s.pending = { order.route.opening ctx.userFiat order.limits order.fee with
        stage := .amountEntry } ∧
      (perform chance file command).map Prod.fst =
        ((drive (order.route.engine ctx) command.args.amount order.currency).run.run s).1 := by
  obtain ⟨setting, hsetting, hsource, htarget, haction, hcurrency, hv⟩ := h.setting
  obtain ⟨base, hbase⟩ := exists_default_base
  have hbind := bind_route (context chance {} base order.currency) order.route
  rw [← hsource, ← htarget, ← haction] at hbind
  have hctx : (context chance {} base order.currency).custodian = Vault.custodian chance.ids := rfl
  obtain ⟨w, hstart, hw⟩ := hv.start hctx
  refine ⟨context chance {} base order.currency, ⟨_, w⟩, rfl, hw, rfl, ?_⟩
  rw [perform_of_isDefault chance file hconfig]
  exact run_of_started chance hsetting hcurrency hbase hbind hstart

end

/-! ## The verdict of the simulator -/

/-- The report on an order that has succeeded, with its amount under the first id.  The
summary of a withdrawal names the sum of amount and fee. -/
def Order.Succeeds (order : Order) (ids : Nat → String)
    (outcome : Except Failure (Json × Duration)) : Prop :=
  ∃ time lines,
    outcome = .ok (.record [("stage", Stage.succeeded.toJson),
      ("confirmations", .list (lines.map Confirmation.toJson)),
      ("result", (order.route.result (ids 0) order.amount).toJson)], time) ∧
    IsSummaryOf order.route.source order.route.target order.amount order.fee lines
      order.route.action ∧
    ∀ balance fee, order.funds = some (balance, fee) →
      ∃ total, order.amount.add fee = .ok total ∧ .total total ∈ lines

/-- The report on an order that has stopped at the first rule it breaks. -/
def Order.Stops (order : Order) (outcome : Except Failure (Json × Duration)) : Prop :=
  ∃ time, outcome = .ok (.record [("stage", Stage.amountEntry.toJson),
    ("validation_state", order.objection.toJson)], time)

/-- What becomes of a command is told by the rule of validation: it fails if one of its texts
cannot be read or if the amount cannot be validated, and there is a report otherwise. -/
structure FollowsRule (ids : Nat → String) (command : Command)
    (outcome : Except Failure (Json × Duration)) : Prop where
  fails_iff : exitCode outcome = 1 ↔
    (¬ ∃ order, command.Names order) ∨ ∃ order, command.Names order ∧ order.Fails
  reports : ∀ order, command.Names order → ¬ order.Fails → exitCode outcome = 0 ∧
    (order.Passes → order.Succeeds ids outcome) ∧ (¬ order.Passes → order.Stops outcome)

theorem exists_time {ε α τ : Type} {x : Except ε (α × τ)} {a : α}
    (h : x.map Prod.fst = .ok a) : ∃ time, x = .ok (a, time) := by
  cases x with
  | error => cases h
  | ok done => cases h; exact ⟨done.2, rfl⟩

section

variable (chance : Chance) (file : Option (List Nat)) {command : Command} {order : Order}
  (hconfig : command.IsDefault file) (h : command.Names order)

include hconfig h

/-- The flow of an order goes on by its verdict. -/
theorem perform_eq (hsign : ¬ order.amount.worth < 0) :
    ∃ (ctx : EngineContext Vault) (s : FlowState Vault),
      ctx.custodian = Vault.custodian chance.ids ∧ Furnished s.world.backend order ∧
      (entered order.route s order.amount).pending = order.pending ctx.userFiat ∧
      (perform chance file command).map Prod.fst =
        continuation ctx order.route s order.amount order.verdict := by
  obtain ⟨ctx, s, hctx, hv, hs, hperform⟩ := perform_of_names chance file hconfig h
  have hlegal : s.pending.stage ∈ Flow.beforeSubmission := by
    rw [hs]
    simp [Flow.beforeSubmission]
  have hpending : (entered order.route s order.amount).pending = order.pending ctx.userFiat := by
    unfold entered FlowState.enter
    rw [hs]
    rfl
  have hnonnegative : order.amount.isNegative = false := by
    rw [← Bool.not_eq_true, Money.isNegative_iff]
    exact hsign
  refine ⟨ctx, s, hctx, hv, hpending, ?_⟩
  rw [hperform, run_drive ctx order.route s order.currency h.amount hlegal hnonnegative, hpending,
    h.assess]

/-- An order that fails is not reported on. -/
theorem perform_of_fails (hfails : order.Fails) :
    ∃ cause, perform chance file command = .error cause := by
  have hfailed : ∃ cause, (perform chance file command).map Prod.fst = .error cause := by
    by_cases hsign : order.amount.worth < 0
    · obtain ⟨ctx, s, -, -, hs, hperform⟩ := perform_of_names chance file hconfig h
      have hlegal : s.pending.stage ∈ Flow.beforeSubmission := by
        rw [hs]
        simp [Flow.beforeSubmission]
      obtain ⟨cause, hdrive⟩ := run_drive_of_negative ctx order.route s order.currency h.amount
        hlegal (Money.isNegative_iff.mpr hsign)
      exact ⟨_, hperform.trans hdrive⟩
    · obtain ⟨ctx, s, -, -, -, hperform⟩ := perform_eq chance file hconfig h hsign
      obtain ⟨cause, hverdict⟩ := Order.verdict_of_fails hfails hsign
      rw [hverdict] at hperform
      exact ⟨_, hperform⟩
  obtain ⟨cause, hfailed⟩ := hfailed
  cases hdone : perform chance file command with
  | error cause => exact ⟨cause, rfl⟩
  | ok done => rw [hdone] at hfailed; cases hfailed

/-- An order that neither fails nor passes stops at its amount. -/
theorem perform_of_stopped (hfails : ¬ order.Fails) (hpasses : ¬ order.Passes) :
    order.Stops (perform chance file command) := by
  have hsign : ¬ order.amount.worth < 0 := fun hneg => hfails (.inl hneg)
  obtain ⟨ctx, s, -, -, -, hperform⟩ := perform_eq chance file hconfig h hsign
  obtain ⟨hverdict, hobjection⟩ := Order.verdict_of_not_passes hfails hpasses
  rw [hverdict, continuation_of_ne ctx order.route s hobjection] at hperform
  exact exists_time hperform

/-- An order that passes succeeds, as the custodian accepts it. -/
theorem perform_of_passes (hplain : order.route.isAuthorised = false) (hpasses : order.Passes) :
    order.Succeeds chance.ids (perform chance file command) := by
  obtain ⟨ctx, s, hctx, hv, hpending, hperform⟩ :=
    perform_eq chance file hconfig h hpasses.1.not_gt
  have hfee : (passed order.route s order.amount).pending.feeAmount = order.fee := by
    change (entered order.route s order.amount).pending.feeAmount = order.fee
    rw [hpending]
    obtain ⟨currency, amount, limits, funds⟩ := order
    cases funds <;> rfl
  obtain ⟨lines, hsummary, htotal⟩ :=
    Order.exists_summary (p := (passed order.route s order.amount).pending) hpasses rfl hfee
  have hassess : order.route.assess (summed order.route s order.amount lines).pending =
      .ok .canExecute := by
    refine Flow.assess_eq_canExecute_of_terms (p := order.pending ctx.userFiat) ?_ ?_ ?_
    · rw [h.assess, Order.verdict_of_passes hpasses]
    · rw [← hpending]
      rfl
    · rfl
  have hreply : (summed order.route s order.amount lines).reply ctx order.route =
      .ok (chance.ids 0) := Furnished.accepted hv hctx
  rw [Order.verdict_of_passes hpasses, continuation_canExecute ctx order.route s hsummary,
    Flow.run_execute_of_accepted ctx order.route rfl hassess hreply hplain none] at hperform
  have hshown := Flow.isSummaryOf_of_summary hsummary
  rw [hfee] at hshown
  obtain ⟨time, hdone⟩ := exists_time hperform
  exact ⟨time, lines, hdone, hshown, htotal⟩

end

/-- **The simulator's verdict is the rule of validation**, whatever the texts of the command:
for every withdrawal, and for every deposit in a currency without open banking, that is run
under the default configuration. -/
theorem verdict_is_the_rule (chance : Chance) (file : Option (List Nat)) {command : Command}
    (isDefault : command.IsDefault file)
    (plain : ∀ authoriseAfter currency, command.scenario = .deposit authoriseAfter →
      Currency.parse command.args.currency = .ok currency → currency.isOpenBanking = false) :
    FollowsRule chance.ids command (perform chance file command) := by
  have hreports : ∀ order, command.Names order → ¬ order.Fails →
      exitCode (perform chance file command) = 0 ∧
      (order.Passes → order.Succeeds chance.ids (perform chance file command)) ∧
      (¬ order.Passes → order.Stops (perform chance file command)) := by
    intro order h hfails
    have hsucceeds := perform_of_passes chance file isDefault h (h.isAuthorised_route plain)
    have hstops := perform_of_stopped chance file isDefault h hfails
    refine ⟨?_, hsucceeds, hstops⟩
    by_cases hpasses : order.Passes
    · obtain ⟨time, lines, hdone, -⟩ := hsucceeds hpasses
      rw [hdone]
      rfl
    · obtain ⟨time, hdone⟩ := hstops hpasses
      rw [hdone]
      rfl
  refine ⟨⟨fun hexit => ?_, ?_⟩, hreports⟩
  · by_cases hread : ∃ order, command.Names order
    · obtain ⟨order, h⟩ := hread
      refine .inr ⟨order, h, by_contra fun hfails => ?_⟩
      rw [(hreports order h hfails).1] at hexit
      cases hexit
    · exact .inl hread
  · rintro (hunread | ⟨order, h, hfails⟩)
    · cases hdone : perform chance file command with
      | error cause => rfl
      | ok done =>
          rw [perform_of_isDefault chance file isDefault] at hdone
          exact (hunread (exists_names_of_run chance hdone)).elim
    · obtain ⟨cause, herror⟩ := perform_of_fails chance file isDefault h hfails
      rw [herror]
      rfl

/-- Twenty-five pounds and a fee of a pound and a half are just covered. -/
theorem verdict_is_the_rule_of_pounds :
    let chance : Chance := ⟨Nat.repr, id⟩
    let command : Command :=
      ⟨none, ⟨" gbp ", "25", "10", some "25.00"⟩, .withdraw "26.5" "1.50"⟩
    exitCode (perform chance none command) = 0 ∧
      FollowsRule chance.ids command (perform chance none command) :=
  ⟨by decide +kernel, verdict_is_the_rule _ none (.inl rfl) (by simp)⟩

end Simulator

end FiatRamp
