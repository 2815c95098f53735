import FiatRamp.Proofs.Revalidation
import FiatRamp.Proofs.Timeline

/-!
# FiatRamp.Proofs.Errors

Which errors can come from where.

Binding fails in two ways (`Registry.bind_standard`).  On a bound engine most
errors cannot surface at most calls: the accounts were checked, and what was
validated stays valid until it is submitted.  What is left is listed by
`Flow.Raises`, and so every kind of error has its place in a flow
(`Flow.errors_keep_their_place`).
-/

namespace FiatRamp

/-! ## Binding -/

/-- **Binding**: there is an engine for deposits, and one for withdrawals within a
currency. -/
theorem Registry.bind_standard (ctx : EngineContext σ) (source target : Account)
    (action : TransferAction) :
    (standard ctx).bind source target action =
      if ⟨source.kind, target.kind, action⟩ = withdrawalKey then
        if source.currency = target.currency then .ok (.withdrawal ctx source target)
        else .error (.precondition (.currenciesMustAgree source.currency target.currency))
      else if ⟨source.kind, target.kind, action⟩ = depositKey then
        .ok (.deposit ctx source target)
      else .error (.unsupported source.kind target.kind action) := by
  unfold bind
  rw [Route.find?_standard]
  by_cases hwithdrawal : (⟨source.kind, target.kind, action⟩ : EngineKey) = withdrawalKey
  · rw [if_pos hwithdrawal, if_pos hwithdrawal]
    cases source <;> cases target <;> cases hwithdrawal
    next fiat bank =>
      change Except.map _ (if fiat.currency = bank.currency then _ else _) =
        if fiat.currency = bank.currency then _ else _
      split <;> rfl
  · rw [if_neg hwithdrawal, if_neg hwithdrawal]
    by_cases hdeposit : (⟨source.kind, target.kind, action⟩ : EngineKey) = depositKey
    · rw [if_pos hdeposit, if_pos hdeposit]
      cases source <;> cases target <;> first | rfl | cases hdeposit
    · rw [if_neg hdeposit, if_neg hdeposit]

/-- Binding fails if there is no engine, or if a withdrawal would change the currency. -/
theorem Registry.bind_standard_iff (ctx : EngineContext σ) (source target : Account)
    (action : TransferAction) :
    let key : EngineKey := ⟨source.kind, target.kind, action⟩
    let bound := (standard ctx).bind source target action
    ((∃ s t a, bound = .error (.unsupported s t a)) ↔ key ≠ depositKey ∧ key ≠ withdrawalKey) ∧
    ((∃ condition, bound = .error (.precondition condition)) ↔
      key = withdrawalKey ∧ source.currency ≠ target.currency) ∧
    ((∃ e, bound = .ok e) ↔
      key = depositKey ∨ key = withdrawalKey ∧ source.currency = target.currency) := by
  have hkeys : depositKey ≠ withdrawalKey := by decide
  dsimp only
  rw [bind_standard]
  generalize (⟨source.kind, target.kind, action⟩ : EngineKey) = key
  by_cases hwithdrawal : key = withdrawalKey
  · subst hwithdrawal
    by_cases hcurrency : source.currency = target.currency <;> simp [hcurrency, hkeys.symm]
  · by_cases hdeposit : key = depositKey
    · subst hdeposit
      simp [hkeys]
    · simp [hwithdrawal, hdeposit]

/-! ## What comes from the custodian -/

/-- The custodian has failed, or has not answered in time. -/
def EngineError.isFromCustodian : EngineError → Bool
  | .provider _ | .timeout .. => true
  | _ => false

/-- The error of a step in an error of a flow. -/
def FlowError.cause? : FlowError → Option EngineError
  | .engine cause => some cause
  | .postSubmission failure => some failure.cause
  | _ => none

/-- A request fails by the custodian only. -/
theorem Custodian.isFromCustodian_of_reply {custodian : Custodian σ} {deadlines : Deadlines}
    {request : Request} {backend : σ} {cause : EngineError}
    (h : custodian.reply deadlines request backend = .error cause) :
    cause.isFromCustodian = true := by
  unfold reply at h
  split at h <;> cases h <;> rfl

theorem Submission.isFromCustodian_of_reply {custodian : Custodian σ} {deadlines : Deadlines}
    {submission : Submission} {backend : σ} {cause : EngineError}
    (h : submission.reply custodian deadlines backend = .error cause) :
    cause.isFromCustodian = true := by
  cases submission <;> exact Custodian.isFromCustodian_of_reply h

/-! ## What comes from a wait -/

/-- A session ends with the error of one of its calls, or with one of its own. -/
theorem Poll.Plan.producer_of_session {ε α β : Type} {plan : Plan σ ε α β} {e : End σ ε β}
    {attempt : Nat} {cause : ε} (h : plan.session = some e)
    (herror : e.result = .error (.producer attempt cause)) :
    ∃ i, (plan.call i).ended.1 = .error cause := by
  rcases plan.cancelled_eq_zero_or_stops with hzero | ⟨i, now, s, -, hstops⟩
  · rw [session_of_cancelled_zero hzero] at h
    cases h
    cases herror
  · rw [h] at hstops
    cases hstops with
    | settled =>
        unfold answer at herror
        cases hended : (plan.call i).ended.1 with
        | error own =>
            rw [hended] at herror
            cases herror
            exact ⟨i, hended⟩
        | ok a =>
            rw [hended] at herror
            dsimp only at herror
            split at herror <;> cases herror
    | cancelled | timedOut => cases herror

/-- Waiting for an approval fails by the custodian, by the user, or because no page is
offered. -/
theorem Deposit.error_of_awaitApproval {ctx : EngineContext σ} {paymentId : String}
    {cancel : Option Duration} {w : World σ} {cause : EngineError}
    (h : ((awaitApproval ctx paymentId cancel).run.run w).1 = .error cause) :
    cause.isFromCustodian = true ∨ cause = .cancelled ∨
      ∃ response, cause = .invalidResponse response := by
  rw [awaitApproval, run_bind, EngineStep.run_poll] at h
  dsimp only at h
  rw [run_bind, EngineStep.run_ofExcept] at h
  have hsession := Poll.Plan.session_ofTasks ctx.poll ctx.draw (fetchCharge ctx paymentId)
    authorised (cancel.map (· - w.now)) w
  generalize Poll.runTasks ctx.poll ctx.draw (fetchCharge ctx paymentId) authorised
    (cancel.map (· - w.now)) w = e at h hsession
  cases hresult : e.result with
  | ok found =>
      rw [hresult] at h
      dsimp only [Except.mapError] at h
      rw [run_bind, EngineStep.run_ask] at h
      split at h
      · cases h
      · next hreply =>
          cases h
          exact .inl (Custodian.isFromCustodian_of_reply (congrArg Prod.fst hreply))
  | error failure =>
      rw [hresult] at h
      dsimp only [Except.mapError] at h
      cases h
      cases failure with
      | timedOut => exact .inr (.inr ⟨_, rfl⟩)
      | cancelled => exact .inr (.inl rfl)
      | aborted => exact .inr (.inr ⟨_, rfl⟩)
      | producer attempt cause =>
          obtain ⟨i, hcall⟩ := Poll.Plan.producer_of_session hsession hresult
          exact .inl (Custodian.isFromCustodian_of_reply hcall)

namespace Flow

/-! ## What a flow can raise -/

/-- The errors of a call on a bound flow. -/
inductive Raises : FlowCall → FlowError → Prop
  | finished {call : FlowCall} (stage : Stage) : Raises call (.finished stage)
  | illegal {call : FlowCall} (stage : Stage) :
      Raises call (.illegalTransition stage call.operation)
  | negative {amount : Money} (negative : amount.isNegative = true) (condition : Precondition) :
      Raises (.updateAmount amount) (.engine (.precondition condition))
  | unavailable {level : FeeLevel} {customFee : Option UInt64} (other : level ≠ .none)
      (condition : Precondition) :
      Raises (.updateFeeLevel level customFee) (.engine (.precondition condition))
  | unassessed (cause : MoneyError) : Raises .validate (.engine (.money cause))
  | notAccepted {cancel : Option Duration} {cause : EngineError}
      (custodian : cause.isFromCustodian = true) :
      Raises (.execute cancel) (.engine cause)
  | unfinished {cancel : Option Duration} {failure : FollowUpError}
      (waited : failure.cause.isFromCustodian = true ∨ failure.cause = .cancelled ∨
        ∃ response, failure.cause = .invalidResponse response) :
      Raises (.execute cancel) (.postSubmission failure)

section

variable {ctx : EngineContext σ} {route : Route} {p₀ : Pending} {history : List FlowEvent}
  {s t : FlowState σ} {call : FlowCall} {error : FlowError}

/-- **A call raises what is listed**, as long as the pending transfer is vetted. -/
theorem Ends.raises (h : Ends ctx route s call (.error error) t)
    (hvetted : Vetted route p₀ history s.pending) : Raises call error := by
  cases h with
  | refused hrefused =>
      cases hrefused with
      | finished => exact .finished _
      | illegal => exact .illegal _
      | negative _ hnegative => exact .negative hnegative _
      | unavailable _ hunavailable =>
          refine .unavailable ?_ _
          rintro rfl
          rw [hvetted.feeSelection] at hunavailable
          cases hunavailable
      | unsummed hlegal hunsummed =>
          obtain ⟨lines, hsummed⟩ := exists_summary (hvetted.assessed hlegal)
          cases hunsummed.symm.trans hsummed
  | unassessed hvalidates hlegal hunassessed =>
      rcases hvalidates with rfl | ⟨cancel, rfl⟩
      · exact .unassessed _
      · have hconfirmed : s.pending.stage = .confirmed := by simpa [FlowCall.stages] using hlegal
        cases hunassessed.symm.trans (hvetted.assessed (by simp [hconfirmed]))
  | notExecutable hconfirmed hassessed hstopped =>
      cases hassessed.symm.trans (hvetted.assessed (by simp [hconfirmed]))
      exact (hstopped rfl).elim
  | notAccepted _ _ hreply => exact .notAccepted (Submission.isFromCustodian_of_reply hreply)
  | unfinished _ _ _ hfollowed =>
      refine .unfinished ?_
      unfold FlowState.followed Route.followUp at hfollowed
      split at hfollowed
      · exact Deposit.error_of_awaitApproval hfollowed
      · cases hfollowed

/-- Every run raises what is listed. -/
theorem Run.raises (h : Run (route.engine ctx) s history t)
    (hvetted : Vetted route p₀ [] s.pending) :
    ∀ call error, (call, .error error) ∈ history → Raises call error := by
  induction h with
  | refl => simp
  | @call history t run call ih =>
      intro other error hmem
      rcases List.mem_append.1 hmem with hbefore | hnow
      · exact ih other error hbefore
      · have hends := ends_apply ctx route t call
        obtain ⟨rfl, hanswer⟩ := Prod.mk.inj (List.mem_singleton.1 hnow)
        rw [← hanswer] at hends
        exact hends.raises (run.vetted hvetted)
  | meanwhile _ _ _ ih => exact ih

end

/-- An error is at home in a call. -/
structure InPlace (call : FlowCall) (error : FlowError) : Prop where
  /-- A condition that does not hold is one of the call itself. -/
  precondition : ∀ condition, error.cause? = some (.precondition condition) →
    (∃ amount, call = .updateAmount amount ∧ amount.isNegative = true) ∨
      ∃ level customFee, call = .updateFeeLevel level customFee ∧ level ≠ .none
  money : ∀ cause, error.cause? = some (.money cause) → call = .validate
  account : ∀ cause, error.cause? ≠ some (.account cause)
  unsupported : ∀ source target action, error.cause? ≠ some (.unsupported source target action)
  invalidResponse : ∀ response, error.cause? = some (.invalidResponse response) →
    ∃ id, error = .postSubmission ⟨id, .invalidResponse response⟩
  cancelled : error.cause? = some .cancelled → ∃ id, error = .postSubmission ⟨id, .cancelled⟩
  custodian : ∀ cause, error.cause? = some cause → cause.isFromCustodian = true →
    ∃ cancel, call = .execute cancel

theorem Raises.inPlace {call : FlowCall} {error : FlowError} (h : Raises call error) :
    InPlace call error := by
  cases h with
  | finished | illegal => constructor <;> simp [FlowError.cause?]
  | negative hnegative condition =>
      constructor <;> simp [FlowError.cause?, EngineError.isFromCustodian, hnegative]
  | unavailable hother condition =>
      constructor <;> simp [FlowError.cause?, EngineError.isFromCustodian, hother]
  | unassessed cause =>
      constructor <;> simp [FlowError.cause?, EngineError.isFromCustodian]
  | @notAccepted cancel cause hcustodian =>
      cases cause <;> cases hcustodian <;>
        constructor <;> simp [FlowError.cause?]
  | @unfinished cancel failure hwaited =>
      obtain ⟨id, cause⟩ := failure
      rcases hwaited with hcustodian | rfl | ⟨response, rfl⟩
      · cases cause <;> cases hcustodian <;> constructor <;> simp [FlowError.cause?]
      · constructor <;> simp [FlowError.cause?]
      · constructor <;> simp [FlowError.cause?]

/-- A flow on a bound engine fails to start by the custodian only. -/
theorem isFromCustodian_of_start {ctx : EngineContext σ} {route : Route} {w w₁ : World σ}
    {error : FlowError} (h : start (route.engine ctx) w = (.error error, w₁)) :
    ∃ cause, error = .engine cause ∧ cause.isFromCustodian = true := by
  unfold start at h
  split at h
  · cases h
  · next cause after hrun =>
      cases h
      refine ⟨cause, rfl, ?_⟩
      cases route with
      | deposit bank fiat =>
          rw [Route.run_initialise_deposit] at hrun
          cases hlimits : ctx.custodian.reply ctx.deadlines (.limits bank.currency true)
              w.backend with
          | ok limits =>
              rw [hlimits] at hrun
              cases hrun
          | error own =>
              rw [hlimits] at hrun
              cases hrun
              exact Custodian.isFromCustodian_of_reply hlimits
      | withdrawal fiat bank agree =>
          rw [Route.run_initialise_withdrawal] at hrun
          cases hlimits : ctx.custodian.reply ctx.deadlines (.limits fiat.currency false)
              w.backend with
          | error own =>
              rw [hlimits] at hrun
              cases hrun
              exact Custodian.isFromCustodian_of_reply hlimits
          | ok limits =>
              simp only [hlimits] at hrun
              cases hfee : ctx.custodian.reply ctx.deadlines (.withdrawalFee fiat.currency)
                  (w.answered ctx.custodian ctx.deadlines (.limits fiat.currency false)).backend with
              | ok fee =>
                  rw [hfee] at hrun
                  cases hrun
              | error own =>
                  rw [hfee] at hrun
                  cases hrun
                  exact Custodian.isFromCustodian_of_reply hfee

/-- **Every error keeps its place**: binding fails if there is no engine, or if a withdrawal
would change the currency, and on an engine that is bound every flow starts unless the
custodian fails, and every error of every run is at home in the call that gave it. -/
theorem errors_keep_their_place (ctx : EngineContext σ) (source target : Account)
    (action : TransferAction) :
    let key : EngineKey := ⟨source.kind, target.kind, action⟩
    let bound := (Registry.standard ctx).bind source target action
    ((∃ s t a, bound = .error (.unsupported s t a)) ↔
      key ≠ Registry.depositKey ∧ key ≠ Registry.withdrawalKey) ∧
    ((∃ condition, bound = .error (.precondition condition)) ↔
      key = Registry.withdrawalKey ∧ source.currency ≠ target.currency) ∧
    ((∃ e, bound = .ok e) ↔ key = Registry.depositKey ∨
      key = Registry.withdrawalKey ∧ source.currency = target.currency) ∧
    ∀ e, bound = .ok e →
      (∀ w₀ error w₁, start e w₀ = (.error error, w₁) →
        ∃ cause, error = .engine cause ∧ cause.isFromCustodian = true) ∧
      ∀ w₀ p₀ history s, History e w₀ p₀ history s →
        ∀ call error, (call, .error error) ∈ history → InPlace call error := by
  intro key bound
  obtain ⟨hunsupported, hprecondition, hok⟩ :=
    Registry.bind_standard_iff ctx source target action
  refine ⟨hunsupported, hprecondition, hok, fun e he => ?_⟩
  · obtain ⟨route, rfl, -, -, -⟩ := Route.exists_of_bind he
    refine ⟨fun w₀ error w₁ hstart => isFromCustodian_of_start hstart, ?_⟩
    rintro w₀ p₀ history s ⟨w₁, hstart, hrun⟩ call error hmem
    exact (hrun.raises (vetted_of_start hstart) call error hmem).inPlace

/-- A withdrawal of less than nothing is refused where it is entered. -/
theorem errors_keep_their_place_negative :
    ∃ p₀ history s condition,
      History Sample.withdrawal (.start ()) p₀ history s ∧
        (.updateAmount (Sample.pounds (-5)), .error (.engine (.precondition condition))) ∈ history ∧
        InPlace (.updateAmount (Sample.pounds (-5))) (.engine (.precondition condition)) := by
  have hbound : (Registry.standard (Sample.context Sample.obliging)).bind Sample.cash
      Sample.bank .withdraw = .ok Sample.withdrawal := rfl
  have hstart : start Sample.withdrawal (.start ()) = (.ok _, _) := rfl
  have hhistory := history_drive hstart [.updateAmount (Sample.pounds (-5))]
  obtain ⟨-, -, -, hplace⟩ := errors_keep_their_place (Sample.context Sample.obliging) Sample.cash
    Sample.bank .withdraw
  refine ⟨_, _, _, .amountMustNotBeNegative (Sample.pounds (-5)), hhistory, ?_,
    (hplace _ hbound).2 _ _ _ _ hhistory _ _ ?_⟩
  · exact List.mem_singleton_self _
  · exact List.mem_singleton_self _

end Flow

end FiatRamp
