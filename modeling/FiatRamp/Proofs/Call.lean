import FiatRamp.Flow
import FiatRamp.Proofs.Route

/-!
# FiatRamp.Proofs.Call

Every way a call on a flow can end.

A flow is driven by calls (`FlowCall`), each of which gives an answer and
another state (`FlowCall.apply`).  `Flow.Ends` lists how a call on the engine
of a route ends, one constructor for each way, and `Flow.ends_apply` says that
there is no other.  What a flow preserves is then proved by going through the
list.
-/

namespace FiatRamp

/-! ## Calls -/

/-- What a flow is asked to do. -/
inductive FlowCall where
  | updateAmount (amount : Money)
  | updateFeeLevel (level : FeeLevel) (customFee : Option UInt64)
  | validate
  | buildConfirmations
  /-- The argument is the time at which the user cancels. -/
  | execute (cancel : Option Duration)
  deriving DecidableEq

/-- What a call that succeeds gives. -/
inductive FlowAnswer where
  | done
  | verdict (verdict : Verdict)
  | outcome (outcome : FlowOutcome)
  deriving DecidableEq

namespace FlowCall

/-- The operation of a flow that a call runs. -/
def step (e : Engine σ) : FlowCall → FlowStep σ FlowAnswer
  | .updateAmount amount => do Flow.updateAmount e amount; return .done
  | .updateFeeLevel level customFee => do Flow.updateFeeLevel e level customFee; return .done
  | .validate => return .verdict (← Flow.validate e)
  | .buildConfirmations => do Flow.buildConfirmations e; return .done
  | .execute cancel => return .outcome (← Flow.execute e cancel)

/-- The answer to a call, and the state it leaves. -/
def apply (call : FlowCall) (e : Engine σ) (s : FlowState σ) :
    Except FlowError FlowAnswer × FlowState σ := (call.step e).run.run s

/-- The operation of a call, as errors name it. -/
def operation : FlowCall → FlowOperation
  | .updateAmount _ => .updateAmount
  | .updateFeeLevel .. => .updateFeeLevel
  | .validate => .validate
  | .buildConfirmations => .buildConfirmations
  | .execute _ => .execute

/-- The stages at which a call has a place. -/
def stages : FlowCall → List Stage
  | .updateAmount _ | .updateFeeLevel .. | .validate => Flow.beforeSubmission
  | .buildConfirmations => [.validated, .confirmed]
  | .execute _ => [.confirmed]

end FlowCall

/-! ## What calls do to the state -/

namespace FlowState

/-- The flow at another stage, which is counted. -/
def enter (s : FlowState σ) (route : Route) (stage : Stage) : FlowState σ where
  pending := { s.pending with stage }
  world := s.world.record (.stage route.name stage)

/-- The flow once a validation was counted. -/
def counting (s : FlowState σ) (route : Route) : FlowState σ :=
  { s with world := s.world.recordAll ((route.counted s.pending).map (.validation route.name)) }

/-- The flow once a validation came to a verdict. -/
def judged (s : FlowState σ) (route : Route) (verdict : Verdict) : FlowState σ where
  pending := { s.pending with verdict }
  world := (s.counting route).world

/-- The flow at the moment the custodian is asked to move money. -/
def executing (s : FlowState σ) (route : Route) : FlowState σ :=
  (s.judged route .canExecute).enter route .executing

/-- What comes of the submission the flow would make. -/
def reply (s : FlowState σ) (ctx : EngineContext σ) (route : Route) : Except EngineError String :=
  (route.submission ctx s.pending).reply ctx.custodian ctx.deadlines s.world.backend

/-- The world once the submission was answered or cut off, and counted. -/
def submitted (s : FlowState σ) (ctx : EngineContext σ) (route : Route) : World σ :=
  ((s.executing route).world.answered ctx.custodian ctx.deadlines
    (route.submission ctx s.pending).request).record
      (.submission route.name (s.reply ctx route).isOk)

/-- What follows a submission that was accepted under an id. -/
def followed (s : FlowState σ) (ctx : EngineContext σ) (route : Route) (id : String)
    (cancel : Option Duration) : Except EngineError FollowUp × World σ :=
  (route.followUp ctx id cancel).run.run (s.submitted ctx route)

/-- The flow at the end of an execution, at a terminal stage. -/
def ended (s : FlowState σ) (route : Route) (w : World σ) (stage : Stage) : FlowState σ :=
  ({ pending := (s.executing route).pending, world := w } : FlowState σ).enter route stage

end FlowState

/-! ## How calls end -/

/-- A call that is refused, and the error that says why. -/
inductive Flow.Refuses (route : Route) (p : Pending) : FlowCall → FlowError → Prop where
  | finished {call : FlowCall} (ended : p.stage.isTerminal = true) :
      Refuses route p call (.finished p.stage)
  | illegal {call : FlowCall} (running : p.stage.isTerminal = false)
      (outside : p.stage ∉ call.stages) :
      Refuses route p call (.illegalTransition p.stage call.operation)
  | negative {amount : Money} (legal : p.stage ∈ Flow.beforeSubmission)
      (negative : amount.isNegative = true) :
      Refuses route p (.updateAmount amount)
        (.engine (.precondition (.amountMustNotBeNegative amount)))
  | unavailable {level : FeeLevel} {customFee : Option UInt64}
      (legal : p.stage ∈ Flow.beforeSubmission)
      (unavailable : p.feeSelection.isAvailable level = false) :
      Refuses route p (.updateFeeLevel level customFee)
        (.engine (.precondition (.levelMustBeAvailable level route.name)))
  | unsummed {cause : MoneyError} (legal : p.stage ∈ [.validated, .confirmed])
      (unsummed : route.summary p = .error cause) :
      Refuses route p .buildConfirmations (.engine (.money cause))

/-- How a call on the engine of a route ends: its answer and the state it leaves. -/
inductive Flow.Ends (ctx : EngineContext σ) (route : Route) (s : FlowState σ) :
    FlowCall → Except FlowError FlowAnswer → FlowState σ → Prop where
  /-- Nothing happens. -/
  | refused {call : FlowCall} {error : FlowError} (refused : Refuses route s.pending call error) :
      Ends ctx route s call (.error error) s
  /-- A validation fails; what it counted before that stays counted. -/
  | unassessed {call : FlowCall} {cause : MoneyError}
      (validates : call = .validate ∨ ∃ cancel, call = .execute cancel)
      (legal : s.pending.stage ∈ call.stages)
      (unassessed : route.assess s.pending = .error cause) :
      Ends ctx route s call (.error (.engine (.money cause))) (s.counting route)
  | amountUpdated {amount : Money} (legal : s.pending.stage ∈ Flow.beforeSubmission)
      (nonnegative : amount.isNegative = false) :
      Ends ctx route s (.updateAmount amount) (.ok .done)
        (({ s with pending := { s.pending with amount, confirmations := [] } } :
          FlowState σ).enter route .amountEntry)
  | feeUpdated {level : FeeLevel} {customFee : Option UInt64}
      (legal : s.pending.stage ∈ Flow.beforeSubmission)
      (available : s.pending.feeSelection.isAvailable level = true) :
      Ends ctx route s (.updateFeeLevel level customFee) (.ok .done)
        (({ s with pending := { s.pending with
            feeSelection :=
              { selected := level
                available := s.pending.feeSelection.available
                customAmount := if level = .custom then customFee else none }
            confirmations := [] } } : FlowState σ).enter route .feeSelected)
  | validated {verdict : Verdict} (legal : s.pending.stage ∈ Flow.beforeSubmission)
      (assessed : route.assess s.pending = .ok verdict) :
      Ends ctx route s .validate (.ok (.verdict verdict))
        ((s.judged route verdict).enter route
          (if verdict = .canExecute then .validated else .amountEntry))
  | confirmed {confirmations : List Confirmation}
      (legal : s.pending.stage ∈ [.validated, .confirmed])
      (summed : route.summary s.pending = .ok confirmations) :
      Ends ctx route s .buildConfirmations (.ok .done)
        (({ s with pending := { s.pending with confirmations } } : FlowState σ).enter route
          .confirmed)
  | notExecutable {cancel : Option Duration} {verdict : Verdict}
      (legal : s.pending.stage = .confirmed) (assessed : route.assess s.pending = .ok verdict)
      (stopped : verdict ≠ .canExecute) :
      Ends ctx route s (.execute cancel) (.error (.notExecutable verdict))
        ((s.judged route verdict).enter route .amountEntry)
  | notAccepted {cancel : Option Duration} {cause : EngineError}
      (legal : s.pending.stage = .confirmed) (passed : route.assess s.pending = .ok .canExecute)
      (reply : s.reply ctx route = .error cause) :
      Ends ctx route s (.execute cancel) (.error (.engine cause))
        (s.ended route (s.submitted ctx route) .failed)
  | completed {cancel : Option Duration} {id : String}
      (legal : s.pending.stage = .confirmed) (passed : route.assess s.pending = .ok .canExecute)
      (reply : s.reply ctx route = .ok id)
      (followed : (s.followed ctx route id cancel).1 = .ok .completed) :
      Ends ctx route s (.execute cancel)
        (.ok (.outcome (.succeeded (route.result id s.pending.amount))))
        (s.ended route (s.followed ctx route id cancel).2 .succeeded)
  | approved {cancel : Option Duration} {id : String} {approval : Approval}
      (legal : s.pending.stage = .confirmed) (passed : route.assess s.pending = .ok .canExecute)
      (reply : s.reply ctx route = .ok id)
      (followed : (s.followed ctx route id cancel).1 = .ok (.needsApproval approval)) :
      Ends ctx route s (.execute cancel)
        (.ok (.outcome (.awaitingApproval (route.result id s.pending.amount) approval)))
        (s.ended route (s.followed ctx route id cancel).2 .awaitingApproval)
  | unfinished {cancel : Option Duration} {id : String} {cause : EngineError}
      (legal : s.pending.stage = .confirmed) (passed : route.assess s.pending = .ok .canExecute)
      (reply : s.reply ctx route = .ok id)
      (followed : (s.followed ctx route id cancel).1 = .error cause) :
      Ends ctx route s (.execute cancel) (.error (.postSubmission ⟨id, cause⟩))
        (s.ended route (s.followed ctx route id cancel).2 .failed)

/-! ## Running the operations -/

namespace Flow

section

variable (s : FlowState σ)

theorem run_require (operation : FlowOperation) (stages : List Stage) :
    (require operation stages : FlowStep σ Unit).run.run s =
      (if s.pending.stage.isTerminal then .error (.finished s.pending.stage)
        else if s.pending.stage ∈ stages then .ok ()
        else .error (.illegalTransition s.pending.stage operation), s) := by
  have hget : (get : FlowStep σ (FlowState σ)).run.run s = (.ok s, s) := rfl
  rw [require, run_bind, hget]
  cases hend : s.pending.stage.isTerminal with
  | true => simp only [hend, if_true]; rfl
  | false =>
      by_cases hin : s.pending.stage ∈ stages
      · simp only [hend, hin, List.contains_eq_mem, decide_true]; rfl
      · simp only [hend, hin, List.contains_eq_mem, decide_false]; rfl

/-- An operation is let through at its stages only. -/
theorem run_require_bind {α : Type} (operation : FlowOperation) (stages : List Stage)
    (next : Unit → FlowStep σ α) :
    (require operation stages >>= next).run.run s =
      if s.pending.stage.isTerminal then (.error (.finished s.pending.stage), s)
      else if s.pending.stage ∈ stages then (next ()).run.run s
      else (.error (.illegalTransition s.pending.stage operation), s) := by
  rw [run_bind, run_require]
  cases s.pending.stage.isTerminal with
  | true => rfl
  | false => by_cases hin : s.pending.stage ∈ stages <;> simp [hin]

theorem run_run {α : Type} (step : Pending → EngineStep σ α) :
    (run step).run.run s =
      (.ok ((step s.pending).run.run s.world).1,
        { s with world := ((step s.pending).run.run s.world).2 }) := rfl

theorem run_runOrFail {α : Type} (step : Pending → EngineStep σ α) :
    (runOrFail step).run.run s =
      (((step s.pending).run.run s.world).1.mapError .engine,
        { s with world := ((step s.pending).run.run s.world).2 }) := by
  rw [runOrFail, run_bind, run_run]
  cases ((step s.pending).run.run s.world).1 <;> rfl

theorem run_runFollowUp (e : Engine σ) (result : TransferResult) (cancel : Option Duration) :
    (runFollowUp e result cancel).run.run s =
      (.ok ((e.followUp s.pending result cancel).run.run s.world).1,
        { s with world := ((e.followUp s.pending result cancel).run.run s.world).2 }) := rfl

theorem run_setPending (p : Pending) :
    (setPending p : FlowStep σ Unit).run.run s = (.ok (), { s with pending := p }) := rfl

end

/-! ## Every way a call can end -/

section

variable (ctx : EngineContext σ) (route : Route) (s : FlowState σ)

/-- A call is refused at the wrong stage, so only its legal run is left to tell. -/
theorem ends_of_legal {call : FlowCall} {α : Type} {next : Unit → FlowStep σ α}
    (wrap : α → FlowAnswer)
    (hstep : call.step (route.engine ctx) =
      (require call.operation call.stages >>= next) >>= fun a => pure (wrap a))
    (hlegal : s.pending.stage ∈ call.stages →
      Ends ctx route s call (((next ()).run.run s).1.map wrap) ((next ()).run.run s).2) :
    Ends ctx route s call (call.apply (route.engine ctx) s).1
      (call.apply (route.engine ctx) s).2 := by
  rw [FlowCall.apply, hstep, run_bind, run_require_bind]
  by_cases hend : s.pending.stage.isTerminal = true
  · rw [if_pos hend]
    exact .refused (.finished hend)
  rw [if_neg hend]
  by_cases hin : s.pending.stage ∈ call.stages
  · rw [if_pos hin]
    have hrun := hlegal hin
    cases h : (next ()).run.run s with
    | mk result after =>
        rw [h] at hrun
        cases result <;> exact hrun
  · rw [if_neg hin]
    exact .refused (.illegal (by simpa using hend) hin)

theorem ends_updateAmount (amount : Money) :
    Ends ctx route s (.updateAmount amount)
      ((FlowCall.updateAmount amount).apply (route.engine ctx) s).1
      ((FlowCall.updateAmount amount).apply (route.engine ctx) s).2 := by
  refine ends_of_legal ctx route s (fun _ => .done) rfl fun hlegal => ?_
  rw [run_bind, run_runOrFail, Route.run_updateAmount, Route.name_engine]
  cases hsign : amount.isNegative with
  | true => exact .refused (.negative hlegal hsign)
  | false => exact .amountUpdated hlegal hsign

theorem ends_updateFeeLevel (level : FeeLevel) (customFee : Option UInt64) :
    Ends ctx route s (.updateFeeLevel level customFee)
      ((FlowCall.updateFeeLevel level customFee).apply (route.engine ctx) s).1
      ((FlowCall.updateFeeLevel level customFee).apply (route.engine ctx) s).2 := by
  refine ends_of_legal ctx route s (fun _ => .done) rfl fun hlegal => ?_
  rw [run_bind, run_runOrFail, Route.run_updateFeeLevel, Route.name_engine]
  cases havailable : s.pending.feeSelection.isAvailable level with
  | false => exact .refused (.unavailable hlegal havailable)
  | true => exact .feeUpdated hlegal havailable

theorem ends_validate :
    Ends ctx route s .validate (FlowCall.validate.apply (route.engine ctx) s).1
      (FlowCall.validate.apply (route.engine ctx) s).2 := by
  refine ends_of_legal ctx route s .verdict rfl fun hlegal => ?_
  rw [run_bind, run_runOrFail, Route.run_validateAll, Route.name_engine]
  cases hassess : route.assess s.pending with
  | error cause => exact .unassessed (.inl rfl) hlegal hassess
  | ok verdict => exact .validated hlegal hassess

theorem ends_buildConfirmations :
    Ends ctx route s .buildConfirmations
      (FlowCall.buildConfirmations.apply (route.engine ctx) s).1
      (FlowCall.buildConfirmations.apply (route.engine ctx) s).2 := by
  refine ends_of_legal ctx route s (fun _ => .done) rfl fun hlegal => ?_
  rw [run_bind, run_runOrFail, Route.run_buildConfirmations, Route.name_engine]
  cases hsummary : route.summary s.pending with
  | error cause => exact .refused (.unsummed hlegal hsummary)
  | ok confirmations => exact .confirmed hlegal hsummary

/-- Before the submission everything is validated once more. -/
theorem run_prepare (hlegal : s.pending.stage = .confirmed) :
    (prepare (route.engine ctx)).run.run s =
      match route.assess s.pending with
      | .error cause => (.error (.engine (.money cause)), s.counting route)
      | .ok verdict =>
        if verdict = .canExecute then (.ok (), s.executing route)
        else (.error (.notExecutable verdict), (s.judged route verdict).enter route .amountEntry) := by
  have hrunning : s.pending.stage.isTerminal = false := by rw [hlegal]; rfl
  rw [prepare, run_require_bind, hrunning, if_neg (by simp), if_pos (by simp [hlegal]), run_bind,
    run_runOrFail, Route.run_validateAll, Route.name_engine]
  cases hassess : route.assess s.pending with
  | error cause => rfl
  | ok verdict =>
      by_cases hpass : verdict = .canExecute
      · subst hpass
        rfl
      · simp only [Except.map, Except.mapError, hpass, if_false]
        rw [run_bind, run_setPending]
        simp only [ne_eq, hpass, not_false_eq_true, if_true]
        rfl

/-- The submission decides how the flow goes on, and what follows how it ends. -/
theorem run_settle (cancel : Option Duration) :
    (settle (route.engine ctx) cancel).run.run (s.executing route) =
      match s.reply ctx route with
      | .error cause => (.error (.engine cause), s.ended route (s.submitted ctx route) .failed)
      | .ok id =>
        let done := s.followed ctx route id cancel
        match done.1 with
        | .ok .completed =>
          (.ok (.succeeded (route.result id s.pending.amount)), s.ended route done.2 .succeeded)
        | .ok (.needsApproval approval) =>
          (.ok (.awaitingApproval (route.result id s.pending.amount) approval),
            s.ended route done.2 .awaitingApproval)
        | .error cause =>
          (.error (.postSubmission ⟨id, cause⟩), s.ended route done.2 .failed) := by
  -- the submission is made with the pending transfer as it was confirmed
  have hexecute : ((route.engine ctx).execute (s.executing route).pending).run.run
        (s.executing route).world =
      ((s.reply ctx route).map fun id => route.result id s.pending.amount,
        s.submitted ctx route) := by
    rw [Route.run_execute]
    cases route <;> rfl
  have hfollow : ∀ id : String, (runFollowUp (route.engine ctx)
        (route.result id s.pending.amount) cancel).run.run
          { (s.executing route) with world := s.submitted ctx route } =
      (.ok ((s.followed ctx route id cancel).1.mapError fun cause => ⟨id, cause⟩),
        { (s.executing route) with world := (s.followed ctx route id cancel).2 }) := by
    intro id
    rw [run_runFollowUp, Route.run_followUp]
    rfl
  rw [settle, run_bind, run_run, hexecute]
  cases hreply : s.reply ctx route with
  | error cause =>
      rw [Route.name_engine]
      rfl
  | ok id =>
      simp only [Except.map]
      rw [run_bind, hfollow, Route.name_engine]
      dsimp only
      cases (s.followed ctx route id cancel).1 with
      | error cause => rfl
      | ok followUp => cases followUp <;> rfl

theorem ends_execute (cancel : Option Duration) :
    Ends ctx route s (.execute cancel) ((FlowCall.execute cancel).apply (route.engine ctx) s).1
      ((FlowCall.execute cancel).apply (route.engine ctx) s).2 := by
  have hstep : (FlowCall.execute cancel).step (route.engine ctx) =
      (prepare (route.engine ctx) >>= fun _ => settle (route.engine ctx) cancel) >>=
        fun outcome => pure (.outcome outcome) := rfl
  rw [FlowCall.apply, hstep, run_bind, run_bind]
  by_cases hlegal : s.pending.stage = .confirmed
  · rw [run_prepare ctx route s hlegal]
    cases hassess : route.assess s.pending with
    | error cause => exact .unassessed (.inr ⟨cancel, rfl⟩) (by simp [FlowCall.stages, hlegal]) hassess
    | ok verdict =>
        by_cases hpass : verdict = .canExecute
        · subst hpass
          simp only [if_true, run_settle]
          cases hreply : s.reply ctx route with
          | error cause => exact .notAccepted hlegal hassess hreply
          | ok id =>
              dsimp only
              cases hfollowed : (s.followed ctx route id cancel).1 with
              | error cause => exact .unfinished hlegal hassess hreply hfollowed
              | ok followUp =>
                  cases followUp with
                  | completed => exact .completed hlegal hassess hreply hfollowed
                  | needsApproval approval => exact .approved hlegal hassess hreply hfollowed
        · simp only [hpass, if_false]
          exact .notExecutable hlegal hassess hpass
  · rw [prepare, run_require_bind]
    by_cases hend : s.pending.stage.isTerminal = true
    · rw [if_pos hend]
      exact .refused (.finished hend)
    · rw [if_neg hend, if_neg (by simpa using hlegal)]
      have houtside : s.pending.stage ∉ (FlowCall.execute cancel).stages := by
        simpa [FlowCall.stages] using hlegal
      exact .refused (.illegal (by simpa using hend) houtside)

/-- **Every call ends in one of the ways listed.** -/
theorem ends_apply (call : FlowCall) :
    Ends ctx route s call (call.apply (route.engine ctx) s).1
      (call.apply (route.engine ctx) s).2 := by
  cases call with
  | updateAmount amount => exact ends_updateAmount ctx route s amount
  | updateFeeLevel level customFee => exact ends_updateFeeLevel ctx route s level customFee
  | validate => exact ends_validate ctx route s
  | buildConfirmations => exact ends_buildConfirmations ctx route s
  | execute cancel => exact ends_execute ctx route s cancel

end

end Flow

end FiatRamp
