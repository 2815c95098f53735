import FiatRamp.Proofs.Stages

/-!
# FiatRamp.Proofs.Conclusion

How calls conclude on any engine, whatever it answers.

Every call begins with one step of the engine (`FlowCall.engineStep`).
`Flow.Concludes` lists how a call goes on from the answer: what it gives, the
pending transfer it leaves and the stages it enters.  `Flow.concludes_apply`
says that there is no other way, so what holds of all engines is proved by
going through the list.
-/

namespace FiatRamp

namespace FlowCall

/-- The step of the engine a call begins with. -/
def engineStep (e : Engine σ) : FlowCall → Pending → EngineStep σ Pending
  | .updateAmount amount => (e.updateAmount · amount)
  | .updateFeeLevel level customFee => (e.updateFeeLevel · level customFee)
  | .validate | .execute _ => e.validateAll
  | .buildConfirmations => e.buildConfirmations

/-- What the engine answers to a call first. -/
def engineAnswer (call : FlowCall) (e : Engine σ) (s : FlowState σ) : Except EngineError Pending :=
  ((call.engineStep e s.pending).run.run s.world).1

end FlowCall

theorem Engine.LeavesStages.engineStep {e : Engine σ} (h : e.LeavesStages) (call : FlowCall)
    (p : Pending) : EntersNoStage (call.engineStep e p) := by
  cases call with
  | updateAmount amount => exact updateAmount e p amount
  | updateFeeLevel level customFee => exact h.updateFeeLevel p level customFee
  | validate | execute => exact h.validateAll p
  | buildConfirmations => exact h.buildConfirmations p

namespace Flow

/-! ## How calls conclude -/

/-- How a flow ends once it is executing: its answer, and the stage that goes with it. -/
inductive Settles : Except FlowError FlowAnswer → Stage → Prop where
  | notAccepted {cause : EngineError} : Settles (.error (.engine cause)) .failed
  | completed {result : TransferResult} :
      Settles (.ok (.outcome (.succeeded result))) .succeeded
  | approved {result : TransferResult} {approval : Approval} :
      Settles (.ok (.outcome (.awaitingApproval result approval))) .awaitingApproval
  | unfinished {failure : FollowUpError} : Settles (.error (.postSubmission failure)) .failed

/-- How a call concludes on an engine: its answer, the pending transfer it leaves and
the stages it enters. -/
inductive Concludes (e : Engine σ) (s : FlowState σ) :
    FlowCall → Except FlowError FlowAnswer → Pending → List Stage → Prop where
  | finished {call : FlowCall} (ended : s.pending.stage.isTerminal = true) :
      Concludes e s call (.error (.finished s.pending.stage)) s.pending []
  | illegal {call : FlowCall} (running : s.pending.stage.isTerminal = false)
      (outside : s.pending.stage ∉ call.stages) :
      Concludes e s call (.error (.illegalTransition s.pending.stage call.operation)) s.pending []
  /-- The engine does not let the call through. -/
  | barred {call : FlowCall} {cause : EngineError} (legal : s.pending.stage ∈ call.stages)
      (answer : call.engineAnswer e s = .error cause) :
      Concludes e s call (.error (.engine cause)) s.pending []
  | amountUpdated {amount : Money} {q : Pending} (legal : s.pending.stage ∈ beforeSubmission)
      (answer : (FlowCall.updateAmount amount).engineAnswer e s = .ok q) :
      Concludes e s (.updateAmount amount) (.ok .done)
        { q with confirmations := [], stage := .amountEntry } [.amountEntry]
  | feeUpdated {level : FeeLevel} {customFee : Option UInt64} {q : Pending}
      (legal : s.pending.stage ∈ beforeSubmission)
      (answer : (FlowCall.updateFeeLevel level customFee).engineAnswer e s = .ok q) :
      Concludes e s (.updateFeeLevel level customFee) (.ok .done)
        { q with confirmations := [], stage := .feeSelected } [.feeSelected]
  | validated {q : Pending} (legal : s.pending.stage ∈ beforeSubmission)
      (answer : FlowCall.validate.engineAnswer e s = .ok q) (passed : q.verdict = .canExecute) :
      Concludes e s .validate (.ok (.verdict .canExecute)) { q with stage := .validated }
        [.validated]
  | stopped {q : Pending} (legal : s.pending.stage ∈ beforeSubmission)
      (answer : FlowCall.validate.engineAnswer e s = .ok q) (stopped : q.verdict ≠ .canExecute) :
      Concludes e s .validate (.ok (.verdict q.verdict)) { q with stage := .amountEntry }
        [.amountEntry]
  | confirmed {q : Pending} (legal : s.pending.stage ∈ [.validated, .confirmed])
      (answer : FlowCall.buildConfirmations.engineAnswer e s = .ok q) :
      Concludes e s .buildConfirmations (.ok .done) { q with stage := .confirmed } [.confirmed]
  | notExecutable {cancel : Option Duration} {q : Pending} (legal : s.pending.stage = .confirmed)
      (answer : (FlowCall.execute cancel).engineAnswer e s = .ok q)
      (stopped : q.verdict ≠ .canExecute) :
      Concludes e s (.execute cancel) (.error (.notExecutable q.verdict))
        { q with stage := .amountEntry } [.amountEntry]
  | settled {cancel : Option Duration} {q : Pending} {outcome : Except FlowError FlowAnswer}
      {stage : Stage} (legal : s.pending.stage = .confirmed)
      (answer : (FlowCall.execute cancel).engineAnswer e s = .ok q)
      (passed : q.verdict = .canExecute) (settles : Settles outcome stage) :
      Concludes e s (.execute cancel) outcome { q with stage } [.executing, stage]

/-- A call concludes in one of the ways listed with an answer and a state.  The stages
it enters are the ones counted if the engine counts none itself. -/
def ConcludesIn (e : Engine σ) (s : FlowState σ) (call : FlowCall)
    (done : Except FlowError FlowAnswer × FlowState σ) : Prop :=
  ∃ entered, Concludes e s call done.1 done.2.pending entered ∧
    (e.LeavesStages → done.2.world.stages = s.world.stages ++ entered)

/-! ## Going through the calls -/

section

variable (e : Engine σ) (s : FlowState σ)

/-- Where the engine has answered, only the rest of the call is left to tell. -/
theorem concludes_of_answered {call : FlowCall} (next : Pending → FlowStep σ FlowAnswer)
    (hstep : call.step e = require call.operation call.stages >>= fun _ =>
      runOrFail (call.engineStep e) >>= next)
    (hnext : ∀ q w, s.pending.stage ∈ call.stages → call.engineAnswer e s = .ok q →
      (e.LeavesStages → w.stages = s.world.stages) →
        ConcludesIn e s call ((next q).run.run { s with world := w })) :
    ConcludesIn e s call (call.apply e s) := by
  rw [FlowCall.apply, hstep, run_require_bind]
  by_cases hend : s.pending.stage.isTerminal = true
  · rw [if_pos hend]
    exact ⟨[], .finished hend, fun _ => (List.append_nil _).symm⟩
  rw [if_neg hend]
  by_cases hin : s.pending.stage ∈ call.stages
  · rw [if_pos hin, run_bind, run_runOrFail]
    have hkept : e.LeavesStages →
        ((call.engineStep e s.pending).run.run s.world).2.stages = s.world.stages :=
      fun h => h.engineStep call s.pending s.world
    cases hanswer : ((call.engineStep e s.pending).run.run s.world).1 with
    | error cause =>
        exact ⟨[], .barred hin hanswer, fun h => (hkept h).trans (List.append_nil _).symm⟩
    | ok q => exact hnext q _ hin hanswer hkept
  · rw [if_neg hin]
    exact ⟨[], .illegal (by simpa using hend) hin, fun _ => (List.append_nil _).symm⟩

/-- A call that enters one stage and gives its answer. -/
theorem concludes_of_entered {call : FlowCall} {q : Pending} (p : Pending) {stage : Stage}
    {answer : FlowAnswer} {w : World σ} (hw : e.LeavesStages → w.stages = s.world.stages)
    (h : Concludes e s call (.ok answer) { p with stage } [stage]) :
    ConcludesIn e s call ((do setPending p; enter e.name stage; return answer :
      FlowStep σ FlowAnswer).run.run ⟨q, w⟩) := by
  refine ⟨_, h, fun hleaves => ?_⟩
  rw [← hw hleaves]
  exact World.stages_record _ _

theorem concludes_updateAmount (amount : Money) :
    ConcludesIn e s (.updateAmount amount) ((FlowCall.updateAmount amount).apply e s) := by
  refine concludes_of_answered e s (fun q => do
    setPending { q with confirmations := [] }
    enter e.name .amountEntry
    return .done) ?_ fun q w hlegal hanswer hw => ?_
  · simp only [FlowCall.step, updateAmount, bind_assoc]
    rfl
  · exact concludes_of_entered e s { q with confirmations := [] } hw
      (.amountUpdated (q := q) hlegal hanswer)

theorem concludes_updateFeeLevel (level : FeeLevel) (customFee : Option UInt64) :
    ConcludesIn e s (.updateFeeLevel level customFee)
      ((FlowCall.updateFeeLevel level customFee).apply e s) := by
  refine concludes_of_answered e s (fun q => do
    setPending { q with confirmations := [] }
    enter e.name .feeSelected
    return .done) ?_ fun q w hlegal hanswer hw => ?_
  · simp only [FlowCall.step, updateFeeLevel, bind_assoc]
    rfl
  · exact concludes_of_entered e s { q with confirmations := [] } hw
      (.feeUpdated (q := q) hlegal hanswer)

theorem concludes_validate : ConcludesIn e s .validate (FlowCall.validate.apply e s) := by
  refine concludes_of_answered e s (fun q => do
    setPending q
    enter e.name (if q.verdict = .canExecute then .validated else .amountEntry)
    return .verdict q.verdict) ?_ fun q w hlegal hanswer hw => ?_
  · simp only [FlowCall.step, validate, bind_assoc]
    rfl
  · by_cases hpass : q.verdict = .canExecute
    · rw [hpass, if_pos rfl]
      exact concludes_of_entered e s q hw (.validated hlegal hanswer hpass)
    · rw [if_neg hpass]
      exact concludes_of_entered e s q hw (.stopped hlegal hanswer hpass)

theorem concludes_buildConfirmations :
    ConcludesIn e s .buildConfirmations (FlowCall.buildConfirmations.apply e s) := by
  refine concludes_of_answered e s (fun q => do
    setPending q
    enter e.name .confirmed
    return .done) ?_ fun q w hlegal hanswer hw => ?_
  · simp only [FlowCall.step, buildConfirmations, bind_assoc]
    rfl
  · exact concludes_of_entered e s q hw (.confirmed hlegal hanswer)

/-- Whatever comes of the submission, the flow ends and keeps the rest of its pending
transfer. -/
theorem settles (m : FlowState σ) (cancel : Option Duration) :
    ∃ stage, Settles (((settle e cancel).run.run m).1.map .outcome) stage ∧
      ((settle e cancel).run.run m).2.pending = { m.pending with stage } ∧
      (e.LeavesStages →
        ((settle e cancel).run.run m).2.world.stages = m.world.stages ++ [stage]) := by
  have hended : ∀ (w : World σ) (stage : Stage), (e.LeavesStages → w.stages = m.world.stages) →
      e.LeavesStages → (w.record (.stage e.name stage)).stages = m.world.stages ++ [stage] := by
    intro w stage hw h
    rw [← hw h]
    exact World.stages_record _ _
  have hexecute := fun h : e.LeavesStages => h.execute m.pending m.world
  rw [settle, run_bind, run_run]
  cases hresult : (e.execute m.pending).run.run m.world with
  | mk result after =>
      rw [hresult] at hexecute
      cases result with
      | error cause => exact ⟨.failed, .notAccepted, rfl, hended after .failed hexecute⟩
      | ok result =>
          have hfollow := fun h : e.LeavesStages =>
            (h.followUp m.pending result cancel after).trans (hexecute h)
          dsimp only
          rw [run_bind, run_runFollowUp]
          cases hfollowed : (e.followUp m.pending result cancel).run.run after with
          | mk outcome later =>
              rw [hfollowed] at hfollow
              cases outcome with
              | error failure => exact ⟨.failed, .unfinished, rfl, hended later .failed hfollow⟩
              | ok followUp =>
                  cases followUp with
                  | completed =>
                      exact ⟨.succeeded, .completed, rfl, hended later .succeeded hfollow⟩
                  | needsApproval approval =>
                      exact ⟨.awaitingApproval, .approved, rfl,
                        hended later .awaitingApproval hfollow⟩

theorem concludes_execute (cancel : Option Duration) :
    ConcludesIn e s (.execute cancel) ((FlowCall.execute cancel).apply e s) := by
  refine concludes_of_answered e s (fun q => do
    setPending q
    (if q.verdict ≠ .canExecute then do
      enter e.name .amountEntry
      throw (.notExecutable q.verdict)
      enter e.name .executing
    else enter e.name .executing)
    return .outcome (← settle e cancel)) ?_ fun q w hlegal hanswer hw => ?_
  · simp only [FlowCall.step, execute, prepare, bind_assoc]
    rfl
  · have hconfirmed : s.pending.stage = .confirmed := by simpa [FlowCall.stages] using hlegal
    by_cases hpass : q.verdict = .canExecute
    · simp only [hpass, ne_eq, not_true_eq_false, if_false]
      change ConcludesIn e s _ ((settle e cancel >>= fun outcome => pure (.outcome outcome)).run.run
        ⟨{ q with stage := .executing }, w.record (.stage e.name .executing)⟩)
      obtain ⟨stage, hsettles, hpending, hstages⟩ :=
        settles e ⟨{ q with stage := .executing }, w.record (.stage e.name .executing)⟩ cancel
      rw [run_bind]
      generalize (settle e cancel).run.run _ = done at hsettles hpending hstages
      obtain ⟨outcome, after⟩ := done
      have hconcludes : Concludes e s (.execute cancel) (outcome.map .outcome) after.pending
          [.executing, stage] := by
        rw [hpending]
        exact .settled (q := q) hconfirmed hanswer hpass hsettles
      have hentered : e.LeavesStages →
          after.world.stages = s.world.stages ++ [.executing, stage] := by
        intro h
        rw [hstages h, World.stages_record, hw h, List.append_assoc]
        rfl
      cases outcome <;> exact ⟨_, hconcludes, hentered⟩
    · simp only [hpass, ne_eq, not_false_eq_true, if_true]
      refine ⟨_, .notExecutable hconfirmed hanswer hpass, fun h => ?_⟩
      rw [← hw h]
      exact World.stages_record _ _

/-- **Every call concludes in one of the ways listed**, whatever the engine answers. -/
theorem concludes_apply (call : FlowCall) : ConcludesIn e s call (call.apply e s) := by
  cases call with
  | updateAmount amount => exact concludes_updateAmount e s amount
  | updateFeeLevel level customFee => exact concludes_updateFeeLevel e s level customFee
  | validate => exact concludes_validate e s
  | buildConfirmations => exact concludes_buildConfirmations e s
  | execute cancel => exact concludes_execute e s cancel

end

end Flow

end FiatRamp
