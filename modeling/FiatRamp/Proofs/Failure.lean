import FiatRamp.Proofs.Conclusion
import FiatRamp.Proofs.Safety

/-!
# FiatRamp.Proofs.Failure

What a call that fails leaves of the flow.

A call fails before it changes anything, whatever the engine answers.  Only an
execution goes further: it may send the flow back to the amount, or end it, and
then the pending transfer is the one that was validated last
(`Flow.failed_call_leaves_flow`).
-/

namespace FiatRamp

namespace Sample

/-- A custodian that accepts no withdrawal. -/
def refusing : Custodian Unit := fun request backend =>
  match request with
  | .withdraw .. => .done (.error (.rejected "account frozen")) backend
  | request => obliging request backend

/-- The engine of the withdrawal it refuses. -/
def refusedWithdrawal : Engine Unit := .withdrawal (context refusing) cash bank

end Sample

namespace Flow

/-- The pending transfer is what it was, and the flow has entered no stage. -/
structure Untouched (e : Engine σ) (s t : FlowState σ) : Prop where
  pending : t.pending = s.pending
  /-- None is counted either, unless the engine counts stages itself. -/
  stages : e.LeavesStages → t.world.stages = s.world.stages

/-- What a failed execution leaves of a flow, with the error it fails with. -/
inductive FailedExecution (e : Engine σ) (s t : FlowState σ) : FlowError → Prop where
  | finished (untouched : Untouched e s t) : FailedExecution e s t (.finished s.pending.stage)
  | illegal (untouched : Untouched e s t) :
      FailedExecution e s t (.illegalTransition s.pending.stage .execute)
  /-- Validation fails with an error of its own. -/
  | notValidated {cause : EngineError} (untouched : Untouched e s t)
      (validated : ((e.validateAll s.pending).run.run s.world).1 = .error cause) :
      FailedExecution e s t (.engine cause)
  /-- Validation stops the transfer, which goes back to the entry of the amount. -/
  | notExecutable {q : Pending}
      (validated : ((e.validateAll s.pending).run.run s.world).1 = .ok q)
      (stopped : q.verdict ≠ .canExecute) (pending : t.pending = { q with stage := .amountEntry })
      (stages : e.LeavesStages → t.world.stages = s.world.stages ++ [.amountEntry]) :
      FailedExecution e s t (.notExecutable q.verdict)
  /-- The transfer has passed, and what came after that has failed. -/
  | failed {q : Pending} {error : FlowError}
      (validated : ((e.validateAll s.pending).run.run s.world).1 = .ok q)
      (passed : q.verdict = .canExecute) (pending : t.pending = { q with stage := .failed })
      (stages : e.LeavesStages → t.world.stages = s.world.stages ++ [.executing, .failed])
      (cause : (∃ cause, error = .engine cause) ∨ ∃ failure, error = .postSubmission failure) :
      FailedExecution e s t error

section

variable {e : Engine σ} {s t : FlowState σ} {call : FlowCall} {cancel : Option Duration}
  {error : FlowError}

/-- A call that fails and is no execution has concluded before anything was changed. -/
theorem ConcludesIn.untouched (h : ConcludesIn e s call (.error error, t))
    (hcall : ∀ cancel, call ≠ .execute cancel) : Untouched e s t := by
  obtain ⟨entered, hconcludes, hentered⟩ := h
  generalize hpending : t.pending = p at hconcludes
  cases hconcludes with
  | finished | illegal | barred =>
      exact ⟨hpending, fun hleaves => (hentered hleaves).trans (List.append_nil _)⟩
  | notExecutable | settled => exact (hcall _ rfl).elim

/-- A failed execution has concluded in one of the ways a failed one can. -/
theorem ConcludesIn.failedExecution (h : ConcludesIn e s (.execute cancel) (.error error, t)) :
    FailedExecution e s t error := by
  obtain ⟨entered, hconcludes, hentered⟩ := h
  generalize hpending : t.pending = p at hconcludes
  have huntouched : p = s.pending → entered = [] → Untouched e s t := by
    rintro rfl rfl
    exact ⟨hpending, fun hleaves => (hentered hleaves).trans (List.append_nil _)⟩
  cases hconcludes with
  | finished => exact .finished (huntouched rfl rfl)
  | illegal => exact .illegal (huntouched rfl rfl)
  | barred _ hanswer => exact .notValidated (huntouched rfl rfl) hanswer
  | notExecutable _ hanswer hstopped => exact .notExecutable hanswer hstopped hpending hentered
  | settled _ hanswer hpassed hsettles =>
      cases hsettles with
      | notAccepted => exact .failed hanswer hpassed hpending hentered (.inl ⟨_, rfl⟩)
      | unfinished => exact .failed hanswer hpassed hpending hentered (.inr ⟨_, rfl⟩)

end

/-- **Failed calls leave the flow intact**, on any engine and at any stage: a call other
than an execution that fails has touched nothing.  A failed execution has touched
nothing either, or sends the transfer it has just validated back to the entry of the
amount, or ends the flow with it. -/
theorem failed_call_leaves_flow (e : Engine σ) (s : FlowState σ) :
    (∀ ctx, e.IsBuiltIn ctx → e.LeavesStages) ∧
      (∀ (call : FlowCall) t error, (∀ cancel, call ≠ .execute cancel) →
        call.apply e s = (.error error, t) → Untouched e s t) ∧
      ∀ cancel t error, (FlowCall.execute cancel).apply e s = (.error error, t) →
        FailedExecution e s t error := by
  refine ⟨fun ctx builtIn => builtIn.leavesStages, ?_, ?_⟩
  · intro call t error hcall hfailed
    have hconcludes := concludes_apply e s call
    rw [hfailed] at hconcludes
    exact hconcludes.untouched hcall
  · intro cancel t error hfailed
    have hconcludes := concludes_apply e s (.execute cancel)
    rw [hfailed] at hconcludes
    exact hconcludes.failedExecution

/-- A negative amount changes nothing, and a withdrawal that is refused ends the flow. -/
theorem failed_call_leaves_flow_refused :
    ∃ p₀ history s t u,
      History Sample.refusedWithdrawal (.start ()) p₀ history s ∧
        ((FlowCall.updateAmount (Sample.pounds (-1))).apply Sample.refusedWithdrawal s).2 = t ∧
        Untouched Sample.refusedWithdrawal s t ∧ t.world.stages = s.world.stages ∧
        ((FlowCall.execute none).apply Sample.refusedWithdrawal s).2 = u ∧
        FailedExecution Sample.refusedWithdrawal s u
          (.engine (.provider (.rejected "account frozen"))) ∧
        u.pending = { s.pending with stage := .failed } := by
  have hbuiltIn : Sample.refusedWithdrawal.IsBuiltIn (Sample.context Sample.refusing) :=
    ⟨Sample.cash, Sample.bank, .inr rfl⟩
  have hstart : start Sample.refusedWithdrawal (.start ()) = (.ok _, _) := rfl
  have hhistory := history_drive hstart Sample.confirming
  have hfailed := fun p₀ history s
    (_ : History Sample.refusedWithdrawal (.start ()) p₀ history s) =>
      failed_call_leaves_flow Sample.refusedWithdrawal s
  obtain ⟨hleaves, hcalls, hexecutions⟩ := hfailed _ _ _ hhistory
  have hnegative := hcalls (.updateAmount (Sample.pounds (-1))) _ _ (by simp) rfl
  exact ⟨_, _, _, _, _, hhistory, rfl, hnegative, hnegative.stages (hleaves _ hbuiltIn), rfl,
    hexecutions none _ _ rfl, by decide +kernel⟩

end Flow

end FiatRamp
