import FiatRamp.Proofs.Call
import FiatRamp.Proofs.FollowUp

/-!
# FiatRamp.Proofs.Stages

Stages, as they are counted.

A flow enters a stage and counts it at once, so the stages it has been through
can be read off what was counted (`World.stages`).  This takes an engine that
counts no stages of its own (`Engine.LeavesStages`), and neither of the two
engines does (`Engine.IsBuiltIn.leavesStages`).
-/

namespace FiatRamp

/-! ## Stages that were counted -/

/-- The stage an event says was entered. -/
def Metric.stage? : Metric → Option Stage
  | .stage _ entered => some entered
  | _ => none

namespace World

/-- The stages entered so far, in order. -/
def stages (w : World σ) : List Stage := w.metrics.filterMap Metric.stage?

@[simp] theorem stages_record (w : World σ) (m : Metric) :
    (w.record m).stages = w.stages ++ m.stage?.toList := by
  rw [stages, metrics_record, List.filterMap_append]
  cases h : m.stage? <;> simp [stages, h]

/-- What is no stage leaves the stages alone. -/
theorem stages_record_of_none (w : World σ) {m : Metric} (h : m.stage? = none) :
    (w.record m).stages = w.stages := by
  rw [stages_record, h, Option.toList_none, List.append_nil]

end World

/-! ## Steps that enter no stage -/

/-- A step enters no stage. -/
def EntersNoStage {ε α : Type} (step : ExceptT ε (StateM (World σ)) α) : Prop :=
  ∀ w, (step.run.run w).2.stages = w.stages

namespace EntersNoStage

section

variable {ε α β : Type}

theorem pure (a : α) : EntersNoStage (pure a : ExceptT ε (StateM (World σ)) α) := fun _ => rfl

theorem throw (e : ε) : EntersNoStage (throw e : ExceptT ε (StateM (World σ)) α) := fun _ => rfl

theorem bind {step : ExceptT ε (StateM (World σ)) α} {next : α → ExceptT ε (StateM (World σ)) β}
    (h : EntersNoStage step) (hnext : ∀ a, EntersNoStage (next a)) :
    EntersNoStage (step >>= next) := by
  intro w
  rw [run_bind]
  have hstep := h w
  cases hrun : step.run.run w with
  | mk result after =>
      rw [hrun] at hstep
      cases result with
      | error => exact hstep
      | ok a => exact (hnext a after).trans hstep

theorem ofExcept (result : Except EngineError α) :
    EntersNoStage (EngineStep.ofExcept result : EngineStep σ α) := fun _ => rfl

theorem ofMoney (result : Except MoneyError α) :
    EntersNoStage (EngineStep.ofMoney result : EngineStep σ α) := fun _ => rfl

theorem record {m : Metric} (h : m.stage? = none) :
    EntersNoStage (EngineStep.record m : EngineStep σ Unit) := fun w =>
  w.stages_record_of_none h

theorem attempt {step : EngineStep σ α} (h : EntersNoStage step) :
    EntersNoStage step.attempt := by
  intro w
  rw [EngineStep.run_attempt]
  exact h w

theorem ask (custodian : Custodian σ) (deadlines : Deadlines) (request : Request) :
    EntersNoStage (EngineStep.ask custodian deadlines request) := fun _ => rfl

/-- A poll session enters no stage if its producer enters none. -/
theorem poll {task : World σ → Task (World σ) (Except EngineError α)}
    (hstarted : ∀ w, (task w).started.stages = w.stages)
    (hended : ∀ w, (task w).ended.2.stages = w.stages) (settings : PollSettings)
    (draw : Nat → Nat) (extract : α → Option β) (cancel : Option Duration) :
    EntersNoStage (EngineStep.poll settings draw task extract cancel) := by
  intro w
  have hstate := Poll.runTasks_preserves (P := fun after : World σ => after.stages = w.stages)
    (fun v hv => (hstarted v).trans hv) (fun v hv => (hended v).trans hv) settings draw extract
    (cancel.map (· - w.now)) rfl
  rw [EngineStep.run_poll]
  dsimp only
  split
  · exact (World.stages_record_of_none _ rfl).trans hstate
  · exact hstate

end

/-! ## The two engines -/

theorem classifyAmount (name : String) (p : Pending) :
    EntersNoStage (Engine.classifyAmount name p : EngineStep σ Pending) := by
  unfold Engine.classifyAmount
  split
  · exact .pure _
  · exact .bind (.ofMoney _) fun _ => .bind (.record rfl) fun _ => .pure _

theorem classifyBalance (p : Pending) :
    EntersNoStage (Withdrawal.classifyBalance p : EngineStep σ Pending) := by
  unfold Withdrawal.classifyBalance
  split
  · exact .pure _
  · refine .bind (.ofMoney _) fun verdict => ?_
    split
    · exact .bind (.record rfl) fun _ => .pure _
    · exact .pure _

theorem submit (name : String) {step : EngineStep σ String} (h : EntersNoStage step) :
    EntersNoStage (Engine.submit name step) :=
  .bind (.attempt h) fun _ => .bind (.record rfl) fun _ => .ofExcept _

theorem awaitApproval (ctx : EngineContext σ) (paymentId : String) (cancel : Option Duration) :
    EntersNoStage (Deposit.awaitApproval ctx paymentId cancel) :=
  .bind (.poll (fun _ => rfl) (fun _ => rfl) _ _ _ _) fun _ =>
    .bind (.ofExcept _) fun _ => .bind (.ask _ _ _) fun _ => .pure _

end EntersNoStage

/-- An engine leaves the stages to the flow: none of the hooks a flow runs enters one. -/
structure Engine.LeavesStages (e : Engine σ) : Prop where
  onInitialise : EntersNoStage e.onInitialise
  onFeeLevel : ∀ p level customFee, EntersNoStage (e.onFeeLevel p level customFee)
  onConfirmations : ∀ p, EntersNoStage (e.onConfirmations p)
  onValidateAll : ∀ p, EntersNoStage (e.onValidateAll p)
  onExecute : ∀ p, EntersNoStage (e.onExecute p)
  onFollowUp : ∀ p result cancel, EntersNoStage (e.onFollowUp p result cancel)

namespace Engine.LeavesStages

variable {e : Engine σ} (h : e.LeavesStages) (p : Pending)

theorem updateAmount (e : Engine σ) (p : Pending) (amount : Money) :
    EntersNoStage (e.updateAmount p amount) := by
  refine .bind (.ofExcept e.checkAccounts) fun _ => ?_
  cases amount.isNegative with
  | true => exact .throw _
  | false => exact .pure _

include h

theorem initialise : EntersNoStage e.initialise :=
  .bind (.ofExcept e.checkAccounts) fun _ => h.onInitialise

theorem updateFeeLevel (level : FeeLevel) (customFee : Option UInt64) :
    EntersNoStage (e.updateFeeLevel p level customFee) := by
  refine .bind (.ofExcept e.checkAccounts) fun _ => ?_
  cases p.feeSelection.isAvailable level with
  | false => exact .throw _
  | true =>
      cases p.feeSelection.select level customFee with
      | none => exact .throw _
      | some feeSelection => exact h.onFeeLevel _ _ _

theorem buildConfirmations : EntersNoStage (e.buildConfirmations p) :=
  .bind (.ofExcept e.checkAccounts) fun _ => h.onConfirmations p

theorem validateAll : EntersNoStage (e.validateAll p) :=
  .bind (.ofExcept e.checkAccounts) fun _ => h.onValidateAll p

theorem execute : EntersNoStage (e.execute p) :=
  .bind (.ofExcept e.checkAccounts) fun _ => h.onExecute p

theorem followUp (result : TransferResult) (cancel : Option Duration) :
    EntersNoStage (e.followUp p result cancel) := fun w =>
  EntersNoStage.bind (.ofExcept e.checkAccounts) (fun _ => h.onFollowUp p result cancel) w

end Engine.LeavesStages

theorem Deposit.leavesStages (ctx : EngineContext σ) (source target : Account) :
    (Engine.deposit ctx source target).LeavesStages where
  onInitialise := .bind (.ofExcept _) fun _ => .bind (.ask _ _ _) fun _ => .pure _
  onFeeLevel _ _ _ := .pure _
  onConfirmations _ := .bind (.ofExcept _) fun _ => .pure _
  onValidateAll := EntersNoStage.classifyAmount _
  onExecute _ := .bind (.ofExcept _) fun _ => .bind (.submit _ (.ask _ _ _)) fun _ => .pure _
  onFollowUp _ result _ := by
    unfold Engine.deposit
    dsimp only
    split
    · exact .pure _
    · cases result with
      | payment => exact .awaitApproval _ _ _
      | order => exact .throw _

theorem Withdrawal.leavesStages (ctx : EngineContext σ) (source target : Account) :
    (Engine.withdrawal ctx source target).LeavesStages where
  onInitialise :=
    .bind (.ofExcept _) fun _ => .bind (.ask _ _ _) fun _ => .bind (.ask _ _ _) fun _ => .pure _
  onFeeLevel _ _ _ := .pure _
  onConfirmations _ := .bind (.ofMoney _) fun _ => .pure _
  onValidateAll _ := .bind (.classifyAmount _ _) EntersNoStage.classifyBalance
  onExecute _ := .bind (.ofExcept _) fun _ => .bind (.submit _ (.ask _ _ _)) fun _ => .pure _
  onFollowUp _ _ _ := .pure _

/-- **Both engines leave the stages to the flow**, whatever their accounts. -/
theorem Engine.IsBuiltIn.leavesStages {ctx : EngineContext σ} {e : Engine σ}
    (h : e.IsBuiltIn ctx) : e.LeavesStages := by
  obtain ⟨source, target, rfl | rfl⟩ := h
  · exact Deposit.leavesStages ctx source target
  · exact Withdrawal.leavesStages ctx source target

end FiatRamp
