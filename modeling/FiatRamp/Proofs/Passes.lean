import FiatRamp.Proofs.Conservation
import FiatRamp.Proofs.Deadlines

/-!
# FiatRamp.Proofs.Passes

Which verdicts validations count.

A validation pass counts the verdict it ends in.  A full check of a withdrawal
holds the amount against its limits first and counts that verdict as well, so a
withdrawal whose amount passes and whose balance does not is counted as one
that passes on top (`Pass.fallsShort`, `Engine.counts_twice`).  Nothing else that an
engine or a flow does counts a verdict (`Session.verdicts`, `Flow.Run.session`), so a
counter tells how many passes ended in its verdict, and in the case of a pass how
many fell short (`Engine.counts_passes`).
-/

namespace FiatRamp

/-! ## Counted verdicts -/

namespace Metric

/-- The engine and the verdict of a validation that is counted. -/
def verdict? : Metric → Option (String × Verdict)
  | .validation engine verdict => some (engine, verdict)
  | _ => none

/-- The verdicts that were counted, each with its engine. -/
def verdicts (counted : List Metric) : List (String × Verdict) := counted.filterMap verdict?

section

variable (counted more : List Metric) (name : String) (verdict : Verdict)

@[simp] theorem verdicts_append : verdicts (counted ++ more) = verdicts counted ++ verdicts more :=
  List.filterMap_append

@[simp] theorem verdicts_validations (given : List Verdict) :
    verdicts (given.map (.validation name)) = given.map (name, ·) := by
  simp [verdicts, List.filterMap_map, Function.comp_def, verdict?]

/-- A counter of validations tells how often its verdict was counted. -/
theorem count_validation :
    counted.count (.validation name verdict) = (verdicts counted).count (name, verdict) := by
  induction counted with
  | nil => rfl
  | cons m counted ih =>
      rw [List.count_cons, ih, ← List.singleton_append, verdicts_append, List.count_append,
        Nat.add_comm]
      congr 1
      cases m with
      | validation engine other =>
          by_cases hsame : engine = name ∧ other = verdict <;>
            simp [verdicts, verdict?, hsame]
      | stage | submission | pollSession => rfl

end

end Metric

/-! ## Passes -/

/-- What a validation holds against the terms of a transfer. -/
inductive Check where
  | amount
  | everything
  deriving DecidableEq

/-- The validation of an engine. -/
def Engine.check (e : Engine σ) : Check → Pending → EngineStep σ Pending
  | .amount => e.validateAmount
  | .everything => e.validateAll

/-- A validation pass on an engine: what it was put to, and what came of it. -/
structure Pass where
  engine : String
  /-- The engine accepts its accounts. -/
  suits : Bool
  check : Check
  pending : Pending
  result : Except EngineError Pending

/-- The pass of a validation that is run in a world. -/
def Engine.pass (e : Engine σ) (check : Check) (p : Pending) (w : World σ) : Pass :=
  ⟨e.name, e.checkAccounts.isOk, check, p, ((e.check check p).run.run w).1⟩

namespace Pass

variable (pass : Pass)

/-- The verdict a pass has ended in, unless it has failed or has left a transfer alone that
nobody has touched. -/
def verdict? : Option Verdict :=
  if pass.pending.isUntouched then none
  else match pass.result with
    | .ok p => some p.verdict
    | .error _ => none

/-- A full check of a withdrawal that accepts its accounts lets its amount pass, and then
not its balance. -/
def fallsShort : Bool :=
  pass.suits = true ∧ pass.check = .everything ∧ pass.engine = Withdrawal.engineName ∧
    pass.pending.classifyAmount = .ok .canExecute ∧
    pass.pending.classifyBalance ≠ .ok .canExecute

/-- The verdicts a pass counts: its own and, if it falls short, one too many before. -/
def counted : List Verdict :=
  (if pass.fallsShort then [.canExecute] else []) ++ pass.verdict?.toList

/-- The pass was one on an engine of this name, and ended in the verdict. -/
def endsIn (name : String) (verdict : Verdict) : Bool :=
  pass.engine = name ∧ pass.verdict? = some verdict

/-- The pass was one on an engine of this name, and fell short. -/
def fallsShortOn (name : String) : Bool := pass.engine = name ∧ pass.fallsShort = true

/-- How often a pass counts a verdict. -/
theorem count_counted (name : String) (verdict : Verdict) :
    (pass.counted.map (pass.engine, ·)).count (name, verdict) =
      (if pass.endsIn name verdict then 1 else 0) +
        if verdict = .canExecute ∧ pass.fallsShortOn name then 1 else 0 := by
  unfold endsIn fallsShortOn
  by_cases hname : pass.engine = name
  · rw [hname, List.count_map_of_injective _ _ (Prod.mk_right_injective name), counted,
      List.count_append, Nat.add_comm]
    congr 1
    · cases pass.verdict? with
      | none => simp
      | some own => by_cases hown : own = verdict <;> simp [hown]
    · cases pass.fallsShort with
      | false => simp
      | true => by_cases hpass : verdict = .canExecute <;> simp [hpass, eq_comm]
  · have hnone : (name, verdict) ∉ pass.counted.map (pass.engine, ·) := by simp [hname]
    rw [List.count_eq_zero.2 hnone]
    simp [hname]

/-- How often several passes count a verdict. -/
theorem count_flatMap_counted (passes : List Pass) (name : String) (verdict : Verdict) :
    (passes.flatMap fun pass => pass.counted.map (pass.engine, ·)).count (name, verdict) =
      passes.countP (·.endsIn name verdict) +
        if verdict = .canExecute then passes.countP (·.fallsShortOn name) else 0 := by
  induction passes with
  | nil => simp
  | cons pass passes ih =>
      rw [List.flatMap_cons, List.count_append, ih, count_counted, List.countP_cons,
        List.countP_cons]
      by_cases hpass : verdict = .canExecute
      · simp only [hpass, true_and, if_true]
        omega
      · simp only [hpass, false_and, if_false]
        omega

end Pass

namespace Route

section

variable (ctx : EngineContext σ) (route : Route) (p : Pending) (w : World σ)

/-- A full check counts what its pass counts. -/
theorem counted_eq :
    route.counted p = Pass.counted ⟨route.name, true, .everything, p,
      ((route.assess p).map fun verdict => { p with verdict }).mapError .money⟩ := by
  unfold Pass.counted Pass.verdict? Pass.fallsShort counted assess
  by_cases huntouched : p.isUntouched = true
  · have hstopped : p.classifyAmount ≠ .ok .canExecute := fun hpass => by
      simp [isUntouched_eq_false hpass] at huntouched
    simp [huntouched, hstopped]
  · simp only [huntouched]
    cases route with
    | deposit =>
        cases p.classifyAmount <;>
          simp [name, Deposit.engineName, Withdrawal.engineName, Except.map, Except.mapError]
    | withdrawal =>
        cases hamount : p.classifyAmount with
        | error => simp [Except.map, Except.mapError, bind, Except.bind]
        | ok verdict =>
            by_cases hpass : verdict = .canExecute
            · -- the balance decides whether the verdict on the amount was one too many
              rw [shortfall]
              cases hbalance : p.classifyBalance with
              | error => simp [hpass, name, Except.map, Except.mapError, bind, Except.bind]
              | ok other =>
                  rcases classifyBalance_eq_ok p hbalance with rfl | rfl <;>
                    simp [hpass, name, Except.map, Except.mapError, bind, Except.bind]
            · simp [hpass, Except.map, Except.mapError, bind, Except.bind]

/-- A pass counts its verdict, and one that falls short one more. -/
theorem run_check (check : Check) :
    (((route.engine ctx).check check p).run.run w).2 =
      w.recordAll (((route.engine ctx).pass check p w).counted.map (.validation route.name)) := by
  cases check with
  | amount =>
      have hrun := run_validateAmount ctx route p w
      rw [run_classifyAmount] at hrun
      simp only [Pass.counted, Pass.verdict?, Pass.fallsShort, Engine.pass, Engine.check, hrun]
      by_cases huntouched : p.isUntouched = true
      · simp [huntouched, World.recordAll_nil]
      · cases p.classifyAmount <;>
          simp [huntouched, World.recordAll_nil, World.recordAll_singleton]
  | everything =>
      have hrun := run_validateAll ctx route p w
      simp only [Engine.pass, Engine.check, hrun, name_engine, checkAccounts_engine]
      rw [counted_eq]
      rfl

/-! ### What counts no verdict -/

theorem metrics_initialise : ((route.engine ctx).initialise.run.run w).2.metrics = w.metrics := by
  cases route with
  | deposit => rw [run_initialise_deposit]; rfl
  | withdrawal fiat bank agree =>
      rw [run_initialise_withdrawal]
      cases ctx.custodian.reply ctx.deadlines (.limits fiat.currency false) w.backend <;> rfl

theorem verdicts_execute :
    Metric.verdicts (((route.engine ctx).execute p).run.run w).2.metrics =
      Metric.verdicts w.metrics := by
  rw [run_execute]
  exact (Metric.verdicts_append ..).trans (List.append_nil _)

theorem verdicts_awaitApproval (id : String) (cancel : Option Duration) :
    Metric.verdicts ((Deposit.awaitApproval ctx id cancel).run.run w).2.metrics =
      Metric.verdicts w.metrics := by
  obtain ⟨outcome, attempts, asked, hsince, -⟩ := Deposit.since_awaitApproval ctx id cancel w
  rw [hsince.metrics, Metric.verdicts_append]
  exact List.append_nil _

theorem verdicts_followUp (result : TransferResult) (cancel : Option Duration) :
    Metric.verdicts (((route.engine ctx).followUp p result cancel).run.run w).2.metrics =
      Metric.verdicts w.metrics := by
  rw [run_followUp_hook]
  cases h : route.isAuthorised with
  | false => rw [run_onFollowUp_of_not_isAuthorised ctx route w p result cancel h]
  | true =>
      cases result with
      | payment id amount =>
          rw [(onFollowUp_of_isAuthorised ctx route p h id amount cancel).1]
          exact verdicts_awaitApproval ctx w id cancel
      | order id amount =>
          rw [(onFollowUp_of_isAuthorised ctx route p h id amount cancel).2]
          rfl

end

end Route

/-! ## Calls -/

/-- The passes of a call: one if it is a validation. -/
def EngineCall.passes (e : Engine σ) (w : World σ) : EngineCall → List Pass
  | .validateAmount p => [e.pass .amount p w]
  | .validateAll p => [e.pass .everything p w]
  | .initialise | .updateAmount .. | .updateFeeLevel .. | .buildConfirmations _ | .execute _
  | .followUp .. => []

/-- Every call counts the verdicts of its passes, and no others. -/
theorem Route.verdicts_call (ctx : EngineContext σ) (route : Route) (w : World σ)
    (call : EngineCall) :
    Metric.verdicts ((call.step (route.engine ctx)).run.run w).2.metrics =
      Metric.verdicts w.metrics ++ (call.passes (route.engine ctx) w).flatMap fun pass =>
        pass.counted.map (pass.engine, ·) := by
  have hpass : ∀ check p, Metric.verdicts
      (((route.engine ctx).check check p).run.run w).2.metrics =
        Metric.verdicts w.metrics ++ [(route.engine ctx).pass check p w].flatMap fun pass =>
          pass.counted.map (pass.engine, ·) := by
    intro check p
    rw [run_check, World.metrics_recordAll, Metric.verdicts_append, Metric.verdicts_validations,
      List.flatMap_singleton, ← name_engine ctx]
    rfl
  have hquiet : ∀ {α : Type} (step : EngineStep σ α),
      Metric.verdicts (step.run.run w).2.metrics = Metric.verdicts w.metrics →
        Metric.verdicts ((step >>= fun _ => pure ()).run.run w).2.metrics =
          Metric.verdicts w.metrics ++ [] := by
    intro α step hstep
    rw [run_bind_pure, hstep, List.append_nil]
  cases call with
  | validateAmount p =>
      rw [EngineCall.step, run_bind_pure]
      exact hpass .amount p
  | validateAll p =>
      rw [EngineCall.step, run_bind_pure]
      exact hpass .everything p
  | initialise => exact hquiet _ (by rw [metrics_initialise])
  | updateAmount => exact hquiet _ (by rw [run_updateAmount])
  | updateFeeLevel => exact hquiet _ (by rw [run_updateFeeLevel])
  | buildConfirmations => exact hquiet _ (by rw [run_buildConfirmations])
  | execute p => exact hquiet _ (verdicts_execute ctx route p w)
  | followUp p result cancel => exact hquiet _ (verdicts_followUp ctx route p w result cancel)

/-- The engine of a route is one of the two. -/
theorem Route.isBuiltIn_engine (ctx : EngineContext σ) (route : Route) :
    (route.engine ctx).IsBuiltIn ctx := by
  refine ⟨route.source, route.target, ?_⟩
  cases route with
  | deposit => exact .inl rfl
  | withdrawal => exact .inr rfl

namespace Engine

section

variable {ctx : EngineContext σ} {e : Engine σ} {cause : EngineError}

/-- An engine that does not accept its accounts validates nothing. -/
theorem run_check_of_unsuited (h : e.checkAccounts = .error cause) (check : Check) (p : Pending)
    (w : World σ) : (e.check check p).run.run w = (.error cause, w) := by
  cases check with
  | amount => rw [Engine.check, validateAmount, run_assertAccounts_bind, h]
  | everything => rw [Engine.check, validateAll, run_assertAccounts_bind, h]

/-- Its passes fail, and count nothing. -/
theorem counted_pass_of_unsuited (h : e.checkAccounts = .error cause) (check : Check)
    (p : Pending) (w : World σ) : (e.pass check p w).counted = [] := by
  have hfails : (e.pass check p w).result = .error cause := by
    rw [pass, run_check_of_unsuited h]
  have hunsuited : (e.pass check p w).suits = false := by
    rw [pass, h]
    rfl
  simp [Pass.counted, Pass.verdict?, Pass.fallsShort, hfails, hunsuited]

/-- **A pass counts its verdict**, and one that falls short one more. -/
theorem IsBuiltIn.run_check (h : e.IsBuiltIn ctx) (check : Check) (p : Pending) (w : World σ) :
    ((e.check check p).run.run w).2 =
      w.recordAll ((e.pass check p w).counted.map (.validation e.name)) := by
  cases hcheck : e.checkAccounts with
  | error =>
      rw [run_check_of_unsuited hcheck, counted_pass_of_unsuited hcheck, List.map_nil,
        World.recordAll_nil]
  | ok =>
      obtain ⟨route, rfl⟩ := h.exists_route hcheck
      rw [Route.run_check, Route.name_engine]

/-- **Every call counts the verdicts of its passes**, and no others. -/
theorem IsBuiltIn.verdicts_call (h : e.IsBuiltIn ctx) (w : World σ) (call : EngineCall) :
    Metric.verdicts ((call.step e).run.run w).2.metrics =
      Metric.verdicts w.metrics ++ (call.passes e w).flatMap fun pass =>
        pass.counted.map (pass.engine, ·) := by
  cases hcheck : e.checkAccounts with
  | error =>
      rw [call.run_of_unsuited hcheck]
      cases call <;> simp [EngineCall.passes, counted_pass_of_unsuited hcheck]
  | ok =>
      obtain ⟨route, rfl⟩ := h.exists_route hcheck
      exact route.verdicts_call ctx w call

end

end Engine

/-! ## Sessions -/

/-- Calls on engines, made in one world one after the other, and the passes among them. -/
inductive Session (ctx : EngineContext σ) (w : World σ) : List Pass → World σ → Prop where
  | refl : Session ctx w [] w
  | call {passes : List Pass} {v : World σ} (session : Session ctx w passes v) {e : Engine σ}
      (builtIn : e.IsBuiltIn ctx) (call : EngineCall) :
      Session ctx w (passes ++ call.passes e v) ((call.step e).run.run v).2
  /-- A flow that has made a call enters a stage. -/
  | stage {passes : List Pass} {v : World σ} (session : Session ctx w passes v) (name : String)
      (stage : Stage) : Session ctx w passes (v.record (.stage name stage))
  /-- Between two calls time passes, and the custodian changes as it likes. -/
  | meanwhile {passes : List Pass} {v : World σ} (session : Session ctx w passes v) (backend : σ)
      (now : Duration) : Session ctx w passes { v with backend, now }

namespace Session

variable {ctx : EngineContext σ} {w v : World σ} {passes : List Pass}

/-- **What is counted in a session**: the verdicts of its passes, in order. -/
theorem verdicts (h : Session ctx w passes v) :
    Metric.verdicts v.metrics =
      Metric.verdicts w.metrics ++ passes.flatMap fun pass => pass.counted.map (pass.engine, ·) := by
  induction h with
  | refl => simp
  | call _ builtIn call ih =>
      rw [builtIn.verdicts_call, ih, List.flatMap_append, List.append_assoc]
  | stage _ name stage ih =>
      rw [World.metrics_record, Metric.verdicts_append, ih]
      exact List.append_nil _
  | meanwhile _ _ _ ih => exact ih

/-- The counter of a verdict after a session. -/
theorem count_validation (h : Session ctx w passes v) (name : String) (verdict : Verdict) :
    v.metrics.count (.validation name verdict) =
      w.metrics.count (.validation name verdict) + (passes.countP (·.endsIn name verdict) +
        if verdict = .canExecute then passes.countP (·.fallsShortOn name) else 0) := by
  rw [Metric.count_validation, Metric.count_validation, h.verdicts, List.count_append,
    Pass.count_flatMap_counted]

section

variable {s : FlowState σ} (h : Session ctx w passes s.world) (route : Route)

include h

/-- A flow checks everything. -/
theorem counting :
    Session ctx w (passes ++ [(route.engine ctx).pass .everything s.pending s.world])
      (s.counting route).world := by
  have hcall := h.call (route.isBuiltIn_engine ctx) (.validateAll s.pending)
  rw [EngineCall.step, run_bind_pure, Route.run_validateAll] at hcall
  exact hcall

/-- A flow submits its transfer after it has checked everything. -/
theorem submitted :
    Session ctx w (passes ++ [(route.engine ctx).pass .everything s.pending s.world])
      (s.submitted ctx route) := by
  have hcall := ((h.counting route).stage route.name .executing).call
    (route.isBuiltIn_engine ctx) (.execute (s.executing route).pending)
  rw [EngineCall.step, run_bind_pure, Route.run_execute, EngineCall.passes,
    List.append_nil] at hcall
  exact hcall

/-- A flow sees to what follows its submission. -/
theorem followed (id : String) (cancel : Option Duration) :
    Session ctx w (passes ++ [(route.engine ctx).pass .everything s.pending s.world])
      (s.followed ctx route id cancel).2 := by
  have hcall := (h.submitted route).call (route.isBuiltIn_engine ctx)
    (.followUp s.pending (route.result id s.pending.amount) cancel)
  have hrun := route.run_followUp ctx s.pending (s.submitted ctx route) id s.pending.amount cancel
  have hworld : ((EngineCall.followUp s.pending (route.result id s.pending.amount) cancel).step
      (route.engine ctx)).run.run (s.submitted ctx route) = _ := run_bind_pure ..
  rw [hworld, EngineCall.passes, List.append_nil] at hcall
  have hsame := congrArg Prod.snd hrun
  dsimp only at hsame
  exact hsame ▸ hcall

end

end Session

namespace Flow

section

variable {ctx : EngineContext σ} {route : Route} {w : World σ} {passes : List Pass}
  {s t : FlowState σ} {call : FlowCall} {answer : Except FlowError FlowAnswer}
  {history : List FlowEvent}

/-- A call on a flow is some calls on its engine, at most one of which is a validation. -/
theorem Ends.session (h : Ends ctx route s call answer t) (hs : Session ctx w passes s.world) :
    ∃ more, Session ctx w (passes ++ more) t.world ∧
      (more = [] ∨ more = [(route.engine ctx).pass .everything s.pending s.world]) := by
  cases h with
  | refused => exact ⟨[], by rwa [List.append_nil], .inl rfl⟩
  | amountUpdated | feeUpdated | confirmed =>
      exact ⟨[], by rw [List.append_nil]; exact hs.stage route.name _, .inl rfl⟩
  | unassessed => exact ⟨_, hs.counting route, .inr rfl⟩
  | validated => exact ⟨_, (hs.counting route).stage route.name _, .inr rfl⟩
  | notExecutable => exact ⟨_, (hs.counting route).stage route.name _, .inr rfl⟩
  | notAccepted => exact ⟨_, (hs.submitted route).stage route.name _, .inr rfl⟩
  | completed | approved | unfinished =>
      exact ⟨_, (hs.followed route _ _).stage route.name _, .inr rfl⟩

/-- **A flow is a session**, whose passes check everything on its engine. -/
theorem Run.session (h : Run (route.engine ctx) s history t) :
    ∃ passes, Session ctx s.world passes t.world ∧
      ∀ pass ∈ passes, pass.engine = route.name ∧ pass.check = .everything := by
  induction h with
  | refl => exact ⟨[], .refl, by simp⟩
  | call _ call ih =>
      obtain ⟨passes, hsession, hpasses⟩ := ih
      obtain ⟨more, hmore, hnew⟩ := (ends_apply ctx route _ call).session hsession
      refine ⟨passes ++ more, hmore, fun pass hmem => ?_⟩
      rcases List.mem_append.1 hmem with hold | hlast
      · exact hpasses pass hold
      · rcases hnew with rfl | rfl
        · cases hlast
        · rw [List.mem_singleton.1 hlast]
          exact ⟨route.name_engine ctx, rfl⟩
  | meanwhile _ backend _ ih =>
      obtain ⟨passes, hsession, hpasses⟩ := ih
      exact ⟨passes, hsession.meanwhile backend _, hpasses⟩

end

end Flow

/-- **What the counters of validations tell**: a pass counts the verdict it ends in and
nothing if it is skipped or fails, save that one that falls short counts its amount as
well.  So after every session, and after every run of a flow, the counter of a verdict
has gone up by the number of passes that ended in it, and that of transfers that can be
executed by the number of passes that fell short on top. -/
theorem Engine.counts_passes (ctx : EngineContext σ) :
    (∀ e : Engine σ, e.IsBuiltIn ctx → ∀ (check : Check) (p : Pending) (w : World σ),
      ((e.check check p).run.run w).2.metrics =
        w.metrics ++ (e.pass check p w).counted.map (.validation e.name)) ∧
    (∀ (w v : World σ) (passes : List Pass), Session ctx w passes v →
      ∀ (name : String) (verdict : Verdict),
        v.metrics.count (.validation name verdict) =
          w.metrics.count (.validation name verdict) + (passes.countP (·.endsIn name verdict) +
            if verdict = .canExecute then passes.countP (·.fallsShortOn name) else 0)) ∧
    ∀ (route : Route) (s t : FlowState σ) (history : List FlowEvent),
      Flow.Run (route.engine ctx) s history t →
        ∃ passes, Session ctx s.world passes t.world ∧
          ∀ pass ∈ passes, pass.engine = route.name ∧ pass.check = .everything := by
  refine ⟨fun e builtIn check p w => ?_, fun w v passes h name verdict => ?_,
    fun route s t history h => h.session⟩
  · rw [builtIn.run_check, World.metrics_recordAll]
  · exact h.count_validation name verdict

namespace Sample

/-- Two hundred pounds, on their way to the bank from an account with half of that. -/
def overdrawn : Pending := { largestTransfer with amount := pounds 200 }

end Sample

/-- Five pounds and two hundred pounds are counted as two passes that let the transfer pass,
one of which fell short. -/
theorem Engine.counts_passes_overdrawn :
    ∃ passes v, Session (Sample.context Sample.unbounded) (.start ()) passes v ∧
      passes.map (·.verdict?) = [some .canExecute, some .insufficientFunds] ∧
      passes.countP (·.fallsShortOn Withdrawal.engineName) = 1 ∧
      v.metrics.count (.validation Withdrawal.engineName .canExecute) = 2 ∧
      v.metrics.count (.validation Withdrawal.engineName .insufficientFunds) = 1 := by
  have hsession : Session (Sample.context Sample.unbounded) (.start ()) _ _ :=
    (Session.refl.call Sample.isBuiltIn_unboundedWithdrawal
      (.validateAll { Sample.overdrawn with amount := Sample.pounds 5 })).call
        Sample.isBuiltIn_unboundedWithdrawal (.validateAll Sample.overdrawn)
  obtain ⟨-, hcounts, -⟩ := Engine.counts_passes (Sample.context Sample.unbounded)
  have hpassed := hcounts _ _ _ hsession Withdrawal.engineName .canExecute
  have hstopped := hcounts _ _ _ hsession Withdrawal.engineName .insufficientFunds
  exact ⟨_, _, hsession, by decide +kernel, by decide +kernel,
    hpassed.trans (by decide +kernel), hstopped.trans (by decide +kernel)⟩

/-- **A pass that is counted twice**: two hundred pounds are more than the balance, and are
counted as a transfer that can be executed all the same; so is the largest amount, whose
check fails. -/
theorem Engine.counts_twice :
    (∃ q w, (Sample.unboundedWithdrawal.validateAll Sample.overdrawn).run.run (.start ()) =
        (.ok q, w) ∧ q.verdict = .insufficientFunds ∧
        w.metrics = [.validation Withdrawal.engineName .canExecute,
          .validation Withdrawal.engineName .insufficientFunds]) ∧
      ∃ cause w,
        (Sample.unboundedWithdrawal.validateAll Sample.largestTransfer).run.run (.start ()) =
          (.error cause, w) ∧
        w.metrics = [.validation Withdrawal.engineName .canExecute] := by
  have hstopped : ((Sample.unboundedWithdrawal.validateAll Sample.overdrawn).run.run
      (.start ())).1 = .ok { Sample.overdrawn with verdict := .insufficientFunds } := by
    decide +kernel
  have hfails : ((Sample.unboundedWithdrawal.validateAll Sample.largestTransfer).run.run
      (.start ())).1 = .error (.money (.overflow Sample.mostPounds (Sample.pounds 2))) := by
    decide +kernel
  exact ⟨⟨_, _, Prod.ext hstopped rfl, rfl, by decide +kernel⟩,
    ⟨_, _, Prod.ext hfails rfl, by decide +kernel⟩⟩

end FiatRamp
