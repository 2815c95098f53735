import FiatRamp.Engine.Basic
import Mathlib.Tactic

/-!
# FiatRamp.Proofs.Step

What the steps of a transfer do to the world, one equation for each of them.

A request gives `Custodian.reply` and leaves `World.answered`; everything else
a step is made of either changes nothing or counts something.  Later proofs
run a step by these equations and never open the monad.
-/

namespace FiatRamp

/-! ## Requests -/

/-- Work that ends by its deadline leaves what it leaves without one. -/
theorem Work.ended_within_of_endsWithin {work : Work σ α} {limit : Duration}
    (h : work.endsWithin limit = true) : (work.within limit).ended.2 = work.ended.2 := by
  unfold endsWithin at h
  unfold within
  cases htakes : work.takes with
  | none => simp [htakes] at h
  | some time =>
      simp only [htakes, decide_eq_true_eq] at h
      simp only [if_pos h]

/-- Work that is cut off has only been started. -/
theorem Work.ended_within_of_not_endsWithin {work : Work σ α} {limit : Duration}
    (h : work.endsWithin limit = false) : (work.within limit).ended.2 = work.started := by
  unfold endsWithin at h
  unfold within
  cases htakes : work.takes with
  | none => rfl
  | some time =>
      simp only [htakes, decide_eq_false_iff_not] at h
      simp only [if_neg h]

/-- What comes of a request within its deadline. -/
def Custodian.reply (custodian : Custodian σ) (deadlines : Deadlines) (request : Request)
    (backend : σ) : Except EngineError request.Answer :=
  match ((custodian request backend).within (deadlines.of request)).ended.1 with
  | some (.ok value) => .ok value
  | some (.error e) => .error (.provider e)
  | none => .error (.timeout request.operation (deadlines.of request))

/-- A request succeeds exactly if it is answered by a value within its deadline. -/
theorem Custodian.reply_eq_ok_iff {custodian : Custodian σ} {deadlines : Deadlines}
    {request : Request} {backend : σ} {value : request.Answer} :
    custodian.reply deadlines request backend = .ok value ↔
      (custodian request backend).endsWithin (deadlines.of request) = true ∧
        (custodian request backend).ended.1 = .ok value := by
  unfold reply Work.within Work.endsWithin
  cases (custodian request backend).takes with
  | none => simp
  | some time =>
      by_cases h : time ≤ deadlines.of request
      · cases (custodian request backend).ended.1 <;> simp [h]
      · simp [h]

namespace World

/-- The world once a request has been answered or cut off. -/
def answered (custodian : Custodian σ) (deadlines : Deadlines) (request : Request)
    (w : World σ) : World σ :=
  let answer := (custodian request w.backend).within (deadlines.of request)
  { backend := answer.ended.2
    now := w.now + answer.takes
    requests := w.requests ++ [request]
    metrics := w.metrics }

/-- The world once several things were counted. -/
def recordAll (w : World σ) (ms : List Metric) : World σ := { w with metrics := w.metrics ++ ms }

section

variable (w : World σ) (m : Metric) (ms : List Metric) (custodian : Custodian σ)
  (deadlines : Deadlines) (request : Request)

@[simp] theorem backend_record : (w.record m).backend = w.backend := rfl

@[simp] theorem now_record : (w.record m).now = w.now := rfl

@[simp] theorem requests_record : (w.record m).requests = w.requests := rfl

@[simp] theorem metrics_record : (w.record m).metrics = w.metrics ++ [m] := rfl

@[simp] theorem backend_recordAll : (w.recordAll ms).backend = w.backend := rfl

@[simp] theorem now_recordAll : (w.recordAll ms).now = w.now := rfl

@[simp] theorem requests_recordAll : (w.recordAll ms).requests = w.requests := rfl

@[simp] theorem metrics_recordAll : (w.recordAll ms).metrics = w.metrics ++ ms := rfl

@[simp] theorem requests_answered :
    (w.answered custodian deadlines request).requests = w.requests ++ [request] := rfl

@[simp] theorem metrics_answered :
    (w.answered custodian deadlines request).metrics = w.metrics := rfl

theorem recordAll_nil : w.recordAll [] = w := by simp [recordAll]

theorem recordAll_singleton : w.recordAll [m] = w.record m := rfl

theorem recordAll_record : (w.record m).recordAll ms = w.recordAll (m :: ms) := by
  simp [recordAll, record]

end

end World

/-! ## Steps -/

section

variable {ε τ α β : Type} (s : τ)

/-- A step after another one runs only if that one succeeds. -/
theorem run_bind (step : ExceptT ε (StateM τ) α) (next : α → ExceptT ε (StateM τ) β) :
    (step >>= next).run.run s =
      match step.run.run s with
      | (.ok a, s) => (next a).run.run s
      | (.error e, s) => (.error e, s) := by
  change (ExceptT.bindCont next (step.run.run s).1).run (step.run.run s).2 = _
  cases step.run.run s with
  | mk result s => cases result <;> rfl

/-- What is made of the result of a step leaves the state alone. -/
theorem run_bind_pure (step : ExceptT ε (StateM τ) α) (f : α → β) :
    (step >>= fun a => pure (f a)).run.run s =
      ((step.run.run s).1.map f, (step.run.run s).2) := by
  rw [run_bind]
  obtain ⟨result, after⟩ := step.run.run s
  cases result <;> rfl

end

namespace EngineStep

section

variable {α : Type} (w : World σ)

theorem run_ofExcept (result : Except EngineError α) :
    (ofExcept result : EngineStep σ α).run.run w = (result, w) := rfl

theorem run_ofMoney (result : Except MoneyError α) :
    (ofMoney result : EngineStep σ α).run.run w = (result.mapError .money, w) := rfl

theorem run_attempt (step : EngineStep σ α) :
    step.attempt.run.run w = (.ok (step.run.run w).1, (step.run.run w).2) := rfl

/-- A request gives the reply of the custodian, whatever became of it. -/
theorem run_ask (custodian : Custodian σ) (deadlines : Deadlines) (request : Request) :
    (ask custodian deadlines request).run.run w =
      (custodian.reply deadlines request w.backend, w.answered custodian deadlines request) := rfl

/-- A poll session takes its time and is counted by how it ended. -/
theorem run_poll {β : Type} (settings : PollSettings) (draw : Nat → Nat)
    (task : World σ → Task (World σ) (Except EngineError α)) (extract : α → Option β)
    (cancel : Option Duration) :
    (poll settings draw task extract cancel).run.run w =
      let session := Poll.runTasks settings draw task extract (cancel.map (· - w.now)) w
      let after := { session.state with now := w.now + session.time }
      (.ok session.result,
        match session.outcome? with
        | some outcome => after.record (.pollSession outcome session.attempts)
        | none => after) := rfl

end

end EngineStep

/-- Every stage looks at the accounts first, and goes no further if they do not suit. -/
theorem Engine.run_assertAccounts_bind {β : Type} (e : Engine σ) (next : Unit → EngineStep σ β)
    (w : World σ) :
    (e.assertAccounts >>= next).run.run w =
      match e.checkAccounts with
      | .ok () => (next ()).run.run w
      | .error cause => (.error cause, w) := by
  rw [run_bind, assertAccounts, EngineStep.run_ofExcept]
  cases e.checkAccounts <;> rfl

end FiatRamp
