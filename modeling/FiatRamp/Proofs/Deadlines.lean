import FiatRamp.Proofs.Overflow
import FiatRamp.Proofs.Timeline

/-!
# FiatRamp.Proofs.Deadlines

Every stage ends in time, whatever the custodian does.

A custodian may answer at any time or never.  A stage waits for each request no
longer than the deadline of that request, so its own time is bounded by the sum
of the deadlines on its way (`EngineCall.allowance`).  It fails by a timeout
exactly if a request it waits for overruns its deadline, and then the error
names that request (`Punctual`, `Engine.ends_by_its_deadlines`).
-/

namespace FiatRamp

/-! ## Requests -/

/-- Work that does not end by a deadline, and perhaps never. -/
def Work.Overruns (work : Work σ α) (limit : Duration) : Prop := ∀ time ∈ work.takes, limit < time

/-- Work that overruns its deadline is cut off there. -/
theorem Work.takes_within_of_overruns {work : Work σ α} {limit : Duration}
    (h : work.Overruns limit) : (work.within limit).takes = limit := by
  unfold within
  cases htakes : work.takes with
  | none => rfl
  | some time =>
      have hlate := h time htakes
      simp only [if_neg (Nat.not_le.mpr hlate)]

/-- A request times out exactly if it overruns its deadline. -/
theorem Custodian.reply_eq_timeout_iff {custodian : Custodian σ} {deadlines : Deadlines}
    {request : Request} {backend : σ} {operation : String} {limit : Duration} :
    custodian.reply deadlines request backend = .error (.timeout operation limit) ↔
      (custodian request backend).Overruns (deadlines.of request) ∧
        operation = request.operation ∧ limit = deadlines.of request := by
  unfold reply Work.within Work.Overruns
  cases (custodian request backend).takes with
  | none => simp [eq_comm]
  | some time =>
      by_cases hintime : time ≤ deadlines.of request
      · have hnot := Nat.not_lt.mpr hintime
        cases (custodian request backend).ended.1 <;> simp [hintime]
      · simp [hintime, eq_comm, Nat.not_le.mp hintime]

/-! ## Poll sessions -/

namespace Poll

/-- The longest that a session goes on whose calls take `limit` at most. -/
def longest (settings : PollSettings) (draw : Nat → Nat) (limit : Duration) : Duration :=
  let attempts := max 1 settings.maxAttempts
  attempts * limit +
    ∑ i ∈ Finset.range (attempts - 1), settings.delay.after (i + 1) (draw (i + 1))

namespace Plan

section

variable {ε α β : Type} {plan : Plan σ ε α β} {e : End σ ε β} {limit : Duration}

/-- The calls of a session end one after the other, each within its time after the last wait. -/
theorem finishes_le (h : ∀ i, instant (plan.call i).takes ≤ limit) (i : Nat) :
    plan.finishes i ≤ ((i + 1) * limit + ∑ j ∈ Finset.range i, plan.wait j : Duration) := by
  induction i with
  | zero =>
      have hfirst := h 0
      simpa [finishes, starts] using hfirst
  | succ i ih =>
      calc plan.finishes (i + 1)
          = plan.finishes i + plan.wait i + instant (plan.call (i + 1)).takes := rfl
        _ ≤ ((i + 1) * limit + ∑ j ∈ Finset.range i, plan.wait j : Duration) + plan.wait i +
              limit := add_le_add (add_le_add_left ih _) (h (i + 1))
        _ = ((i + 1 + 1) * limit + ∑ j ∈ Finset.range (i + 1), plan.wait j : Duration) := by
            rw [Finset.sum_range_succ]
            push_cast
            ring

theorem ending_le_longest (h : ∀ i, instant (plan.call i).takes ≤ limit) :
    plan.ending ≤ longest plan.settings plan.draw limit := by
  have hlast : plan.last ≤ plan.bound - 1 := Nat.le_sub_one_of_lt plan.last_lt_bound
  have hbound : plan.last + 1 ≤ plan.bound := plan.last_lt_bound
  refine (finishes_le h plan.last).trans (Nat.cast_le.mpr (Nat.add_le_add ?_ ?_))
  · exact Nat.mul_le_mul_right limit hbound
  · exact Finset.sum_le_sum_of_subset (Finset.range_mono hlast)

/-- A session is over when its own ending or its deadline comes. -/
theorem time_le (h : plan.session = some e) : e.time ≤ plan.ending ∧ e.time ≤ plan.deadline := by
  rcases plan.cancelled_eq_zero_or_stops with hzero | ⟨i, now, s, -, hstops⟩
  · rw [session_of_cancelled_zero hzero] at h
    cases h
    exact ⟨zero_le, zero_le⟩
  · rw [h] at hstops
    cases hstops with
    | settled _ htime hdeadline => exact ⟨htime.ge, htime ▸ hdeadline⟩
    | cancelled htime hending _ hdeadline => exact ⟨htime ▸ hending, htime ▸ hdeadline⟩
    | timedOut htime hending => exact ⟨htime ▸ hending.le, htime.ge⟩

/-- A session fails by a call exactly if it makes that call, the call fails and nothing cuts
it off before it ends. -/
theorem exists_producer_iff (h : plan.session = some e) {cause : ε} :
    (∃ attempt, e.result = .error (.producer attempt cause)) ↔
      ∃ i now s, plan.Makes i now s ∧ (plan.ask s).ended.1 = .error cause ∧
        plan.finishes i ≤ plan.deadline ∧ plan.finishes i < plan.cancelled := by
  constructor
  · rintro ⟨attempt, hresult⟩
    rcases plan.cancelled_eq_zero_or_stops with hzero | ⟨i, now, s, hmakes, hstops⟩
    · rw [session_of_cancelled_zero hzero] at h
      cases h
      cases hresult
    · rw [h] at hstops
      cases hstops with
      | settled hlast _ hdeadline hcancelled =>
          subst hlast
          refine ⟨_, now, s, hmakes, ?_, hdeadline, hcancelled⟩
          rw [hmakes.onTime.state]
          unfold answer call at hresult
          dsimp only at hresult
          split at hresult
          · next hended =>
              cases hresult
              exact hended
          · split at hresult <;> cases hresult
      | cancelled | timedOut => cases hresult
  · rintro ⟨i, now, s, hmakes, hended, hdeadline, hcancelled⟩
    obtain ⟨-, rfl, -, -, hlast⟩ := hmakes.onTime
    have hfails : (plan.call i).ended.1 = .error cause := hended
    have hsettles : plan.settles i = true := by rw [settles, hfails]
    obtain rfl := plan.eq_last hlast (.inl hsettles)
    obtain ⟨e', hsession, -, -, hresult⟩ := session_of_settled hdeadline hcancelled
    obtain rfl := Option.some.inj (h.symm.trans hsession)
    rw [answer, hfails] at hresult
    exact ⟨_, hresult⟩

end

end Plan

end Poll

/-! ## Steps that keep their deadlines -/

/-- A step that waits for certain requests, each of which is made in a certain state of the
custodian: `limit` bounds the time it takes, and it fails by a timeout exactly if one of
these requests overruns its deadline. -/
structure Punctual (ctx : EngineContext σ) (w : World σ) (limit : Duration)
    (awaited : Request → σ → Prop) (step : EngineStep σ α) : Prop where
  elapsed : w.now ≤ (step.run.run w).2.now ∧ (step.run.run w).2.now ≤ w.now + limit
  timeout_iff : ∀ operation time, (step.run.run w).1 = .error (.timeout operation time) ↔
    ∃ request backend, awaited request backend ∧
      (ctx.custodian request backend).Overruns (ctx.deadlines.of request) ∧
      operation = request.operation ∧ time = ctx.deadlines.of request

/-- The error is that of a request without an answer in time. -/
def EngineError.isTimeout : EngineError → Bool
  | .timeout .. => true
  | _ => false

namespace Punctual

section

variable {ctx : EngineContext σ} {w : World σ} {limit more : Duration}
  {awaited other : Request → σ → Prop} {step : EngineStep σ α}

/-- What a step makes of the answers it gets and what it counts do not matter. -/
theorem congr {step' : EngineStep σ β} (h : Punctual ctx w limit awaited step)
    (hlimit : limit ≤ more) (hawaited : ∀ request backend, awaited request backend ↔
      other request backend) (hnow : (step'.run.run w).2.now = (step.run.run w).2.now)
    (hfails : ∀ error, (step'.run.run w).1 = .error error ↔ (step.run.run w).1 = .error error) :
    Punctual ctx w more other step' where
  elapsed := by
    rw [hnow]
    exact ⟨h.elapsed.1, h.elapsed.2.trans (Nat.add_le_add_left hlimit _)⟩
  timeout_iff operation time := by
    rw [hfails, h.timeout_iff]
    simp only [hawaited]

/-- A step that waits for nothing takes no time. -/
theorem quiet {answer : Except EngineError α} {after : World σ}
    (hrun : step.run.run w = (answer, after)) (hnow : after.now = w.now)
    (hanswer : ∀ error, answer = .error error → error.isTimeout = false) :
    Punctual ctx w 0 (fun _ _ => False) step where
  elapsed := by
    rw [hrun]
    exact ⟨hnow.ge, hnow.le⟩
  timeout_iff operation time := by
    rw [hrun]
    refine iff_of_false (fun hresult => ?_) (by simp)
    cases hanswer _ hresult

/-- A request is given its deadline. -/
theorem ask (ctx : EngineContext σ) (w : World σ) (request : Request) :
    Punctual ctx w (ctx.deadlines.of request)
      (fun asked backend => asked = request ∧ backend = w.backend)
      (.ask ctx.custodian ctx.deadlines request) where
  elapsed := ⟨Nat.le_add_right .., Nat.add_le_add_left (Work.takes_within_le ..) _⟩
  timeout_iff operation time := by
    rw [EngineStep.run_ask]
    simp [Custodian.reply_eq_timeout_iff]

/-- What a step makes of its answer takes no time. -/
theorem andThen (h : Punctual ctx w limit awaited step) (f : α → β) :
    Punctual ctx w limit awaited (step >>= fun a => pure (f a)) := by
  refine h.congr le_rfl (fun _ _ => Iff.rfl) (by rw [run_bind_pure]) fun error => ?_
  rw [run_bind_pure]
  cases (step.run.run w).1 <;> simp [Except.map]

/-- The deadlines of two steps add up, and the second one waits only if the first one
succeeds. -/
theorem bind {next : α → EngineStep σ β} {thereafter : α → Request → σ → Prop}
    (h : Punctual ctx w limit awaited step)
    (hnext : ∀ a, (step.run.run w).1 = .ok a →
      Punctual ctx (step.run.run w).2 more (thereafter a) (next a)) :
    Punctual ctx w (limit + more)
      (fun request backend => awaited request backend ∨
        ∃ a, (step.run.run w).1 = .ok a ∧ thereafter a request backend) (step >>= next) := by
  have hwaited := h.timeout_iff
  obtain ⟨hlater, hsooner⟩ := h.elapsed
  have hbind := run_bind w step next
  generalize step.run.run w = ran at *
  obtain ⟨result, after⟩ := ran
  dsimp only at hbind hlater hsooner hnext hwaited ⊢
  cases result with
  | error error =>
      refine ⟨?_, fun operation time => ?_⟩
      · rw [hbind]
        exact ⟨hlater, hsooner.trans (Nat.add_le_add_left (Nat.le_add_right ..) _)⟩
      · rw [hbind]
        simpa using hwaited operation time
  | ok a =>
      obtain ⟨⟨hlater', hsooner'⟩, htimeout⟩ := hnext a rfl
      refine ⟨?_, fun operation time => ?_⟩
      · rw [hbind, ← Nat.add_assoc]
        exact ⟨hlater.trans hlater', hsooner'.trans (Nat.add_le_add_right hsooner _)⟩
      · -- what the first step waited for was answered in time
        have hanswered : ∀ request backend, awaited request backend →
            ¬ (ctx.custodian request backend).Overruns (ctx.deadlines.of request) := by
          intro request backend hasked hlate
          cases (hwaited _ _).mpr ⟨request, backend, hasked, hlate, rfl, rfl⟩
        rw [hbind, htimeout]
        constructor
        · rintro ⟨request, backend, hasked, hlate⟩
          exact ⟨request, backend, .inr ⟨a, rfl, hasked⟩, hlate⟩
        · rintro ⟨request, backend, hasked | ⟨_, hok, hasked⟩, hlate⟩
          · exact (hanswered request backend hasked hlate.1).elim
          · cases hok
            exact ⟨request, backend, hasked, hlate⟩

end

end Punctual

/-! ## Waiting for an approval -/

namespace Deposit

section

variable (ctx : EngineContext σ) (paymentId : String) (cancel : Option Duration) (w : World σ)

/-- The session in which the charge of a payment is fetched. -/
def fetching : Poll.Plan (World σ) EngineError Charge (String × Charge) :=
  .ofTasks ctx.poll ctx.draw (fetchCharge ctx paymentId) authorised (cancel.map (· - w.now)) w

/-- Waits for the authorisation page of a payment, and for nothing else. -/
def findPage : EngineStep σ (String × Charge) := do
  let session ← .poll ctx.poll ctx.draw (fetchCharge ctx paymentId) authorised cancel
  .ofExcept (session.mapError (pollFailure paymentId))

theorem awaitApproval_eq : awaitApproval ctx paymentId cancel =
    findPage ctx paymentId cancel >>= fun found =>
      .ask ctx.custodian ctx.deadlines (.linkedBank found.2.linkedBankId) >>= fun linkedBank =>
        pure (.needsApproval
          { paymentId, authorisationUrl := found.1, linkedBank, amount := found.2.amount }) := by
  simp only [awaitApproval, findPage, bind_assoc]

/-- The page is found by a session that takes its time and asks for nothing more. -/
theorem run_findPage : ∃ e, (fetching ctx paymentId cancel w).session = some e ∧
    ((findPage ctx paymentId cancel).run.run w).1 = e.result.mapError (pollFailure paymentId) ∧
    ((findPage ctx paymentId cancel).run.run w).2.now = w.now + e.time ∧
    ((findPage ctx paymentId cancel).run.run w).2.backend = e.state.backend ∧
    ((findPage ctx paymentId cancel).run.run w).2.requests = e.state.requests := by
  refine ⟨_, Poll.Plan.session_ofTasks .., ?_⟩
  rw [findPage, run_bind, EngineStep.run_poll]
  dsimp only
  rw [EngineStep.run_ofExcept]
  refine ⟨rfl, ?_⟩
  split <;> exact ⟨rfl, rfl, rfl⟩

/-- How long a session fetches charges at most. -/
def sessionAllowance : Duration :=
  ctx.poll.timeout.getD (Poll.longest ctx.poll ctx.draw ctx.deadlines.lookup)

/-- The custodian is asked for the charge of a payment in the state `backend`, and nothing
cuts that off before the deadline for its answer. -/
def Fetches (request : Request) (backend : σ) : Prop :=
  ∃ i now s, (fetching ctx paymentId cancel w).Makes i now s ∧
    ((now + ctx.deadlines.lookup : Duration) : ℕ∞) ≤ (fetching ctx paymentId cancel w).deadline ∧
    ((now + ctx.deadlines.lookup : Duration) : ℕ∞) < (fetching ctx paymentId cancel w).cancelled ∧
    request = .charge paymentId ∧ backend = s.backend

variable {ctx paymentId cancel w}

/-- A call that times out lasts until its deadline. -/
theorem finishes_of_overruns {i : Nat} {now : Duration} {s : World σ}
    (h : (fetching ctx paymentId cancel w).Makes i now s)
    (hlate : (ctx.custodian (.charge paymentId) s.backend).Overruns ctx.deadlines.lookup) :
    (fetching ctx paymentId cancel w).finishes i = (now + ctx.deadlines.lookup : Duration) := by
  obtain ⟨hstart, rfl, -, -, -⟩ := h.onTime
  have htakes : ((fetching ctx paymentId cancel w).call i).takes = some ctx.deadlines.lookup :=
    congrArg some (Work.takes_within_of_overruns hlate)
  rw [Poll.Plan.finishes, hstart, htakes, Poll.instant_some, Nat.cast_add]

theorem fetches_iff {operation : String} {time : Duration} :
    (∃ i now s, (fetching ctx paymentId cancel w).Makes i now s ∧
      ((fetching ctx paymentId cancel w).ask s).ended.1 = .error (.timeout operation time) ∧
      (fetching ctx paymentId cancel w).finishes i ≤ (fetching ctx paymentId cancel w).deadline ∧
      (fetching ctx paymentId cancel w).finishes i <
        (fetching ctx paymentId cancel w).cancelled) ↔
    ∃ request backend, Fetches ctx paymentId cancel w request backend ∧
      (ctx.custodian request backend).Overruns (ctx.deadlines.of request) ∧
      operation = request.operation ∧ time = ctx.deadlines.of request := by
  have hended : ∀ s : World σ, ((fetching ctx paymentId cancel w).ask s).ended.1 =
      ctx.custodian.reply ctx.deadlines (.charge paymentId) s.backend := fun _ => rfl
  constructor
  · rintro ⟨i, now, s, hmakes, hfails, hdeadline, hcancelled⟩
    rw [hended, Custodian.reply_eq_timeout_iff] at hfails
    rw [finishes_of_overruns hmakes hfails.1] at hdeadline hcancelled
    exact ⟨_, _, ⟨i, now, s, hmakes, hdeadline, hcancelled, rfl, rfl⟩, hfails⟩
  · rintro ⟨_, _, ⟨i, now, s, hmakes, hdeadline, hcancelled, rfl, rfl⟩, hfails⟩
    rw [← finishes_of_overruns hmakes hfails.1] at hdeadline hcancelled
    refine ⟨i, now, s, hmakes, ?_, hdeadline, hcancelled⟩
    rw [hended, Custodian.reply_eq_timeout_iff]
    exact hfails

/-- A session goes on no longer than it may. -/
theorem time_le_sessionAllowance {e : Poll.End (World σ) EngineError (String × Charge)}
    (h : (fetching ctx paymentId cancel w).session = some e) : e.time ≤ sessionAllowance ctx := by
  obtain ⟨hending, hdeadline⟩ := Poll.Plan.time_le h
  have hcalls : ∀ i, Poll.instant ((fetching ctx paymentId cancel w).call i).takes ≤
      ctx.deadlines.lookup := fun i => Nat.cast_le.mpr (Work.takes_within_le ..)
  unfold sessionAllowance
  cases htimeout : ctx.poll.timeout with
  | none => exact Nat.cast_le.mp (hending.trans (Poll.Plan.ending_le_longest hcalls))
  | some limit =>
      have hlimit : (fetching ctx paymentId cancel w).deadline = limit := by
        rw [Poll.Plan.deadline, Poll.instant_eq_coe_iff]
        exact htimeout
      rw [hlimit] at hdeadline
      exact Nat.cast_le.mp hdeadline

/-- **Finding the page** takes no longer than the session may, and times out with a fetch. -/
theorem punctual_findPage : Punctual ctx w (sessionAllowance ctx) (Fetches ctx paymentId cancel w)
    (findPage ctx paymentId cancel) := by
  obtain ⟨e, hsession, hresult, hnow, -⟩ := run_findPage ctx paymentId cancel w
  refine ⟨?_, fun operation time => ?_⟩
  · rw [hnow]
    exact ⟨Nat.le_add_right .., Nat.add_le_add_left (time_le_sessionAllowance hsession) _⟩
  · -- no other end of a session reads like a timeout
    have hproducer : e.result.mapError (pollFailure paymentId) = .error (.timeout operation time) ↔
        ∃ attempt, e.result = .error (.producer attempt (.timeout operation time)) := by
      cases e.result with
      | ok => simp [Except.mapError]
      | error error => cases error <;> simp [Except.mapError, pollFailure]
    rw [hresult, hproducer, Poll.Plan.exists_producer_iff hsession, fetches_iff]

/-- **Waiting for an approval** looks up the bank once the page was found. -/
theorem punctual_awaitApproval : Punctual ctx w (sessionAllowance ctx + ctx.deadlines.lookup)
    (fun request backend => Fetches ctx paymentId cancel w request backend ∨
      ∃ found, ((findPage ctx paymentId cancel).run.run w).1 = .ok found ∧
        request = .linkedBank found.2.linkedBankId ∧
        backend = ((findPage ctx paymentId cancel).run.run w).2.backend)
    (awaitApproval ctx paymentId cancel) := by
  rw [awaitApproval_eq]
  refine punctual_findPage.bind fun found _ => ?_
  exact (Punctual.ask ctx _ (.linkedBank found.2.linkedBankId)).andThen _

end

end Deposit

/-! ## Engines -/

/-- What an engine is asked to do. -/
inductive EngineCall where
  | initialise
  | updateAmount (p : Pending) (amount : Money)
  | updateFeeLevel (p : Pending) (level : FeeLevel) (customFee : Option UInt64)
  | buildConfirmations (p : Pending)
  | validateAmount (p : Pending)
  | validateAll (p : Pending)
  | execute (p : Pending)
  /-- The last argument is the time at which the user cancels. -/
  | followUp (p : Pending) (result : TransferResult) (cancel : Option Duration)
  deriving DecidableEq

namespace EngineCall

/-- The stage that a call runs.  Of what it gives, only the error is of interest. -/
def step (e : Engine σ) : EngineCall → EngineStep σ Unit
  | .initialise => do let _ ← e.initialise; return
  | .updateAmount p amount => do let _ ← e.updateAmount p amount; return
  | .updateFeeLevel p level customFee => do let _ ← e.updateFeeLevel p level customFee; return
  | .buildConfirmations p => do let _ ← e.buildConfirmations p; return
  | .validateAmount p => do let _ ← e.validateAmount p; return
  | .validateAll p => do let _ ← e.validateAll p; return
  | .execute p => do let _ ← e.execute p; return
  | .followUp p result cancel => do
    let _ ← ExceptT.adapt FollowUpError.cause (e.followUp p result cancel)
    return

/-- How long a call may take. -/
def allowance (ctx : EngineContext σ) (e : Engine σ) : EngineCall → Duration
  | .initialise =>
    if e.name = Withdrawal.engineName then 2 * ctx.deadlines.limits else ctx.deadlines.limits
  | .execute _ => ctx.deadlines.submission
  | .followUp .. =>
    if e.isOpenBankingDeposit then Deposit.sessionAllowance ctx + ctx.deadlines.lookup else 0
  | .updateAmount .. | .updateFeeLevel .. | .buildConfirmations _ | .validateAmount _
  | .validateAll _ => 0

/-- The requests that a call on the engine of a route waits for, each with the state of the
custodian in which it is made. -/
inductive Awaits (ctx : EngineContext σ) (route : Route) (w : World σ) :
    EngineCall → Request → σ → Prop where
  | limits : Awaits ctx route w .initialise (.limits route.currency route.fromBank) w.backend
  /-- A withdrawal asks for its fee once it has the limits. -/
  | fee {limits : TransferLimits} (withdraws : route.action = .withdraw)
      (answered : ctx.custodian.reply ctx.deadlines (.limits route.currency route.fromBank)
        w.backend = .ok limits) :
      Awaits ctx route w .initialise (.withdrawalFee route.currency)
        (w.answered ctx.custodian ctx.deadlines (.limits route.currency route.fromBank)).backend
  | submission {p : Pending} :
      Awaits ctx route w (.execute p) (route.submission ctx p).request w.backend
  | charge {p : Pending} {paymentId : String} {amount : Money} {cancel : Option Duration}
      {request : Request} {backend : σ} (authorised : route.isAuthorised = true)
      (fetches : Deposit.Fetches ctx paymentId cancel w request backend) :
      Awaits ctx route w (.followUp p (.payment paymentId amount) cancel) request backend
  /-- The bank is looked up once there is a page. -/
  | bank {p : Pending} {paymentId : String} {amount : Money} {cancel : Option Duration}
      {found : String × Charge} (authorised : route.isAuthorised = true)
      (page : ((Deposit.findPage ctx paymentId cancel).run.run w).1 = .ok found) :
      Awaits ctx route w (.followUp p (.payment paymentId amount) cancel)
        (.linkedBank found.2.linkedBankId)
        ((Deposit.findPage ctx paymentId cancel).run.run w).2.backend

end EngineCall

section

variable {ctx : EngineContext σ} {e : Engine σ} {route : Route} {w : World σ} {p : Pending}

/-- An engine that does not accept its accounts does nothing. -/
theorem EngineCall.run_of_unsuited {cause : EngineError} (h : e.checkAccounts = .error cause)
    (call : EngineCall) : (call.step e).run.run w = (.error cause, w) := by
  cases call <;>
    simp only [step, Engine.initialise, Engine.updateAmount, Engine.updateFeeLevel,
      Engine.buildConfirmations, Engine.validateAmount, Engine.validateAll, Engine.execute,
      Engine.followUp, Engine.assertAccounts, h] <;> rfl

/-- To reject accounts takes no request. -/
theorem Engine.IsBuiltIn.isTimeout_of_unsuited {cause : EngineError} (h : e.IsBuiltIn ctx)
    (hcause : e.checkAccounts = .error cause) : cause.isTimeout = false := by
  obtain ⟨source, target, rfl | rfl⟩ := h
  · cases source <;> cases target <;> cases hcause <;> rfl
  · cases source with
    | wallet | bank => cases hcause; rfl
    | fiat fiat =>
        cases target with
        | wallet | fiat => cases hcause; rfl
        | bank bank =>
            change (if fiat.currency = bank.currency then _ else _) = _ at hcause
            split at hcause
            · cases hcause
            · cases hcause
              rfl

end

namespace Route

section

variable (ctx : EngineContext σ) (route : Route) (w : World σ) (p : Pending)

/-- An engine knows its route. -/
theorem engine_injective : Function.Injective (engine ctx) := by
  intro route other h
  have hsource := congrArg Engine.source h
  have htarget := congrArg Engine.target h
  rw [source_engine, source_engine] at hsource
  rw [target_engine, target_engine] at htarget
  cases route <;> cases other <;> simp_all [source, target]

/-- The check of the accounts takes no time. -/
theorem punctual_assertAccounts {limit : Duration} {awaited : Request → σ → Prop} {β : Type}
    {next : Unit → EngineStep σ β} (h : Punctual ctx w limit awaited (next ())) :
    Punctual ctx w limit awaited ((route.engine ctx).assertAccounts >>= next) :=
  h.congr le_rfl (fun _ _ => Iff.rfl) (by rw [run_assertAccounts_bind])
    (by rw [run_assertAccounts_bind]; exact fun _ => Iff.rfl)

theorem punctual_initialise :
    Punctual ctx w (EngineCall.initialise.allowance ctx (route.engine ctx))
      (EngineCall.Awaits ctx route w .initialise) (route.engine ctx).initialise := by
  refine punctual_assertAccounts ctx route w ?_
  cases route with
  | deposit bank fiat =>
      have hstep : ((deposit bank fiat).engine ctx).onInitialise =
          .ask ctx.custodian ctx.deadlines (.limits bank.currency true) >>= fun limits =>
            pure ((Pending.zeroed bank.currency ctx.userFiat).withLimits limits) := rfl
      rw [hstep]
      refine ((Punctual.ask ctx w _).andThen _).congr le_rfl (fun request backend => ?_) rfl
        fun _ => Iff.rfl
      constructor
      · rintro ⟨rfl, rfl⟩
        exact .limits
      · intro h
        cases h with
        | limits => exact ⟨rfl, rfl⟩
        | fee withdraws => cases withdraws
  | withdrawal fiat bank agree =>
      have hstep : ((withdrawal fiat bank agree).engine ctx).onInitialise =
          .ask ctx.custodian ctx.deadlines (.limits fiat.currency false) >>= fun limits =>
            .ask ctx.custodian ctx.deadlines (.withdrawalFee fiat.currency) >>= fun fee =>
              pure (Withdrawal.opening fiat ctx.userFiat limits fee) := rfl
      rw [hstep]
      refine ((Punctual.ask ctx w (.limits fiat.currency false)).bind fun limits _ =>
        (Punctual.ask ctx _ (.withdrawalFee fiat.currency)).andThen _).congr
          (Nat.two_mul _).ge (fun request backend => ?_) rfl fun _ => Iff.rfl
      constructor
      · rintro (⟨rfl, rfl⟩ | ⟨limits, hlimits, rfl, rfl⟩)
        · exact .limits
        · exact .fee rfl hlimits
      · intro h
        cases h with
        | limits => exact .inl ⟨rfl, rfl⟩
        | fee _ answered => exact .inr ⟨_, answered, rfl, rfl⟩

theorem punctual_execute :
    Punctual ctx w ctx.deadlines.submission (EngineCall.Awaits ctx route w (.execute p))
      ((route.engine ctx).execute p) := by
  have hlimit : ctx.deadlines.of (route.submission ctx p).request = ctx.deadlines.submission := by
    cases route <;> rfl
  refine (Punctual.ask ctx w (route.submission ctx p).request).congr hlimit.le
    (fun request backend => ?_) ?_ fun error => ?_
  · constructor
    · rintro ⟨rfl, rfl⟩
      exact .submission
    · intro h
      cases h
      exact ⟨rfl, rfl⟩
  · rw [run_execute]
    rfl
  · rw [run_execute, EngineStep.run_ask]
    cases route with
    | deposit bank fiat =>
        dsimp only [submission, Submission.reply, Submission.request]
        cases Custodian.reply ctx.custodian ctx.deadlines _ w.backend <;> simp [Except.map]
    | withdrawal fiat bank agree =>
        dsimp only [submission, Submission.reply, Submission.request]
        cases Custodian.reply ctx.custodian ctx.deadlines _ w.backend <;> simp [Except.map]

/-- The cause of a failed follow-up is the error of the hook. -/
theorem run_followUp_cause (result : TransferResult) (cancel : Option Duration) :
    (ExceptT.adapt FollowUpError.cause
        ((route.engine ctx).followUp p result cancel)).run.run w =
      ((route.engine ctx).onFollowUp p result cancel).run.run w := by
  have hadapt : (ExceptT.adapt FollowUpError.cause
        ((route.engine ctx).followUp p result cancel)).run.run w =
      let done := ((route.engine ctx).followUp p result cancel).run.run w
      (done.1.mapError FollowUpError.cause, done.2) := rfl
  rw [hadapt, run_followUp_hook]
  obtain ⟨answer, after⟩ := ((route.engine ctx).onFollowUp p result cancel).run.run w
  cases answer <;> rfl

/-- A step that waits for nothing goes with a call that does not either. -/
theorem punctual_of_run (call : EngineCall) {step : EngineStep σ α}
    {answer : Except EngineError α} {after : World σ}
    (hrun : step.run.run w = (answer, after)) (hnow : after.now = w.now)
    (hanswer : ∀ error, answer = .error error → error.isTimeout = false)
    (hcall : ∀ request backend, ¬ EngineCall.Awaits ctx route w call request backend) :
    Punctual ctx w (call.allowance ctx (route.engine ctx))
      (EngineCall.Awaits ctx route w call) step :=
  (Punctual.quiet hrun hnow hanswer).congr (Nat.zero_le _)
    (fun request backend => iff_of_false id (hcall request backend)) rfl fun _ => Iff.rfl

/-- What is not authorised is complete at once. -/
theorem run_onFollowUp_of_not_isAuthorised (result : TransferResult) (cancel : Option Duration)
    (h : route.isAuthorised = false) :
    ((route.engine ctx).onFollowUp p result cancel).run.run w = (.ok .completed, w) := by
  cases route with
  | withdrawal => rfl
  | deposit bank fiat =>
      have hauthorised : bank.currency.isOpenBanking = false := h
      simp only [engine, Engine.deposit, source, Account.currency, hauthorised]
      rfl

theorem punctual_onFollowUp_of_not_isAuthorised (result : TransferResult)
    (cancel : Option Duration) (h : route.isAuthorised = false) :
    Punctual ctx w ((EngineCall.followUp p result cancel).allowance ctx (route.engine ctx))
      (EngineCall.Awaits ctx route w (.followUp p result cancel))
      ((route.engine ctx).onFollowUp p result cancel) := by
  have hrun := run_onFollowUp_of_not_isAuthorised ctx route w p result cancel h
  refine punctual_of_run ctx route w _ hrun rfl (by simp) fun request backend hawaits => ?_
  cases hawaits with
  | charge authorised | bank authorised =>
      rw [h] at authorised
      cases authorised

/-- An authorised deposit is followed up by the id of a payment, and not by that of an order. -/
theorem onFollowUp_of_isAuthorised (h : route.isAuthorised = true) (id : String) (amount : Money)
    (cancel : Option Duration) :
    (route.engine ctx).onFollowUp p (.payment id amount) cancel =
        Deposit.awaitApproval ctx id cancel ∧
      (route.engine ctx).onFollowUp p (.order id amount) cancel =
        throw (.precondition (.resultMustBePayment id)) := by
  cases route with
  | withdrawal => cases h
  | deposit bank fiat =>
      have hauthorised : bank.currency.isOpenBanking = true := h
      simp only [engine, Engine.deposit, source, Account.currency, hauthorised]
      exact ⟨rfl, rfl⟩

/-- An authorised deposit waits for an approval, or for nothing if it has no payment. -/
theorem punctual_onFollowUp_of_isAuthorised (result : TransferResult) (cancel : Option Duration)
    (h : route.isAuthorised = true) :
    Punctual ctx w ((EngineCall.followUp p result cancel).allowance ctx (route.engine ctx))
      (EngineCall.Awaits ctx route w (.followUp p result cancel))
      ((route.engine ctx).onFollowUp p result cancel) := by
  cases result with
  | order id amount =>
      have hrun : ((route.engine ctx).onFollowUp p (.order id amount) cancel).run.run w =
          (.error (.precondition (.resultMustBePayment id)), w) := by
        rw [(onFollowUp_of_isAuthorised ctx route p h id amount cancel).2]
        rfl
      exact punctual_of_run ctx route w _ hrun rfl (by simp [EngineError.isTimeout]) nofun
  | payment id amount =>
      rw [(onFollowUp_of_isAuthorised ctx route p h id amount cancel).1]
      refine Deposit.punctual_awaitApproval.congr ?_ (fun request backend => ?_) rfl
        fun _ => Iff.rfl
      · rw [EngineCall.allowance, isOpenBankingDeposit_engine, if_pos h]
      constructor
      · rintro (hfetches | ⟨found, hfound, rfl, rfl⟩)
        · exact .charge h hfetches
        · exact .bank h hfound
      · intro hawaits
        cases hawaits with
        | charge _ fetches => exact .inl fetches
        | bank _ page => exact .inr ⟨_, page, rfl, rfl⟩

theorem punctual_followUp (result : TransferResult) (cancel : Option Duration) :
    Punctual ctx w ((EngineCall.followUp p result cancel).allowance ctx (route.engine ctx))
      (EngineCall.Awaits ctx route w (.followUp p result cancel))
      (ExceptT.adapt FollowUpError.cause ((route.engine ctx).followUp p result cancel)) := by
  have hhook : Punctual ctx w
      ((EngineCall.followUp p result cancel).allowance ctx (route.engine ctx))
      (EngineCall.Awaits ctx route w (.followUp p result cancel))
      ((route.engine ctx).onFollowUp p result cancel) := by
    cases h : route.isAuthorised with
    | false => exact punctual_onFollowUp_of_not_isAuthorised ctx route w p result cancel h
    | true => exact punctual_onFollowUp_of_isAuthorised ctx route w p result cancel h
  exact hhook.congr le_rfl (fun _ _ => Iff.rfl) (by rw [run_followUp_cause])
    (by rw [run_followUp_cause]; exact fun _ => Iff.rfl)

/-- A calculation with money does not time out. -/
theorem isTimeout_of_mapError {result : Except MoneyError α} {error : EngineError}
    (h : result.mapError .money = .error error) : error.isTimeout = false := by
  cases result with
  | ok => cases h
  | error => cases h; rfl

theorem punctual_validateAmount :
    Punctual ctx w ((EngineCall.validateAmount p).allowance ctx (route.engine ctx))
      (EngineCall.Awaits ctx route w (.validateAmount p))
      ((route.engine ctx).validateAmount p) := by
  have hrun := run_validateAmount ctx route p w
  rw [run_classifyAmount] at hrun
  split at hrun
  · exact punctual_of_run ctx route w _ hrun rfl (by simp) nofun
  · split at hrun
    · exact punctual_of_run ctx route w _ hrun rfl (by simp) nofun
    · exact punctual_of_run ctx route w _ hrun rfl (by simp [EngineError.isTimeout]) nofun

/-- **Every call on the engine of a route** keeps its deadlines.  Between start and submission
an engine only calculates. -/
theorem punctual (call : EngineCall) :
    Punctual ctx w (call.allowance ctx (route.engine ctx)) (EngineCall.Awaits ctx route w call)
      (call.step (route.engine ctx)) := by
  cases call with
  | initialise => exact (punctual_initialise ctx route w).andThen _
  | updateAmount p amount =>
      refine (punctual_of_run ctx route w (.updateAmount p amount)
        (run_updateAmount ..) rfl ?_ nofun).andThen _
      cases amount.isNegative <;> simp [EngineError.isTimeout]
  | updateFeeLevel p level customFee =>
      refine (punctual_of_run ctx route w (.updateFeeLevel p level customFee)
        (run_updateFeeLevel ..) rfl ?_ nofun).andThen _
      cases p.feeSelection.isAvailable level <;> simp [EngineError.isTimeout]
  | buildConfirmations p =>
      exact (punctual_of_run ctx route w (.buildConfirmations p) (run_buildConfirmations ..) rfl
        (fun _ => isTimeout_of_mapError) nofun).andThen _
  | validateAmount p => exact (punctual_validateAmount ctx route w p).andThen _
  | validateAll p =>
      exact (punctual_of_run ctx route w (.validateAll p) (run_validateAll ..) rfl
        (fun _ => isTimeout_of_mapError) nofun).andThen _
  | execute p => exact (punctual_execute ctx route w p).andThen _
  | followUp p result cancel => exact (punctual_followUp ctx route w p result cancel).andThen _

end

end Route

/-- **Every stage ends by its deadlines**, whatever the custodian does: opening a deposit
within the deadline for limits and a withdrawal within twice that, a submission within its
deadline, and waiting for an approval within the time of the session and one lookup after
it.  A stage times out exactly if a request that it waits for, and that nothing has cut
off before, overruns its deadline, and then the error names the request and the deadline. -/
theorem Engine.ends_by_its_deadlines {ctx : EngineContext σ} {e : Engine σ}
    (builtIn : e.IsBuiltIn ctx) (w : World σ) (call : EngineCall) :
    Punctual ctx w (call.allowance ctx e)
      (fun request backend => ∃ route : Route, e = route.engine ctx ∧
        call.Awaits ctx route w request backend) (call.step e) := by
  cases hcheck : e.checkAccounts with
  | error cause =>
      have htimeout := builtIn.isTimeout_of_unsuited hcheck
      have hnone : ∀ route : Route, e ≠ route.engine ctx := by
        rintro route rfl
        rw [Route.checkAccounts_engine] at hcheck
        cases hcheck
      refine (Punctual.quiet (call.run_of_unsuited hcheck) rfl ?_).congr (Nat.zero_le _) ?_ rfl
        fun _ => Iff.rfl
      · rintro _ ⟨⟩
        exact htimeout
      · simp [hnone]
  | ok =>
      obtain ⟨route, rfl⟩ := builtIn.exists_route hcheck
      refine (route.punctual ctx w call).congr le_rfl (fun request backend => ?_) rfl
        fun _ => Iff.rfl
      constructor
      · exact fun hawaits => ⟨route, rfl, hawaits⟩
      · rintro ⟨other, hsame, hawaits⟩
        rwa [Route.engine_injective ctx hsame]

/-- A custodian that never answers. -/
def Sample.silent : Custodian Unit := fun _ _ => ⟨(), none, (.error (.unavailable ""), ())⟩

/-- A wallet that waits 30 for a lookup, and 40 for an authorisation page. -/
def Sample.patientContext : EngineContext Unit :=
  { context silent with deadlines := ⟨10, 20, 30⟩, poll := ⟨3, .fixed 5, some 40⟩ }

/-- A deposit whose charge is never told of gives up after one lookup. -/
theorem Engine.ends_by_its_deadlines_silence :
    let e : Engine Unit := .deposit Sample.patientContext Sample.bank Sample.cash
    let call : EngineCall := .followUp (.zeroed Sample.sterling Sample.sterling)
      (.payment "payment" (Sample.pounds 5)) none
    ((call.step e).run.run (.start ())).1 = .error (.timeout "get_bank_transfer_charge" 30) ∧
      ((call.step e).run.run (.start ())).2.now = 30 ∧ call.allowance Sample.patientContext e = 70 ∧
      Punctual Sample.patientContext (.start ()) (call.allowance Sample.patientContext e)
        (fun request backend => ∃ route : Route, e = route.engine Sample.patientContext ∧
          call.Awaits Sample.patientContext route (.start ()) request backend) (call.step e) :=
  ⟨rfl, rfl, rfl, Engine.ends_by_its_deadlines ⟨Sample.bank, Sample.cash, .inl rfl⟩ _ _⟩

end FiatRamp
