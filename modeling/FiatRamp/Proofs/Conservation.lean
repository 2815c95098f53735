import FiatRamp.Proofs.Approval
import FiatRamp.Proofs.Stages

/-!
# FiatRamp.Proofs.Conservation

What a flow counts, against what it does.

The counters of a flow are filled in at several places, on paths that succeed
and on paths that fail.  Their books balance after every call (`Flow.Balanced`):
every execution that was entered has ended, in one submission that was made and
counted, and every fetch of a charge stands in the attempts of a poll session
(`Flow.books_balance`).
-/

namespace FiatRamp

/-! ## Counters -/

namespace Metric

/-- How often a stage was entered. -/
def entries (stage : Stage) (counted : List Metric) : Nat :=
  (counted.filterMap Metric.stage?).count stage

/-- How often a stage before an execution was entered. -/
def steps (counted : List Metric) : Nat :=
  (counted.filterMap Metric.stage?).countP
    (· ∉ [Stage.executing, .succeeded, .awaitingApproval, .failed])

/-- Whether a submission was accepted, if one is counted. -/
def accepted? : Metric → Option Bool
  | .submission _ accepted => some accepted
  | _ => none

/-- How many submissions were accepted, or were not. -/
def submissions (accepted : Bool) (counted : List Metric) : Nat :=
  (counted.filterMap Metric.accepted?).count accepted

/-- How many poll sessions there were. -/
def sessions (counted : List Metric) : Nat := (pollAttempts counted).length

/-- How many attempts the poll sessions recorded. -/
def attempts (counted : List Metric) : Nat := (pollAttempts counted).sum

section

variable (counted more : List Metric)

@[simp] theorem entries_append (stage : Stage) :
    entries stage (counted ++ more) = entries stage counted + entries stage more := by
  simp [entries]

@[simp] theorem steps_append : steps (counted ++ more) = steps counted + steps more := by
  simp [steps]

@[simp] theorem submissions_append (accepted : Bool) :
    submissions accepted (counted ++ more) =
      submissions accepted counted + submissions accepted more := by
  simp [submissions]

@[simp] theorem sessions_append :
    sessions (counted ++ more) = sessions counted + sessions more := by
  simp [sessions, pollAttempts]

@[simp] theorem attempts_append :
    attempts (counted ++ more) = attempts counted + attempts more := by
  simp [attempts, pollAttempts]

end

end Metric

namespace World

/-- Since `w` so much was counted and asked for. -/
structure Since (w : World σ) (counted : List Metric) (asked : List Request) (after : World σ) :
    Prop where
  metrics : after.metrics = w.metrics ++ counted
  requests : after.requests = w.requests ++ asked

theorem Since.refl (w : World σ) : w.Since [] [] w := ⟨by simp, by simp⟩

theorem Since.trans {u v w : World σ} {counted more : List Metric} {asked further : List Request}
    (h : u.Since counted asked v) (h' : v.Since more further w) :
    u.Since (counted ++ more) (asked ++ further) w :=
  ⟨by rw [h'.metrics, h.metrics, List.append_assoc],
    by rw [h'.requests, h.requests, List.append_assoc]⟩

theorem Since.record {w after : World σ} {counted : List Metric} {asked : List Request}
    (h : w.Since counted asked after) (m : Metric) :
    w.Since (counted ++ [m]) asked (after.record m) :=
  ⟨by rw [metrics_record, h.metrics, List.append_assoc], h.requests⟩

theorem Since.answered {w after : World σ} {counted : List Metric} {asked : List Request}
    (h : w.Since counted asked after) (custodian : Custodian σ) (deadlines : Deadlines)
    (request : Request) :
    w.Since counted (asked ++ [request]) (after.answered custodian deadlines request) :=
  ⟨h.metrics, by rw [requests_answered, h.requests, List.append_assoc]⟩

end World

/-! ## Waiting for an approval -/

/-- A session that waits for an approval fetches as many charges as it makes attempts. -/
theorem Deposit.since_session (ctx : EngineContext σ) (paymentId : String)
    (cancel : Option Duration) (w : World σ) :
    let e := Poll.runTasks ctx.poll ctx.draw (fetchCharge ctx paymentId) authorised
      (cancel.map (· - w.now)) w
    e.outcome?.isSome = true ∧
      w.Since [] (List.replicate e.attempts (.charge paymentId)) e.state := by
  intro e
  have htallies := Poll.Plan.tallies_session (Poll.Plan.session_ofTasks ctx.poll ctx.draw
    (fetchCharge ctx paymentId) authorised (cancel.map (· - w.now)) w)
  refine ⟨htallies.counted, ?_⟩
  -- nothing but fetches is asked for, so their number is that of the requests
  have hnext : ∀ s : World σ, (∃ n, w.Since [] (List.replicate n (.charge paymentId)) s) →
      ∃ n, w.Since [] (List.replicate n (.charge paymentId))
        (s.answered ctx.custodian ctx.deadlines (.charge paymentId)) := by
    rintro s ⟨n, hn⟩
    refine ⟨n + 1, ?_⟩
    rw [List.replicate_succ']
    exact hn.answered ..
  obtain ⟨n, hn⟩ : ∃ n, w.Since [] (List.replicate n (.charge paymentId)) e.state := by
    refine Poll.runTasks_preserves
      (P := fun s : World σ => ∃ n, w.Since [] (List.replicate n (.charge paymentId)) s)
      (fun s hs => ?_) (fun s hs => ?_) ctx.poll ctx.draw authorised _ ⟨0, .refl w⟩
    · obtain ⟨n, hn⟩ := hnext s hs
      exact ⟨n, hn.metrics, hn.requests⟩
    · obtain ⟨n, hn⟩ := hnext s hs
      exact ⟨n, hn.metrics, hn.requests⟩
  have hseen := htallies.seen (fun s => s.requests.length) fun s => by
    constructor <;> exact List.length_append
  have hlength := congrArg List.length hn.requests
  rw [List.length_append, List.length_replicate] at hlength
  have hcount : n = e.attempts := Nat.add_left_cancel (hlength.symm.trans hseen)
  rwa [← hcount]

/-- The session is counted with its attempts. -/
theorem Deposit.since_poll (ctx : EngineContext σ) (paymentId : String)
    (cancel : Option Duration) (w : World σ) :
    ∃ outcome attempts,
      w.Since [.pollSession outcome attempts] (List.replicate attempts (.charge paymentId))
        ((EngineStep.poll ctx.poll ctx.draw (fetchCharge ctx paymentId) authorised
          cancel).run.run w).2 := by
  obtain ⟨hcounted, hsession⟩ := Deposit.since_session ctx paymentId cancel w
  rw [EngineStep.run_poll]
  dsimp only
  generalize Poll.runTasks ctx.poll ctx.draw (fetchCharge ctx paymentId) authorised
    (cancel.map (· - w.now)) w = e at hcounted hsession ⊢
  obtain ⟨outcome, houtcome⟩ := Option.isSome_iff_exists.1 hcounted
  have hended : w.Since [] (List.replicate e.attempts (.charge paymentId))
      { e.state with now := w.now + e.time } := ⟨hsession.metrics, hsession.requests⟩
  rw [houtcome]
  exact ⟨outcome, e.attempts, hended.record _⟩

/-- **Waiting for an approval** is one session, whose attempts are the fetches. -/
theorem Deposit.since_awaitApproval (ctx : EngineContext σ) (paymentId : String)
    (cancel : Option Duration) (w : World σ) :
    ∃ outcome attempts asked,
      w.Since [.pollSession outcome attempts] asked
        ((awaitApproval ctx paymentId cancel).run.run w).2 ∧
      asked.countP Request.isCharge = attempts ∧ asked.countP Request.isSubmission = 0 := by
  obtain ⟨outcome, attempts, hpolled⟩ := Deposit.since_poll ctx paymentId cancel w
  refine ⟨outcome, attempts, ?_⟩
  have hfetches : (List.replicate attempts (Request.charge paymentId)).countP Request.isCharge =
      attempts := by simp [List.countP_replicate, Request.isCharge]
  have hquiet : (List.replicate attempts (Request.charge paymentId)).countP Request.isSubmission =
      0 := by simp [List.countP_replicate, Request.isSubmission]
  rw [awaitApproval, run_bind]
  generalize (EngineStep.poll ctx.poll ctx.draw (fetchCharge ctx paymentId) authorised
    cancel).run.run w = polled at hpolled ⊢
  obtain ⟨result, after⟩ := polled
  cases result with
  | error => exact ⟨_, hpolled, hfetches, hquiet⟩
  | ok session =>
      dsimp only
      rw [run_bind, EngineStep.run_ofExcept]
      cases session.mapError (pollFailure paymentId) with
      | error => exact ⟨_, hpolled, hfetches, hquiet⟩
      | ok found =>
          -- the bank is looked up as well
          dsimp only at hpolled ⊢
          rw [run_bind, EngineStep.run_ask]
          have hasked := hpolled.answered ctx.custodian ctx.deadlines
            (.linkedBank found.2.linkedBankId)
          refine ⟨List.replicate attempts (.charge paymentId) ++
            [.linkedBank found.2.linkedBankId], ?_, ?_, ?_⟩
          · cases ctx.custodian.reply ctx.deadlines (.linkedBank found.2.linkedBankId)
              after.backend <;> exact hasked
          · simp [hfetches, Request.isCharge]
          · simp [hquiet, Request.isSubmission]

/-- What follows a submission is a wait for an approval, if there is one. -/
theorem Route.since_followUp (ctx : EngineContext σ) (route : Route) (id : String)
    (cancel : Option Duration) (w : World σ) :
    ∃ counted asked, w.Since counted asked ((route.followUp ctx id cancel).run.run w).2 ∧
      counted.filterMap Metric.stage? = [] ∧ counted.filterMap Metric.accepted? = [] ∧
      Metric.sessions counted = (if route.isAuthorised then 1 else 0) ∧
      Metric.attempts counted = asked.countP Request.isCharge ∧
      asked.countP Request.isSubmission = 0 := by
  unfold followUp
  split
  · obtain ⟨outcome, attempts, asked, hsince, hfetches, hquiet⟩ :=
      Deposit.since_awaitApproval ctx id cancel w
    exact ⟨_, asked, hsince, rfl, rfl, rfl, hfetches.symm, hquiet⟩
  · exact ⟨[], [], .refl w, rfl, rfl, rfl, rfl, rfl⟩

/-- A call before the execution has gone through. -/
def FlowEvent.isStep : FlowEvent → Bool
  | (.execute _, _) => false
  | (_, answer) => answer.isOk

namespace Flow

/-! ## Balanced books -/

/-- The books of a flow that has gone so many steps before an execution balance. -/
structure Balanced (authorised : Bool) (steps : Nat) (counted : List Metric)
    (asked : List Request) : Prop where
  /-- Every execution counts one submission. -/
  submissions : Metric.entries .executing counted =
    Metric.submissions true counted + Metric.submissions false counted
  /-- Every execution comes to one end. -/
  ends : Metric.entries .executing counted = Metric.entries .succeeded counted +
    Metric.entries .awaitingApproval counted + Metric.entries .failed counted
  /-- Every execution makes one submission. -/
  requests : Metric.entries .executing counted = asked.countP Request.isSubmission
  /-- Every submission that was accepted and has to be authorised is waited for once. -/
  sessions : Metric.sessions counted =
    if authorised then Metric.submissions true counted else 0
  /-- Every attempt fetches a charge. -/
  attempts : Metric.attempts counted = asked.countP Request.isCharge
  /-- Every other stage belongs to a step. -/
  steps : Metric.steps counted = steps

namespace Balanced

section

variable {authorised : Bool} {m n : Nat} {counted more : List Metric} {asked further : List Request}

theorem append (h : Balanced authorised m counted asked) (h' : Balanced authorised n more further) :
    Balanced authorised (m + n) (counted ++ more) (asked ++ further) := by
  obtain ⟨hsubmissions, hends, hrequests, hsessions, hattempts, hsteps⟩ := h
  obtain ⟨hsubmissions', hends', hrequests', hsessions', hattempts', hsteps'⟩ := h'
  constructor <;> simp only [Metric.entries_append, Metric.submissions_append,
    Metric.sessions_append, Metric.attempts_append, Metric.steps_append, List.countP_append]
  · omega
  · omega
  · omega
  · cases authorised <;> simp_all
  · omega
  · omega

theorem nil : Balanced authorised 0 [] [] := by
  constructor <;> cases authorised <;> rfl

/-- Verdicts are counted apart. -/
theorem validations (name : String) (verdicts : List Verdict) :
    Balanced authorised 0 (verdicts.map (.validation name)) [] := by
  induction verdicts with
  | nil => exact .nil
  | cons verdict verdicts ih =>
      have hone : Balanced authorised 0 [.validation name verdict] [] := by
        constructor <;> cases authorised <;> rfl
      exact hone.append ih

/-- A step before an execution. -/
theorem step (name : String) {stage : Stage} (h : stage ∈ beforeSubmission) :
    Balanced authorised 1 [.stage name stage] [] := by
  simp only [beforeSubmission, List.mem_cons, List.not_mem_nil, or_false] at h
  rcases h with rfl | rfl | rfl | rfl <;> constructor <;> cases authorised <;> rfl

/-- To ask for limits and fees is not counted. -/
theorem terms (h : ∀ request ∈ asked, request.isAboutTerms = true) :
    Balanced authorised 0 [] asked := by
  have hquiet := fun request hmem => Request.quiet_of_isAboutTerms (h request hmem)
  have hsubmissions : asked.countP Request.isSubmission = 0 :=
    List.countP_eq_zero.2 fun request hmem => by simp [(hquiet request hmem).1]
  have hcharges : asked.countP Request.isCharge = 0 :=
    List.countP_eq_zero.2 fun request hmem => by simp [(hquiet request hmem).2]
  exact ⟨rfl, rfl, hsubmissions.symm, by cases authorised <;> rfl, hcharges.symm, rfl⟩

/-- An execution whose submission was not accepted. -/
theorem notAccepted (name : String) (submission : Submission) :
    Balanced authorised 0 [.stage name .executing, .submission name false, .stage name .failed]
      [submission.request] := by
  constructor <;> cases authorised <;> cases submission <;> rfl

/-- An execution whose submission was accepted, with what followed. -/
theorem accepted (name : String) (submission : Submission) {stage : Stage}
    (hend : stage.isTerminal = true) (hstages : counted.filterMap Metric.stage? = [])
    (haccepted : counted.filterMap Metric.accepted? = [])
    (hsessions : Metric.sessions counted = if authorised then 1 else 0)
    (hattempts : Metric.attempts counted = asked.countP Request.isCharge)
    (hquiet : asked.countP Request.isSubmission = 0) :
    Balanced authorised 0
      ([.stage name .executing, .submission name true] ++ counted ++ [.stage name stage])
      (submission.request :: asked) := by
  have hcharge : submission.request.isCharge = false :=
    Request.isCharge_of_isSubmission submission.isSubmission_request
  have hentries : ∀ other, Metric.entries other counted = 0 := by simp [Metric.entries, hstages]
  have hsubmissions : ∀ accepted, Metric.submissions accepted counted = 0 := by
    simp [Metric.submissions, haccepted]
  have hsteps : Metric.steps counted = 0 := by simp [Metric.steps, hstages]
  -- before and after what followed, everything is counted in plain view
  constructor <;> simp only [Metric.entries_append, Metric.submissions_append,
    Metric.sessions_append, Metric.attempts_append, Metric.steps_append, List.countP_cons,
    hentries, hsubmissions, hsteps, hsessions, hattempts, hquiet, hcharge,
    submission.isSubmission_request]
  · cases stage <;> first | rfl | cases hend
  · cases stage <;> first | rfl | cases hend
  · cases stage <;> first | rfl | cases hend
  · cases authorised <;> rfl
  · exact Nat.zero_add _
  · cases stage <;> first | rfl | cases hend

end

end Balanced

/-! ## The books of a flow -/

section

variable {ctx : EngineContext σ} {route : Route} {w₀ : World σ} {p₀ : Pending}
  {history : List FlowEvent} {s t : FlowState σ} {call : FlowCall}
  {answer : Except FlowError FlowAnswer}

theorem since_enter (s : FlowState σ) (route : Route) (stage : Stage) :
    s.world.Since [.stage route.name stage] [] (s.enter route stage).world :=
  (World.Since.refl s.world).record _

theorem since_counting (s : FlowState σ) (route : Route) :
    s.world.Since ((route.counted s.pending).map (.validation route.name)) []
      (s.counting route).world := ⟨rfl, (List.append_nil _).symm⟩

theorem since_submitted (s : FlowState σ) (ctx : EngineContext σ) (route : Route) :
    s.world.Since
      ((route.counted s.pending).map (.validation route.name) ++
        [.stage route.name .executing, .submission route.name (s.reply ctx route).isOk])
      [(route.submission ctx s.pending).request] (s.submitted ctx route) := by
  have hentered := (since_counting s route).trans
    (since_enter (s.judged route .canExecute) route .executing)
  have hsubmitted := (hentered.answered ctx.custodian ctx.deadlines
    (route.submission ctx s.pending).request).record
      (.submission route.name (s.reply ctx route).isOk)
  rw [List.append_assoc, List.append_assoc] at hsubmitted
  exact hsubmitted

/-- An execution whose submission was accepted balances, whatever followed and however
it has ended. -/
theorem balanced_followed {id : String} (hreply : s.reply ctx route = .ok id)
    (cancel : Option Duration) {stage : Stage} (hend : stage.isTerminal = true) :
    ∃ counted asked,
      s.world.Since counted asked
        (s.ended route (s.followed ctx route id cancel).2 stage).world ∧
      Balanced route.isAuthorised 0 counted asked := by
  obtain ⟨counted, asked, hsince, hstages, haccepted, hsessions, hattempts, hquiet⟩ :=
    Route.since_followUp ctx route id cancel (s.submitted ctx route)
  have hbalanced := Balanced.accepted route.name (route.submission ctx s.pending) hend hstages
    haccepted hsessions hattempts hquiet
  have hverdicts : Balanced route.isAuthorised 0 _ [] :=
    .validations route.name (route.counted s.pending)
  have hended := ((since_submitted s ctx route).trans hsince).record (.stage route.name stage)
  rw [hreply, List.append_assoc, List.append_assoc] at hended
  exact ⟨_, _, hended, hverdicts.append hbalanced⟩

/-- **Every call balances.**  What was confirmed would pass, so no execution stops short of
its submission. -/
theorem Ends.balanced (h : Ends ctx route s call answer t)
    (hassess : s.pending.stage = .confirmed → route.assess s.pending = .ok .canExecute) :
    ∃ counted asked, s.world.Since counted asked t.world ∧
      Balanced route.isAuthorised (if FlowEvent.isStep (call, answer) then 1 else 0) counted
        asked := by
  have hverdicts : Balanced route.isAuthorised 0 _ [] :=
    .validations route.name (route.counted s.pending)
  cases h with
  | refused hrefused =>
      refine ⟨[], [], .refl s.world, ?_⟩
      cases call <;> exact .nil
  | unassessed hvalidates =>
      refine ⟨_, [], since_counting s route, ?_⟩
      cases call <;> exact hverdicts
  | amountUpdated =>
      exact ⟨_, [], since_enter _ route _, .step route.name (by simp [beforeSubmission])⟩
  | feeUpdated =>
      exact ⟨_, [], since_enter _ route _, .step route.name (by simp [beforeSubmission])⟩
  | @validated verdict =>
      refine ⟨_, _, (since_counting s route).trans (since_enter (s.judged route verdict) route _),
        hverdicts.append (.step route.name ?_)⟩
      split <;> simp [beforeSubmission]
  | confirmed =>
      exact ⟨_, [], since_enter _ route _, .step route.name (by simp [beforeSubmission])⟩
  | notExecutable hlegal hassessed hstopped =>
      rw [hassess hlegal] at hassessed
      cases hassessed
      exact (hstopped rfl).elim
  | notAccepted _ _ hreply =>
      have hended := (since_submitted s ctx route).record (.stage route.name .failed)
      rw [hreply, List.append_assoc] at hended
      exact ⟨_, _, hended, hverdicts.append (.notAccepted route.name _)⟩
  | completed _ _ hreply | approved _ _ hreply | unfinished _ _ hreply =>
      exact balanced_followed hreply _ rfl

/-- **Every run balances.** -/
theorem Run.balanced (h : Run (route.engine ctx) s history t)
    (hvetted : Vetted route p₀ [] s.pending) :
    ∃ counted asked, s.world.Since counted asked t.world ∧
      Balanced route.isAuthorised (history.countP FlowEvent.isStep) counted asked := by
  induction h with
  | refl => exact ⟨[], [], .refl s.world, .nil⟩
  | @call history t run call ih =>
      obtain ⟨counted, asked, hsince, hbalanced⟩ := ih
      have hassess := (run.vetted hvetted).assessed
      obtain ⟨more, further, hmore, hcall⟩ := (ends_apply ctx route t call).balanced fun hlegal =>
        hassess (by simp [hlegal])
      refine ⟨_, _, hsince.trans hmore, ?_⟩
      rw [List.countP_append, List.countP_singleton]
      exact hbalanced.append hcall
  | meanwhile _ _ _ ih =>
      obtain ⟨counted, asked, hsince, hbalanced⟩ := ih
      exact ⟨counted, asked, ⟨hsince.metrics, hsince.requests⟩, hbalanced⟩

end

/-- **The books of a flow balance** after every call: since before its start the custodian
was asked to move money as often as executions and submissions were counted, and for a
charge as often as attempts were. -/
theorem books_balance {ctx : EngineContext σ} {e : Engine σ} (builtIn : e.IsBuiltIn ctx)
    {w₀ : World σ} {p₀ : Pending} {history : List FlowEvent} {s : FlowState σ}
    (h : History e w₀ p₀ history s) :
    ∃ counted asked, w₀.Since counted asked s.world ∧
      Balanced e.isOpenBankingDeposit (1 + history.countP FlowEvent.isStep) counted asked := by
  obtain ⟨route, rfl⟩ := h.exists_route builtIn
  obtain ⟨w₁, hstart, hrun⟩ := h
  obtain ⟨counted, asked, hsince, hbalanced⟩ := hrun.balanced (vetted_of_start hstart)
  obtain ⟨limits, fee, terms, -, -, hrequests, hterms, hmetrics⟩ := opening_of_start hstart
  have hopened : w₀.Since [.stage route.name .amountEntry] terms w₁ := ⟨hmetrics, hrequests⟩
  have hentered : Balanced route.isAuthorised 1 [.stage route.name .amountEntry] [] :=
    .step route.name (by simp [beforeSubmission])
  rw [Route.isOpenBankingDeposit_engine]
  exact ⟨_, _, hopened.trans hsince, (hentered.append (.terms hterms)).append hbalanced⟩

/-- The books of a deposit that fetched its charge twice in one session. -/
theorem books_balance_second_fetch :
    ∃ p₀ history s counted asked,
      History Sample.patientDeposit (.start Sample.hesitant) p₀ history s ∧
        (World.start Sample.hesitant).Since counted asked s.world ∧
        Balanced true 4 counted asked ∧ Metric.sessions counted = 1 ∧
        asked.countP Request.isCharge = 2 := by
  have hstart : start Sample.patientDeposit (.start Sample.hesitant) = (.ok _, _) := rfl
  have hhistory := history_drive hstart (Sample.confirming ++ [.execute none])
  obtain ⟨counted, asked, hsince, hbalanced⟩ :=
    books_balance Sample.isBuiltIn_patientDeposit hhistory
  have hcounted := hsince.metrics
  rw [World.start, List.nil_append] at hcounted
  refine ⟨_, _, _, counted, asked, hhistory, hsince, ?_, ?_, ?_⟩
  · convert hbalanced <;> decide +kernel
  · rw [← hcounted]
    decide +kernel
  · rw [← hbalanced.attempts, ← hcounted]
    decide +kernel

end Flow

end FiatRamp
