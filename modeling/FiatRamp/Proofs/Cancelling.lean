import FiatRamp.Proofs.Approval

/-!
# FiatRamp.Proofs.Cancelling

What a user who cancels can change.

A token is looked at by poll sessions only.  A session that is not cancelled is
the one it would be without a token (`Poll.runTasks_cancel`), and the only
session of a transfer is the wait for an approval.  So two executions that
differ in their tokens submit the same, and they end alike unless one of them
is cut short in that wait (`Flow.cancelling_spares_submission`).
-/

namespace FiatRamp

/-! ## Poll sessions -/

namespace Poll

/-- A session was ended by its token. -/
def End.IsCancelled (e : End σ ε β) : Prop := ∃ attempts, e.result = .error (.cancelled attempts)

/-- What interrupts a span of time is the token, or what it would be without one. -/
theorem interruption?_cancel (now : Duration) (until? timeout cancel : Option Duration) :
    (∃ time, interruption? now until? timeout cancel = some (.cancel time)) ∨
      interruption? now until? timeout cancel = interruption? now until? timeout none := by
  unfold interruption?
  cases cancel with
  | none => exact .inr rfl
  | some c =>
      dsimp only
      split
      · exact .inl ⟨_, rfl⟩
      · exact .inr rfl

/-- The same attempt, but its session goes on under a token. -/
def Attempt.under (cancel : Option Duration) : Attempt σ ε β → Attempt σ ε β
  | .notReady time _ s => .notReady time cancel s
  | attempt => attempt

section

variable {ε α β : Type} {produce : σ → Call σ ε α}
  (hnever : ∀ s, (produce s).selfCancel = .never)

include hnever

/-- An attempt is cancelled, or what it would be without a token. -/
theorem attemptAt_cancel (timeout : Option Duration) (extract : α → Option β) (attempt : Nat)
    (now : Duration) (cancel : Option Duration) (s : σ) :
    (∃ e, attemptAt timeout produce extract attempt now cancel s = .ended e ∧ e.IsCancelled) ∨
      attemptAt timeout produce extract attempt now cancel s =
        (attemptAt timeout produce extract attempt now none s).under cancel := by
  unfold attemptAt
  simp only [hnever, reduceCtorEq, false_and, if_true, if_false]
  rcases interruption?_cancel now ((produce s).work.takes.map (now + ·)) timeout cancel with
    ⟨time, hcut⟩ | hcut
  · rw [hcut]
    exact .inl ⟨_, rfl, attempt, rfl⟩
  · rw [hcut]
    refine .inr ?_
    split
    · rfl
    · rfl
    · split
      · rfl
      · rfl
      · split <;> rfl

/-- An attempt hands its token on as it is. -/
theorem attemptAt_token {timeout : Option Duration} {extract : α → Option β} {attempt : Nat}
    {now time : Duration} {cancel token : Option Duration} {s t : σ}
    (h : attemptAt timeout produce extract attempt now cancel s = .notReady time token t) :
    token = cancel := by
  unfold attemptAt at h
  simp only [hnever, if_true] at h
  split at h
  · cases h
  · cases h
  · split at h
    · cases h
    · cases h
    · split at h
      · cases h
      · cases h
        rfl

variable (settings : PollSettings) (draw : Nat → Nat) (extract : α → Option β)

/-- A session is cancelled with its next attempt or before it, or makes the attempt it would
make without a token. -/
theorem runFrom_or_attemptAt_cancel (left attempts : Nat) (now : Duration)
    (cancel : Option Duration) (s : σ) :
    (∃ e, runFrom settings draw produce extract left attempts now cancel s = some e ∧
        e.IsCancelled) ∨
      cancel.any (· ≤ now) = false ∧
        attemptAt settings.timeout produce extract (attempts + 1) now cancel s =
          (attemptAt settings.timeout produce extract (attempts + 1) now none s).under cancel := by
  cases hearly : cancel.any (· ≤ now) with
  | true =>
      left
      refine ⟨⟨.error (.cancelled attempts), attempts, now, s⟩, ?_, attempts, rfl⟩
      cases left <;> rw [runFrom, if_pos hearly]
  | false =>
      rcases attemptAt_cancel hnever settings.timeout extract (attempts + 1) now cancel s with
        ⟨e, hattempt, he⟩ | hattempt
      · left
        refine ⟨e, ?_, he⟩
        cases left <;> simp only [runFrom, hearly, Bool.false_eq_true, if_false, hattempt]
      · exact .inr ⟨rfl, hattempt⟩

/-- **A session is cancelled, or what it would be without a token.** -/
theorem runFrom_cancel (left attempts : Nat) (now : Duration) (cancel : Option Duration) (s : σ) :
    (∃ e, runFrom settings draw produce extract left attempts now cancel s = some e ∧
        e.IsCancelled) ∨
      runFrom settings draw produce extract left attempts now cancel s =
        runFrom settings draw produce extract left attempts now none s := by
  -- over the attempts that are left: either both sessions end with the next one, or both wait
  -- and go on from the same state
  induction left generalizing attempts now s with
  | zero =>
      rcases runFrom_or_attemptAt_cancel hnever settings draw extract 0 attempts now cancel s with
        hcut | ⟨hearly, hattempt⟩
      · exact .inl hcut
      · right
        rw [runFrom, runFrom, hearly, Option.any_none]
        simp only [Bool.false_eq_true, if_false, hattempt]
        cases attemptAt settings.timeout produce extract (attempts + 1) now none s <;> rfl
  | succ left ih =>
      rcases runFrom_or_attemptAt_cancel hnever settings draw extract (left + 1) attempts now cancel
        s with hcut | ⟨hearly, hattempt⟩
      · exact .inl hcut
      · rw [runFrom, runFrom, hearly, Option.any_none]
        simp only [Bool.false_eq_true, if_false, hattempt]
        cases hbare : attemptAt settings.timeout produce extract (attempts + 1) now none s with
        | ended | endless => exact .inr rfl
        | notReady time token t =>
            obtain rfl := attemptAt_token hnever hbare
            dsimp only [Attempt.under]
            rcases interruption?_cancel time
                (some (time + settings.delay.after (attempts + 1) (draw (attempts + 1))))
                settings.timeout cancel with ⟨instant, hcut⟩ | hcut
            · rw [hcut]
              exact .inl ⟨_, rfl, attempts + 1, rfl⟩
            · rw [hcut]
              split
              · exact .inr rfl
              · exact ih ..

end

/-- A session of tasks is cancelled, or what it would be without a token. -/
theorem runTasks_cancel (settings : PollSettings) (draw : Nat → Nat)
    (task : σ → Task σ (Except ε α)) (extract : α → Option β) (cancel : Option Duration) (s : σ) :
    (runTasks settings draw task extract cancel s).IsCancelled ∨
      runTasks settings draw task extract cancel s = runTasks settings draw task extract none s := by
  have hsome := fun token =>
    Option.some_get (isSome_runFrom settings draw task extract (settings.maxAttempts - 1) 0 0 token s)
  have hnever : ∀ s, (Call.ofTask (task s)).selfCancel = .never := fun _ => rfl
  rcases runFrom_cancel hnever settings draw extract (settings.maxAttempts - 1) 0 0 cancel s with
    ⟨e, he, hcancelled⟩ | heq
  · left
    have hend : runTasks settings draw task extract cancel s = e :=
      Option.some.inj ((hsome cancel).trans he)
    rwa [hend]
  · right
    exact Option.some.inj ((hsome cancel).trans (heq.trans (hsome none).symm))

end Poll

/-! ## Waiting for an approval -/

/-- A wait for an approval is cancelled, or what it would be without a token. -/
theorem Deposit.awaitApproval_cancel (ctx : EngineContext σ) (paymentId : String)
    (cancel : Option Duration) (w : World σ) :
    ((awaitApproval ctx paymentId cancel).run.run w).1 = .error .cancelled ∨
      (awaitApproval ctx paymentId cancel).run.run w =
        (awaitApproval ctx paymentId none).run.run w := by
  rw [awaitApproval, awaitApproval, run_bind, run_bind, EngineStep.run_poll, EngineStep.run_poll]
  rcases Poll.runTasks_cancel ctx.poll ctx.draw (fetchCharge ctx paymentId) authorised
      (cancel.map (· - w.now)) w with ⟨attempts, hcancelled⟩ | hsame
  · left
    dsimp only
    rw [run_bind, EngineStep.run_ofExcept, hcancelled]
    rfl
  · right
    dsimp only [Option.map_none]
    rw [hsame]

/-- Only an approval can be waited for, so nothing else can be cancelled. -/
theorem Route.followUp_of_not_isAuthorised (ctx : EngineContext σ) {route : Route} (id : String)
    (cancel : Option Duration) (h : route.isAuthorised = false) :
    route.followUp ctx id cancel = pure .completed := by
  simp [followUp, h]

/-- What follows a submission is cancelled, or what it would be without a token. -/
theorem Route.followUp_cancel (ctx : EngineContext σ) (route : Route) (id : String)
    (cancel : Option Duration) (w : World σ) :
    ((route.followUp ctx id cancel).run.run w).1 = .error .cancelled ∨
      (route.followUp ctx id cancel).run.run w = (route.followUp ctx id none).run.run w := by
  unfold followUp
  split
  · exact Deposit.awaitApproval_cancel ctx id cancel w
  · exact .inr rfl

namespace Flow

/-! ## Executions that differ in their tokens -/

/-- An execution under a token came to nothing but the id of its submission, where
another one of the same transfer went on. -/
structure CutShort (id : String) (done undone : Except FlowError FlowAnswer × FlowState σ) :
    Prop where
  cancelled : done.1 = .error (.postSubmission ⟨id, .cancelled⟩)
  /-- The other one has submitted under this id as well. -/
  names : Names id undone.1
  /-- The transfer has failed, and is otherwise the same. -/
  pending : done.2.pending = { undone.2.pending with stage := .failed }

section

variable {ctx : EngineContext σ} {route : Route} {s t t' : FlowState σ}
  {cancel cancel' : Option Duration} {id : String} {answer answer' : Except FlowError FlowAnswer}
  (h : Ends ctx route s (.execute cancel) answer t)
  (h' : Ends ctx route s (.execute cancel') answer' t')
  (hconfirmed : s.pending.stage = .confirmed) (hassess : route.assess s.pending = .ok .canExecute)

include h hconfirmed hassess

/-- An execution makes one submission, which comes first. -/
theorem Ends.submits :
    ∃ more, t.world.requests =
        s.world.requests ++ (route.submission ctx s.pending).request :: more ∧
      ∀ request ∈ more, request.isSubmission = false := by
  obtain ⟨-, more, hmore⟩ := h.of_execute hconfirmed hassess
  obtain ⟨asked, hasked, rfl | ⟨quiet, rfl, hquiet, -⟩⟩ := h.asked
  · simp [hasked] at hmore
  · exact ⟨quiet, hasked, hquiet⟩

/-- An execution whose submission was accepted names it, and ends at some stage. -/
theorem Ends.of_accepted (hreply : s.reply ctx route = .ok id) :
    Names id answer ∧
      ∃ stage, t = s.ended route (s.followed ctx route id cancel).2 stage := by
  have hpassing := h.of_passing hconfirmed hassess
  rw [hreply] at hpassing
  dsimp only at hpassing
  split at hpassing
  · obtain ⟨rfl, rfl⟩ := hpassing
    exact ⟨.succeeded (Route.id_result ..), _, rfl⟩
  · next happroved =>
      obtain ⟨rfl, rfl⟩ := hpassing
      exact ⟨.awaitingApproval (Route.id_result ..) (Route.paymentId_of_followUp happroved), _, rfl⟩
  · obtain ⟨rfl, rfl⟩ := hpassing
    exact ⟨.unfinished rfl, _, rfl⟩

include h'

/-- Executions after which the same follows are the same. -/
theorem Ends.eq_of_followed (hfollowed : ∀ id, s.reply ctx route = .ok id →
      s.followed ctx route id cancel = s.followed ctx route id cancel') :
    answer = answer' ∧ t = t' := by
  have hpassing := h.of_passing hconfirmed hassess
  have hpassing' := h'.of_passing hconfirmed hassess
  cases hreply : s.reply ctx route with
  | error cause =>
      rw [hreply] at hpassing hpassing'
      exact ⟨hpassing.1.trans hpassing'.1.symm, hpassing.2.trans hpassing'.2.symm⟩
  | ok id =>
      rw [hreply] at hpassing hpassing'
      dsimp only at hpassing hpassing'
      rw [hfollowed id hreply] at hpassing
      split at hpassing <;> simp_all

/-- An execution that is cancelled while it waits is cut short. -/
theorem Ends.cutShort (hreply : s.reply ctx route = .ok id)
    (hcancelled : (s.followed ctx route id cancel).1 = .error .cancelled) :
    CutShort id (answer, t) (answer', t') := by
  have hpassing := h.of_passing hconfirmed hassess
  rw [hreply] at hpassing
  dsimp only at hpassing
  rw [hcancelled] at hpassing
  obtain ⟨rfl, rfl⟩ := hpassing
  obtain ⟨hnames, stage, rfl⟩ := h'.of_accepted hconfirmed hassess hreply
  exact ⟨rfl, hnames, rfl⟩

/-- Two executions are the same, or one of them is cut short. -/
theorem Ends.eq_or_cutShort :
    (answer = answer' ∧ t = t') ∨
      ∃ id, CutShort id (answer, t) (answer', t') ∨ CutShort id (answer', t') (answer, t) := by
  cases hreply : s.reply ctx route with
  | error cause =>
      refine .inl (h.eq_of_followed h' hconfirmed hassess fun id hid => ?_)
      cases hreply.symm.trans hid
  | ok id =>
      rcases Route.followUp_cancel ctx route id cancel (s.submitted ctx route) with hcut | hbare
      · exact .inr ⟨id, .inl (h.cutShort h' hconfirmed hassess hreply hcut)⟩
      rcases Route.followUp_cancel ctx route id cancel' (s.submitted ctx route) with hcut | hbare'
      · exact .inr ⟨id, .inr (h'.cutShort h hconfirmed hassess hreply hcut)⟩
      · refine .inl (h.eq_of_followed h' hconfirmed hassess fun other hother => ?_)
        obtain rfl : id = other := Except.ok.inj (hreply.symm.trans hother)
        exact hbare.trans hbare'.symm

end

/-- **Cancelling spares the submission**: two executions of a confirmed transfer that
differ in their tokens make the same submission, and no other.  They are the same
throughout if there is no approval to wait for; otherwise they are the same unless one
of them is cut short, under the id of the other. -/
theorem cancelling_spares_submission {ctx : EngineContext σ} {e : Engine σ}
    (builtIn : e.IsBuiltIn ctx) {w₀ : World σ} {p₀ : Pending} {history : List FlowEvent}
    {s : FlowState σ} (h : History e w₀ p₀ history s) (confirmed : s.pending.stage = .confirmed)
    (cancel cancel' : Option Duration) :
    let done := (FlowCall.execute cancel).apply e s
    let done' := (FlowCall.execute cancel').apply e s
    (∃ (submission : Submission) (more more' : List Request),
      done.2.world.requests = s.world.requests ++ submission.request :: more ∧
      done'.2.world.requests = s.world.requests ++ submission.request :: more' ∧
      ∀ request ∈ more ++ more', request.isSubmission = false) ∧
    (e.isOpenBankingDeposit = false → done = done') ∧
    (done = done' ∨ ∃ id, CutShort id done done' ∨ CutShort id done' done) := by
  obtain ⟨route, rfl⟩ := h.exists_route builtIn
  have hassess := h.vetted.assessed (by simp [confirmed])
  have hends := ends_apply ctx route s (.execute cancel)
  have hends' := ends_apply ctx route s (.execute cancel')
  refine ⟨?_, fun hplain => ?_, ?_⟩
  · obtain ⟨more, hmore, hquiet⟩ := hends.submits confirmed hassess
    obtain ⟨more', hmore', hquiet'⟩ := hends'.submits confirmed hassess
    exact ⟨_, more, more', hmore, hmore', fun request hmem =>
      (List.mem_append.1 hmem).elim (hquiet request) (hquiet' request)⟩
  · rw [Route.isOpenBankingDeposit_engine] at hplain
    obtain ⟨hanswer, hstate⟩ := hends.eq_of_followed hends' confirmed hassess fun id _ => by
      simp only [FlowState.followed, Route.followUp_of_not_isAuthorised ctx id _ hplain]
    exact Prod.ext hanswer hstate
  · rcases hends.eq_or_cutShort hends' confirmed hassess with ⟨hanswer, hstate⟩ | hcut
    · exact .inl (Prod.ext hanswer hstate)
    · exact .inr hcut

/-- A deposit is cancelled while it waits for the second fetch, which would have brought
its approval. -/
theorem cancelling_spares_submission_second_fetch :
    ∃ p₀ history s,
      History Sample.patientDeposit (.start Sample.hesitant) p₀ history s ∧
        let done := (FlowCall.execute (some 5)).apply Sample.patientDeposit s
        let done' := (FlowCall.execute none).apply Sample.patientDeposit s
        (∃ (submission : Submission) (more more' : List Request),
          done.2.world.requests = s.world.requests ++ submission.request :: more ∧
          done'.2.world.requests = s.world.requests ++ submission.request :: more') ∧
        done'.2.pending.stage = .awaitingApproval ∧ ∃ id, CutShort id done done' := by
  have hstart : start Sample.patientDeposit (.start Sample.hesitant) = (.ok _, _) := rfl
  have hhistory := history_drive hstart Sample.confirming
  obtain ⟨⟨submission, more, more', hmore, hmore', -⟩, -, hends⟩ :=
    cancelling_spares_submission Sample.isBuiltIn_patientDeposit hhistory (by decide +kernel)
      (some 5) none
  refine ⟨_, _, _, hhistory, ⟨submission, more, more', hmore, hmore'⟩, by decide +kernel, ?_⟩
  rcases hends with hsame | ⟨id, hcut | hcut⟩
  · exact absurd (congrArg (·.2.pending.stage) hsame) (by decide +kernel)
  · exact ⟨id, hcut⟩
  · exact absurd (congrArg Pending.stage hcut.pending) (by decide +kernel)

end Flow

end FiatRamp
