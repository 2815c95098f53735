import FiatRamp.Proofs.Route

/-!
# FiatRamp.Proofs.FollowUp

What waiting for an approval leaves as it was.

A poll session changes the state by the calls of its producer only
(`Poll.runFrom_preserves`), and waiting for an approval changes the world by
fetching charges and looking up one bank (`Deposit.awaitApproval_preserves`).
So nothing is submitted while a flow waits.
-/

namespace FiatRamp

/-! ## Poll sessions -/

namespace Poll

@[simp] theorem state_toEnd (attempt : Nat) (s : σ) (cut : Interruption) :
    (cut.toEnd attempt s : End σ ε β).state = s := by
  cases cut <;> rfl

/-- The state an attempt leaves has a property. -/
def Attempt.Leaves (P : σ → Prop) : Attempt σ ε β → Prop
  | .ended e => P e.state
  | .endless => True
  | .notReady _ _ s => P s

section

variable {ε α β : Type} {P : σ → Prop} {settings : PollSettings} {draw : Nat → Nat}
  {produce : σ → Call σ ε α} {extract : α → Option β}

/-- An attempt keeps what its call keeps, both when it starts and when it ends. -/
theorem leaves_attemptAt (hstarted : ∀ s, P s → P (produce s).work.started)
    (hended : ∀ s, P s → P (produce s).work.ended.2) (timeout : Option Duration)
    (extract : α → Option β) (attempt : Nat) (now : Duration) (cancel : Option Duration) {s : σ}
    (hs : P s) :
    (attemptAt timeout produce extract attempt now cancel s).Leaves P := by
  have hstart := hstarted s hs
  have hend := hended s hs
  unfold attemptAt
  simp only
  split
  · next cut _ _ =>
      rw [Attempt.Leaves, state_toEnd]
      exact hstart
  · trivial
  · split
    · next h => rw [h] at hend; exact hend
    · next h => rw [h] at hend; exact hend
    · next a s' h =>
        rw [h] at hend
        cases extract a <;> exact hend

/-- A session keeps what its calls keep. -/
theorem runFrom_preserves (hstarted : ∀ s, P s → P (produce s).work.started)
    (hended : ∀ s, P s → P (produce s).work.ended.2) {left attempts : Nat} {now : Duration}
    {cancel : Option Duration} {s : σ} {e : End σ ε β} (hs : P s)
    (h : runFrom settings draw produce extract left attempts now cancel s = some e) :
    P e.state := by
  have hleaves := fun attempt now cancel (s : σ) (hs : P s) =>
    leaves_attemptAt hstarted hended settings.timeout extract attempt now cancel hs
  fun_induction runFrom settings draw produce extract left attempts now cancel s with
  | case1 =>
      cases h
      exact hs
  | case2 _ attempts now cancel s _ attempt e hattempt =>
      have hend := hleaves attempt now cancel s hs
      rw [hattempt] at hend
      cases h
      exact hend
  | case3 => cases h
  | case4 attempts now cancel s _ attempt time cancel' s' hattempt =>
      have hend := hleaves attempt now cancel s hs
      rw [hattempt] at hend
      cases h
      exact hend
  | case5 attempts now cancel s _ attempt time cancel' s' hattempt =>
      have hend := hleaves attempt now cancel s hs
      rw [hattempt] at hend
      cases h
      rw [state_toEnd]
      exact hend
  | case6 attempts now cancel s _ attempt time cancel' s' hattempt _ _ _ ih =>
      have hend := hleaves attempt now cancel s hs
      rw [hattempt] at hend
      exact ih hend h

/-- **Sessions keep what their tasks keep.** -/
theorem runTasks_preserves {task : σ → Task σ (Except ε α)}
    (hstarted : ∀ s, P s → P (task s).started) (hended : ∀ s, P s → P (task s).ended.2)
    (settings : PollSettings) (draw : Nat → Nat) (extract : α → Option β)
    (cancel : Option Duration) {s : σ} (hs : P s) :
    P (runTasks settings draw task extract cancel s).state :=
  runFrom_preserves hstarted hended hs (Option.some_get _).symm

end

end Poll

/-! ## Requests that move no money -/

/-- Work with a deadline keeps what the work keeps, both when it starts and when it ends. -/
theorem Work.ended_within {P : σ → Prop} {work : Work σ α} (limit : Duration)
    (hstarted : P work.started) (hended : P work.ended.2) : P (work.within limit).ended.2 := by
  cases hwithin : work.endsWithin limit with
  | true =>
      rw [ended_within_of_endsWithin hwithin]
      exact hended
  | false =>
      rw [ended_within_of_not_endsWithin hwithin]
      exact hstarted

/-- What is known of the custodian's state and of the requests made stays known
over every request that moves no money. -/
def Custodian.Keeps (custodian : Custodian σ) (P : σ → List Request → Prop) : Prop :=
  ∀ request, request.isSubmission = false → ∀ backend requests, P backend requests →
    P (custodian request backend).started (requests ++ [request]) ∧
      P (custodian request backend).ended.2 (requests ++ [request])

section

variable {ctx : EngineContext σ} {P : σ → List Request → Prop} (hkeeps : ctx.custodian.Keeps P)
  {w : World σ}

include hkeeps

theorem World.answered_preserves {request : Request} (hrequest : request.isSubmission = false)
    (hw : P w.backend w.requests) :
    P (w.answered ctx.custodian ctx.deadlines request).backend
      (w.answered ctx.custodian ctx.deadlines request).requests := by
  obtain ⟨hstarted, hended⟩ := hkeeps request hrequest _ _ hw
  exact Work.ended_within (P := (P · (w.requests ++ [request]))) _ hstarted hended

theorem Deposit.poll_preserves (paymentId : String) (cancel : Option Duration)
    (hw : P w.backend w.requests) :
    let after := ((EngineStep.poll ctx.poll ctx.draw (fetchCharge ctx paymentId) authorised
      cancel).run.run w).2
    P after.backend after.requests := by
  have hcharge : (Request.charge paymentId).isSubmission = false := rfl
  have hstarted : ∀ w : World σ, P w.backend w.requests →
      P (fetchCharge ctx paymentId w).started.backend
        (fetchCharge ctx paymentId w).started.requests := by
    intro w hw
    have hstart := (hkeeps _ hcharge _ _ hw).1
    rwa [← Work.started_within _ (ctx.deadlines.of (.charge paymentId))] at hstart
  have hended : ∀ w : World σ, P w.backend w.requests →
      P (fetchCharge ctx paymentId w).ended.2.backend
        (fetchCharge ctx paymentId w).ended.2.requests := by
    intro w hw
    exact World.answered_preserves hkeeps hcharge hw
  have hstate := Poll.runTasks_preserves (P := fun w : World σ => P w.backend w.requests)
    hstarted hended ctx.poll ctx.draw authorised (cancel.map (· - w.now)) hw
  rw [EngineStep.run_poll]
  dsimp only
  split <;> exact hstate

/-- **Waiting for an approval** keeps what requests that move no money keep. -/
theorem Deposit.awaitApproval_preserves (paymentId : String) (cancel : Option Duration)
    (hw : P w.backend w.requests) :
    P ((awaitApproval ctx paymentId cancel).run.run w).2.backend
      ((awaitApproval ctx paymentId cancel).run.run w).2.requests := by
  have hpoll := Deposit.poll_preserves hkeeps paymentId cancel hw
  rw [awaitApproval, run_bind]
  cases hsession : (EngineStep.poll ctx.poll ctx.draw (fetchCharge ctx paymentId) authorised
      cancel).run.run w with
  | mk result after =>
      rw [hsession] at hpoll
      cases result with
      | error => exact hpoll
      | ok session =>
          dsimp only
          rw [run_bind, EngineStep.run_ofExcept]
          cases session.mapError (pollFailure paymentId) with
          | error => exact hpoll
          | ok found =>
              dsimp only
              rw [run_bind, EngineStep.run_ask]
              have hbank : (Request.linkedBank found.2.linkedBankId).isSubmission = false := rfl
              have hasked := World.answered_preserves hkeeps hbank hpoll
              cases ctx.custodian.reply ctx.deadlines (.linkedBank found.2.linkedBankId)
                after.backend <;> exact hasked

/-- What follows a submission keeps what requests that move no money keep. -/
theorem Route.followUp_preserves (route : Route) (id : String) (cancel : Option Duration)
    (hw : P w.backend w.requests) :
    P ((route.followUp ctx id cancel).run.run w).2.backend
      ((route.followUp ctx id cancel).run.run w).2.requests := by
  unfold followUp
  split
  · exact Deposit.awaitApproval_preserves hkeeps id cancel hw
  · exact hw

end

/-- An approval names the payment it was asked for. -/
theorem Deposit.paymentId_of_awaitApproval {ctx : EngineContext σ} {w : World σ}
    {paymentId : String} {cancel : Option Duration} {approval : Approval}
    (h : ((awaitApproval ctx paymentId cancel).run.run w).1 = .ok (.needsApproval approval)) :
    approval.paymentId = paymentId := by
  rw [awaitApproval, run_bind] at h
  split at h
  · rw [run_bind, EngineStep.run_ofExcept] at h
    split at h
    · rw [run_bind, EngineStep.run_ask] at h
      split at h
      · cases h
        rfl
      · cases h
    · cases h
  · cases h

theorem Route.paymentId_of_followUp {ctx : EngineContext σ} {w : World σ} {route : Route}
    {id : String} {cancel : Option Duration} {approval : Approval}
    (h : ((route.followUp ctx id cancel).run.run w).1 = .ok (.needsApproval approval)) :
    approval.paymentId = id := by
  unfold followUp at h
  split at h
  · exact Deposit.paymentId_of_awaitApproval h
  · cases h

/-! ## No further submission -/

/-- What follows a submission makes no other. -/
theorem Route.requests_followUp (ctx : EngineContext σ) (route : Route) (id : String)
    (cancel : Option Duration) (w : World σ) :
    ∃ asked, ((route.followUp ctx id cancel).run.run w).2.requests = w.requests ++ asked ∧
      ∀ request ∈ asked, request.isSubmission = false := by
  refine Route.followUp_preserves (P := fun _ requests => ∃ asked,
    requests = w.requests ++ asked ∧ ∀ request ∈ asked, request.isSubmission = false)
    ?_ route id cancel ⟨[], by simp, by simp⟩
  rintro request hrequest _ requests ⟨asked, rfl, hasked⟩
  have hmore : ∃ more, w.requests ++ asked ++ [request] = w.requests ++ more ∧
      ∀ request ∈ more, request.isSubmission = false := by
    refine ⟨asked ++ [request], by simp, ?_⟩
    simp only [List.mem_append, List.mem_singleton]
    rintro r (hr | rfl)
    · exact hasked r hr
    · exact hrequest
  exact ⟨hmore, hmore⟩

end FiatRamp
