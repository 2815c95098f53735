import FiatRamp.Proofs.Safety

/-!
# FiatRamp.Proofs.Vetting

What a transfer that was validated keeps until it is submitted.

Whether a transfer passes depends on its amount and its terms alone, and these
stay as they are from a validation to the next accepted update.  So a transfer
that has passed would pass again (`Flow.Vetted`, `Flow.History.vetted`), and
calls go through at their stages as soon as what they ask for can be had
(`Flow.Refuses.not_admits` and the inversions after it).
-/

namespace FiatRamp

/-- There is one level to choose where there is no fee, and a custom amount does not
stand beside it. -/
theorem FeeSelection.eq_noFee_of_isAvailable {level : FeeLevel} {customFee : Option UInt64}
    (h : noFee.isAvailable level = true) :
    (⟨level, noFee.available, if level = .custom then customFee else none⟩ : FeeSelection) =
      noFee := by
  have hlevel : level = .none := by simpa [isAvailable, noFee] using h
  subst hlevel
  rfl

namespace Flow

/-! ## What a verdict depends on -/

section

variable {route : Route} {p q : Pending}

/-- Transfers of one amount on the same terms have the same summary. -/
theorem summary_congr (hterms : terms p = terms q) (hamount : p.amount = q.amount) :
    route.summary p = route.summary q := by
  have hfee : p.feeAmount = q.feeAmount := congrArg Terms.feeAmount hterms
  cases route <;> simp only [Route.summary, Pending.totalOutgoing, hamount, hfee]

/-- If a transfer passes, so does every other of its amount on its terms. -/
theorem assess_eq_canExecute_of_terms (h : route.assess p = .ok .canExecute)
    (hterms : terms q = terms p) (hamount : q.amount = p.amount) :
    route.assess q = .ok .canExecute := by
  have hmin : q.minLimit = p.minLimit := congrArg Terms.minLimit hterms
  have hmax : q.maxLimit = p.maxLimit := congrArg Terms.maxLimit hterms
  have hfee : q.feeAmount = p.feeAmount := congrArg Terms.feeAmount hterms
  have hbalance : q.availableBalance = p.availableBalance :=
    congrArg Terms.availableBalance hterms
  simp only [Route.assess_eq_canExecute_iff, Pending.classifyAmount, Pending.classifyBalance,
    Pending.totalOutgoing] at h ⊢
  rw [hmin, hmax, hfee, hbalance, hamount]
  exact h

end

/-! ## Vetted transfers -/

/-- What is true of the pending transfer between two calls, beyond being sound: it has
passed if it is said to, and would pass again. -/
structure Vetted (route : Route) (p₀ : Pending) (history : List FlowEvent) (p : Pending) : Prop
    extends Sound route p₀ history p where
  /-- There is no fee level to choose but the one chosen. -/
  feeSelection : p.feeSelection = .noFee
  verdict : p.stage ∈ [.validated, .confirmed] → p.verdict = .canExecute
  assessed : p.stage ∈ [.validated, .confirmed] → route.assess p = .ok .canExecute

section

variable {ctx : EngineContext σ} {route : Route} {p₀ : Pending} {history : List FlowEvent}
  {s t : FlowState σ} {call : FlowCall} {answer : Except FlowError FlowAnswer}

/-- **Every call keeps the pending transfer vetted.** -/
theorem Ends.vetted (h : Ends ctx route s call answer t) (hs : Vetted route p₀ history s.pending) :
    Vetted route p₀ (history ++ [(call, answer)]) t.pending := by
  have hsound := h.sound hs.toSound
  cases h with
  | refused | unassessed => exact ⟨hsound, hs.feeSelection, hs.verdict, hs.assessed⟩
  | amountUpdated =>
      exact ⟨hsound, hs.feeSelection, by simp [FlowState.enter], by simp [FlowState.enter]⟩
  | feeUpdated _ havailable =>
      refine ⟨hsound, ?_, by simp [FlowState.enter], by simp [FlowState.enter]⟩
      rw [hs.feeSelection] at havailable
      simp only [FlowState.enter, hs.feeSelection]
      exact FeeSelection.eq_noFee_of_isAvailable havailable
  | @validated verdict _ hassessed =>
      by_cases hpass : verdict = .canExecute
      · subst hpass
        exact ⟨hsound, hs.feeSelection, fun _ => rfl,
          fun _ => assess_eq_canExecute_of_terms hassessed rfl rfl⟩
      · refine ⟨hsound, hs.feeSelection, ?_, ?_⟩ <;> simp [FlowState.enter, hpass]
  | confirmed hlegal =>
      exact ⟨hsound, hs.feeSelection, fun _ => hs.verdict hlegal,
        fun _ => assess_eq_canExecute_of_terms (hs.assessed hlegal) rfl rfl⟩
  | notExecutable =>
      exact ⟨hsound, hs.feeSelection, by simp [FlowState.enter], by simp [FlowState.enter]⟩
  | notAccepted | completed | approved | unfinished =>
      exact ⟨hsound, hs.feeSelection, by simp [FlowState.ended, FlowState.enter],
        by simp [FlowState.ended, FlowState.enter]⟩

/-- Every run keeps the pending transfer vetted. -/
theorem Run.vetted (h : Run (route.engine ctx) s history t) (hs : Vetted route p₀ [] s.pending) :
    Vetted route p₀ history t.pending := by
  induction h with
  | refl => exact hs
  | call _ call ih => exact (ends_apply ctx route _ call).vetted ih
  | meanwhile _ _ _ ih => exact ih

/-- A flow starts vetted, as nothing has passed yet. -/
theorem vetted_of_start {w w₁ : World σ} {p : Pending}
    (h : start (route.engine ctx) w = (.ok p, w₁)) : Vetted route p [] p := by
  obtain ⟨limits, fee, asked, -, rfl, -, -⟩ := opening_of_start h
  refine ⟨sound_opening limits fee ctx.userFiat, ?_, by simp, by simp⟩
  cases route <;> rfl

/-- **Vetting**: after every history the pending transfer is vetted. -/
theorem History.vetted {w₀ : World σ} (h : History (route.engine ctx) w₀ p₀ history s) :
    Vetted route p₀ history s.pending := by
  obtain ⟨w₁, hstart, hrun⟩ := h
  exact hrun.vetted (vetted_of_start hstart)

end

/-! ## Calls that go through -/

/-- What a call asks for can be had, if the flow is at one of its stages. -/
def Admits (route : Route) (p : Pending) : FlowCall → Prop
  | .updateAmount amount => amount.isNegative = false
  | .updateFeeLevel level _ => p.feeSelection.isAvailable level = true
  | .validate | .execute _ => ∃ verdict, route.assess p = .ok verdict
  | .buildConfirmations => ∃ lines, route.summary p = .ok lines

section

variable {ctx : EngineContext σ} {route : Route} {s t : FlowState σ} {call : FlowCall}
  {answer : Except FlowError FlowAnswer}

/-- What was validated or confirmed is not submitted yet. -/
theorem mem_beforeSubmission {stage : Stage} (h : stage ∈ [.validated, .confirmed]) :
    stage ∈ beforeSubmission := by
  simp only [List.mem_cons, List.not_mem_nil, or_false] at h
  rcases h with rfl | rfl <;> simp [beforeSubmission]

/-- At the stages of a call the flow has not ended. -/
theorem isTerminal_of_mem_stages {stage : Stage} (h : stage ∈ call.stages) :
    stage.isTerminal = false := by
  cases call <;> cases stage <;> simp_all [FlowCall.stages, beforeSubmission, Stage.isTerminal]

/-- A call is not refused at its stages if what it asks for can be had. -/
theorem Refuses.not_admits {p : Pending} {error : FlowError} (h : Refuses route p call error)
    (hlegal : p.stage ∈ call.stages) : ¬ Admits route p call := by
  cases h with
  | finished hended => simp [isTerminal_of_mem_stages hlegal] at hended
  | illegal _ houtside => exact (houtside hlegal).elim
  | negative _ hnegative => simp [Admits, hnegative]
  | unavailable _ hunavailable => simp [Admits, hunavailable]
  | unsummed _ hunsummed => simp [Admits, hunsummed]

theorem Ends.of_updateAmount {amount : Money} (h : Ends ctx route s (.updateAmount amount) answer t)
    (hlegal : s.pending.stage ∈ beforeSubmission) (hsign : amount.isNegative = false) :
    answer = .ok .done ∧
      t.pending = { s.pending with amount, confirmations := [], stage := .amountEntry } := by
  cases h with
  | refused hrefused => exact (hrefused.not_admits hlegal hsign).elim
  | unassessed hvalidates => simp at hvalidates
  | amountUpdated => exact ⟨rfl, rfl⟩

theorem Ends.of_validate {verdict : Verdict} (h : Ends ctx route s .validate answer t)
    (hlegal : s.pending.stage ∈ beforeSubmission) (hassess : route.assess s.pending = .ok verdict) :
    answer = .ok (.verdict verdict) ∧
      t.pending = { s.pending with
        verdict, stage := if verdict = .canExecute then .validated else .amountEntry } := by
  cases h with
  | refused hrefused => exact (hrefused.not_admits hlegal ⟨verdict, hassess⟩).elim
  | unassessed _ _ hfails =>
      rw [hassess] at hfails
      cases hfails
  | validated _ hassessed =>
      rw [hassess] at hassessed
      cases hassessed
      exact ⟨rfl, rfl⟩

theorem Ends.of_buildConfirmations {lines : List Confirmation}
    (h : Ends ctx route s .buildConfirmations answer t)
    (hlegal : s.pending.stage ∈ [.validated, .confirmed])
    (hsummary : route.summary s.pending = .ok lines) :
    answer = .ok .done ∧
      t.pending = { s.pending with confirmations := lines, stage := .confirmed } := by
  cases h with
  | refused hrefused => exact (hrefused.not_admits hlegal ⟨lines, hsummary⟩).elim
  | unassessed hvalidates => simp at hvalidates
  | confirmed _ hsummed =>
      rw [hsummary] at hsummed
      cases hsummed
      exact ⟨rfl, rfl⟩

/-- An execution of what was confirmed and passes ends by what comes of the submission, and
of what follows. -/
theorem Ends.of_passing {cancel : Option Duration} (h : Ends ctx route s (.execute cancel) answer t)
    (hlegal : s.pending.stage = .confirmed) (hassess : route.assess s.pending = .ok .canExecute) :
    match s.reply ctx route with
    | .error cause =>
      answer = .error (.engine cause) ∧ t = s.ended route (s.submitted ctx route) .failed
    | .ok id =>
      let done := s.followed ctx route id cancel
      match done.1 with
      | .ok .completed =>
        answer = .ok (.outcome (.succeeded (route.result id s.pending.amount))) ∧
          t = s.ended route done.2 .succeeded
      | .ok (.needsApproval approval) =>
        answer = .ok (.outcome (.awaitingApproval (route.result id s.pending.amount) approval)) ∧
          t = s.ended route done.2 .awaitingApproval
      | .error cause =>
        answer = .error (.postSubmission ⟨id, cause⟩) ∧ t = s.ended route done.2 .failed := by
  have hstages : s.pending.stage ∈ (FlowCall.execute cancel).stages := by
    simp [FlowCall.stages, hlegal]
  cases h with
  | refused hrefused => exact (hrefused.not_admits hstages ⟨_, hassess⟩).elim
  | unassessed _ _ hfails =>
      rw [hassess] at hfails
      cases hfails
  | notExecutable _ hassessed hstopped =>
      rw [hassess] at hassessed
      cases hassessed
      exact (hstopped rfl).elim
  | notAccepted _ _ hreply => simp [hreply]
  | completed _ _ hreply hfollowed | approved _ _ hreply hfollowed
  | unfinished _ _ hreply hfollowed => simp [hreply, hfollowed]

/-- An execution of what was confirmed and passes comes to the submission. -/
theorem Ends.of_execute {cancel : Option Duration} (h : Ends ctx route s (.execute cancel) answer t)
    (hlegal : s.pending.stage = .confirmed) (hassess : route.assess s.pending = .ok .canExecute) :
    (∀ verdict, answer ≠ .error (.notExecutable verdict)) ∧
      ∃ more, t.world.requests =
        s.world.requests ++ (route.submission ctx s.pending).request :: more := by
  have hpassing := h.of_passing hlegal hassess
  cases hreply : s.reply ctx route with
  | error cause =>
      rw [hreply] at hpassing
      obtain ⟨rfl, rfl⟩ := hpassing
      exact ⟨by simp, [], rfl⟩
  | ok id =>
      obtain ⟨more, hmore, -⟩ := requests_followed ctx route s id cancel
      rw [hreply] at hpassing
      dsimp only at hpassing
      split at hpassing
      all_goals
        obtain ⟨rfl, rfl⟩ := hpassing
        exact ⟨by simp, more, hmore⟩

end

end Flow

end FiatRamp
