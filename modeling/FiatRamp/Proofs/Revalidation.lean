import FiatRamp.Proofs.Vetting

/-!
# FiatRamp.Proofs.Revalidation

Validating twice.

Everything is validated once more before the submission.  A second validation
comes to the verdict of the first (`Route.assess_assess`), and between the two
nothing changes that a verdict depends on.  So the second one never stops what
the first has let through (`Flow.validations_agree`).
-/

namespace FiatRamp

namespace Pending

/-- Holding the amount against the limits comes to a verdict of its own. -/
theorem classifyAmount_ne_uninitialised {p : Pending} :
    p.classifyAmount ≠ .ok .uninitialised := by
  intro h
  cases classifyAmount_eq_iff.1 h

end Pending

namespace Route

variable {route : Route} {p : Pending} {verdict : Verdict}

/-- A transfer nobody has touched keeps the verdict it has. -/
theorem assess_of_isUntouched (h : p.isUntouched = true) : route.assess p = .ok p.verdict := by
  unfold assess
  rw [if_pos h]

/-- A transfer that was touched gets a verdict of its own. -/
theorem assess_ne_uninitialised (h : p.isUntouched = false) :
    route.assess p ≠ .ok .uninitialised := by
  intro hassess
  rcases assess_eq_ok_iff.1 hassess with ⟨huntouched, -⟩ | ⟨-, ⟨hamount, -⟩ | ⟨-, -, hbalance⟩⟩
  · simp [h] at huntouched
  · exact Pending.classifyAmount_ne_uninitialised hamount
  · rcases classifyBalance_eq_ok p hbalance with h | h <;> cases h

/-- The verdict a transfer has is of no account once it is touched. -/
theorem assess_with_verdict (h : p.isUntouched = false) (hverdict : verdict ≠ .uninitialised) :
    route.assess { p with verdict } = route.assess p := by
  have htouched : ({ p with verdict } : Pending).isUntouched = false := by
    simp [Pending.isUntouched, hverdict]
  unfold assess
  rw [h, htouched, if_neg (by simp), if_neg (by simp)]
  cases route <;> rfl

/-- **A second validation agrees with the first**, whose verdict it starts from. -/
theorem assess_assess (h : route.assess p = .ok verdict) :
    route.assess { p with verdict } = .ok verdict := by
  cases huntouched : p.isUntouched with
  | true =>
      rw [assess_of_isUntouched huntouched] at h
      cases h
      exact assess_of_isUntouched huntouched
  | false =>
      have hverdict : verdict ≠ .uninitialised := by
        rintro rfl
        exact assess_ne_uninitialised huntouched h
      rw [assess_with_verdict huntouched hverdict, h]

end Route

/-- Only accounts that suit the engine come to a validation. -/
theorem Engine.checkAccounts_of_validateAll {e : Engine σ} {p q : Pending} {w after : World σ}
    (h : (e.validateAll p).run.run w = (.ok q, after)) : e.checkAccounts = .ok () := by
  rw [validateAll, run_assertAccounts_bind] at h
  cases hcheck : e.checkAccounts with
  | ok => rfl
  | error cause =>
      rw [hcheck] at h
      cases h

namespace Flow

/-! ## Between the two validations -/

/-- What holds of a flow whose transfer was validated or confirmed: it would be
validated again, and confirmed. -/
structure StillPasses (e : Engine σ) (s : FlowState σ) : Prop where
  verdict : s.pending.verdict = .canExecute
  /-- A validation changes nothing, whatever has become of the world. -/
  revalidated : ∀ w : World σ, ((e.validateAll s.pending).run.run w).1 = .ok s.pending
  validates : (FlowCall.validate.apply e s).1 = .ok (.verdict .canExecute)
  /-- The summary can be built. -/
  summarised : ∃ lines, ∀ w : World σ, (e.buildConfirmations s.pending).run.run w =
    (.ok { s.pending with confirmations := lines }, w)
  confirms : (FlowCall.buildConfirmations.apply e s).1 = .ok .done

/-- An execution is not stopped by the validation it begins with, and comes to the
submission: this is the first thing the custodian is asked for. -/
structure Submits (e : Engine σ) (s : FlowState σ) (cancel : Option Duration) : Prop where
  notStopped : ∀ verdict, ((FlowCall.execute cancel).apply e s).1 ≠ .error (.notExecutable verdict)
  requests : ∃ (submission : Submission) (more : List Request),
    ((FlowCall.execute cancel).apply e s).2.world.requests =
      s.world.requests ++ submission.request :: more

section

variable {ctx : EngineContext σ} {route : Route} {p₀ : Pending} {history : List FlowEvent}
  {s : FlowState σ}

/-- What has passed has a summary: the total of a withdrawal is a decimal. -/
theorem exists_summary {p : Pending} (h : route.assess p = .ok .canExecute) :
    ∃ lines, route.summary p = .ok lines := by
  cases route with
  | deposit => exact ⟨_, rfl⟩
  | withdrawal =>
      obtain ⟨-, hbalance⟩ := Route.assess_eq_canExecute_iff.1 h
      obtain ⟨total, htotal, -⟩ := Pending.classifyBalance_eq_canExecute_iff.1 (hbalance rfl)
      exact ⟨_, by rw [Route.summary, htotal]; rfl⟩

theorem Vetted.stillPasses (h : Vetted route p₀ history s.pending)
    (hstage : s.pending.stage ∈ [.validated, .confirmed]) :
    StillPasses (route.engine ctx) s := by
  have hverdict := h.verdict hstage
  have hassess := h.assessed hstage
  obtain ⟨lines, hsummary⟩ := exists_summary hassess
  have hbefore := mem_beforeSubmission hstage
  constructor
  · exact hverdict
  · intro w
    rw [Route.run_validateAll, hassess, ← hverdict]
    rfl
  · exact ((ends_apply ctx route s .validate).of_validate hbefore hassess).1
  · refine ⟨lines, fun w => ?_⟩
    rw [Route.run_buildConfirmations, hsummary]
    rfl
  · exact ((ends_apply ctx route s .buildConfirmations).of_buildConfirmations hstage hsummary).1

theorem Vetted.submits (h : Vetted route p₀ history s.pending)
    (hconfirmed : s.pending.stage = .confirmed) (cancel : Option Duration) :
    Submits (route.engine ctx) s cancel := by
  have hassess := h.assessed (by simp [hconfirmed])
  obtain ⟨hnot, more, hmore⟩ :=
    (ends_apply ctx route s (.execute cancel)).of_execute hconfirmed hassess
  exact ⟨hnot, _, more, hmore⟩

end

/-- **Validations agree**: a second validation of a transfer changes nothing.  In every
flow what was validated or confirmed passes again and can be confirmed, and what was
confirmed can be submitted. -/
theorem validations_agree {ctx : EngineContext σ} {e : Engine σ} (builtIn : e.IsBuiltIn ctx) :
    (∀ p q w after, (e.validateAll p).run.run w = (.ok q, after) →
      ∀ w, ((e.validateAll q).run.run w).1 = .ok q) ∧
      ∀ w₀ p₀ history s, History e w₀ p₀ history s →
        (s.pending.stage ∈ [.validated, .confirmed] → StillPasses e s) ∧
          (s.pending.stage = .confirmed → ∀ cancel, Submits e s cancel) := by
  constructor
  · intro p q w after hvalidated w'
    obtain ⟨route, rfl⟩ := builtIn.exists_route (Engine.checkAccounts_of_validateAll hvalidated)
    rw [Route.run_validateAll] at hvalidated
    cases hassess : route.assess p with
    | error cause =>
        rw [hassess] at hvalidated
        cases hvalidated
    | ok verdict =>
        rw [hassess] at hvalidated
        cases hvalidated
        rw [Route.run_validateAll, Route.assess_assess hassess]
        rfl
  · intro w₀ p₀ history s h
    obtain ⟨route, rfl⟩ := h.exists_route builtIn
    exact ⟨h.vetted.stillPasses, h.vetted.submits⟩

/-- Five pounds that were confirmed pass again and can be submitted. -/
theorem validations_agree_five_pounds :
    ∃ p₀ history s,
      History Sample.withdrawal (.start ()) p₀ history s ∧ s.pending.stage = .confirmed ∧
        (∀ w, ((Sample.withdrawal.validateAll s.pending).run.run w).1 = .ok s.pending) ∧
        StillPasses Sample.withdrawal s ∧ Submits Sample.withdrawal s none := by
  have hstart : start Sample.withdrawal (.start ()) = (.ok _, _) := rfl
  have hhistory := history_drive hstart Sample.confirming
  obtain ⟨hagree, hflow⟩ := validations_agree Sample.isBuiltIn_withdrawal
  obtain ⟨hpasses, hsubmits⟩ := hflow _ _ _ _ hhistory
  have hpasses := hpasses (by decide +kernel)
  have hvalidated := Prod.ext (hpasses.revalidated (.start ())) rfl
  exact ⟨_, _, _, hhistory, rfl, hagree _ _ _ _ hvalidated, hpasses, hsubmits rfl none⟩

end Flow

end FiatRamp
