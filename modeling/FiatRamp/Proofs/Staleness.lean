import FiatRamp.Proofs.Vetting

/-!
# FiatRamp.Proofs.Staleness

To which amount the verdict of a transfer belongs.

An update of the amount leaves the verdict as it is, so a transfer may be said
to pass although its amount was never validated (`Flow.verdict_goes_stale`).
The verdict belongs to the amount of the last validation.  That is the amount
of the transfer unless another one was entered since, and then the flow is back
at a stage at which nothing is confirmed or submitted
(`Flow.verdict_of_validated_amount`).
-/

namespace FiatRamp

/-- The verdict of an event that is a validation. -/
def FlowEvent.verdict? : FlowEvent → Option Verdict
  | (.validate, .ok (.verdict verdict)) => some verdict
  | _ => none

@[simp] theorem FlowEvent.verdict?_error (call : FlowCall) (error : FlowError) :
    FlowEvent.verdict? (call, .error error) = none := by
  cases call <;> rfl

theorem lastAmount_append (before since : List FlowEvent) :
    lastAmount (before ++ since) = (lastAmount since).or (lastAmount before) := by
  simp [lastAmount, List.getLast?_append]

/-- The full check lets a transfer pass, whatever has become of the world. -/
def Engine.LetsPass (e : Engine σ) (p : Pending) : Prop :=
  ∀ w : World σ, ((e.validateAll p).run.run w).1 = .ok { p with verdict := .canExecute }

namespace Flow

/-- The flow is at a stage that another amount or fee leads to. -/
def beforeValidation : List Stage := [.amountEntry, .feeSelected]

/-- The last validation of a history, which let the transfer pass: what came before it
and what since. -/
structure PassedLast (history before since : List FlowEvent) : Prop where
  split : history = before ++ (.validate, .ok (.verdict .canExecute)) :: since
  last : ∀ event ∈ since, event.verdict? = none

/-- A transfer that is said to pass has passed with the amount it had at the last
validation, and this is its amount still where it can be confirmed or submitted. -/
def Judged (route : Route) (p₀ : Pending) (history : List FlowEvent) (p : Pending) : Prop :=
  p.verdict = .canExecute → ∃ before since, PassedLast history before since ∧
    route.assess { p with amount := (lastAmount before).getD p₀.amount } = .ok .canExecute ∧
    (p.stage ∉ beforeValidation → lastAmount since = none)

section

variable {ctx : EngineContext σ} {route : Route} {p₀ : Pending} {history : List FlowEvent}
  {s t : FlowState σ} {call : FlowCall} {answer : Except FlowError FlowAnswer}

/-- An event that is no validation keeps a transfer judged if it keeps the verdict and
the terms, and either enters no amount or leads back. -/
theorem Judged.concat {p q : Pending} {event : FlowEvent} (h : Judged route p₀ history p)
    (hevent : event.verdict? = none) (hverdict : q.verdict = p.verdict)
    (hterms : terms q = terms p)
    (hstage : q.stage ∉ beforeValidation → p.stage ∉ beforeValidation ∧ event.entered? = none) :
    Judged route p₀ (history ++ [event]) q := by
  intro hpassed
  obtain ⟨before, since, hlast, hassess, hkept⟩ := h (hverdict ▸ hpassed)
  refine ⟨before, since ++ [event], ⟨?_, ?_⟩, ?_, fun hq => ?_⟩
  · rw [hlast.split, List.append_assoc, List.cons_append]
  · simp only [List.mem_append, List.mem_singleton]
    rintro other (hother | rfl)
    · exact hlast.last other hother
    · exact hevent
  · exact assess_eq_canExecute_of_terms hassess hterms rfl
  · obtain ⟨hp, hentered⟩ := hstage hq
    rw [lastAmount_concat, hentered, hkept hp]
    rfl

/-- **Every call keeps the pending transfer judged.** -/
theorem Ends.judged (h : Ends ctx route s call answer t) (hs : Vetted route p₀ history s.pending)
    (hjudged : Judged route p₀ history s.pending) :
    Judged route p₀ (history ++ [(call, answer)]) t.pending := by
  -- what was validated or confirmed has no amount that was entered since
  have hlegal : ∀ {stage : Stage}, stage ∈ [.validated, .confirmed] → stage ∉ beforeValidation := by
    intro stage hstage
    cases stage <;> simp_all [beforeValidation]
  cases h with
  | refused | unassessed => exact hjudged.concat (by simp) rfl rfl fun hstage => ⟨hstage, by simp⟩
  | amountUpdated | feeUpdated =>
      exact hjudged.concat rfl rfl rfl (by simp [FlowState.enter, beforeValidation])
  | @validated verdict _ hassessed =>
      rintro rfl
      refine ⟨history, [], ⟨rfl, by simp⟩, ?_, fun _ => rfl⟩
      exact assess_eq_canExecute_of_terms hassessed rfl hs.entered.symm
  | confirmed hstage => exact hjudged.concat rfl rfl rfl fun _ => ⟨hlegal hstage, rfl⟩
  | notExecutable _ _ hstopped => exact fun hpassed => (hstopped hpassed).elim
  | notAccepted hstage | completed hstage | approved hstage | unfinished hstage =>
      have hconfirmed : s.pending.stage ∈ [.validated, .confirmed] := by simp [hstage]
      exact hjudged.concat rfl (hs.verdict hconfirmed).symm rfl fun _ => ⟨hlegal hconfirmed, rfl⟩

/-- Every run keeps the pending transfer judged. -/
theorem Run.judged (h : Run (route.engine ctx) s history t) (hs : Vetted route p₀ [] s.pending)
    (hjudged : Judged route p₀ [] s.pending) : Judged route p₀ history t.pending := by
  induction h with
  | refl => exact hjudged
  | call hrun call ih => exact (ends_apply ctx route _ call).judged (hrun.vetted hs) ih
  | meanwhile _ _ _ ih => exact ih

/-- After every history the pending transfer is judged. -/
theorem History.judged {w₀ : World σ} (h : History (route.engine ctx) w₀ p₀ history s) :
    Judged route p₀ history s.pending := by
  obtain ⟨w₁, hstart, hrun⟩ := h
  obtain ⟨limits, fee, asked, -, hopened, -, -⟩ := opening_of_start hstart
  refine hrun.judged (vetted_of_start hstart) fun hpassed => ?_
  rw [hopened] at hpassed
  cases route <;> cases hpassed

theorem letsPass_of_assess {p : Pending} (h : route.assess p = .ok .canExecute) :
    (route.engine ctx).LetsPass p := by
  intro w
  rw [Route.run_validateAll, h]
  rfl

end

/-- **A verdict belongs to the amount that was validated**: a transfer that is said to
pass has passed at the last validation, and its terms are such that the full check
lets the amount of that time pass again.  This is its amount unless another one was
entered since, which leads back to a stage before the validation. -/
theorem verdict_of_validated_amount {ctx : EngineContext σ} {e : Engine σ}
    (builtIn : e.IsBuiltIn ctx) {w₀ : World σ} {p₀ : Pending} {history : List FlowEvent}
    {s : FlowState σ} (h : History e w₀ p₀ history s) (passed : s.pending.verdict = .canExecute) :
    ∃ before since, PassedLast history before since ∧
      e.LetsPass { s.pending with amount := (lastAmount before).getD p₀.amount } ∧
      s.pending.amount = (lastAmount since).getD ((lastAmount before).getD p₀.amount) ∧
      (lastAmount since = none → e.LetsPass s.pending) ∧
      (s.pending.stage ∉ beforeValidation → lastAmount since = none) := by
  obtain ⟨route, rfl⟩ := h.exists_route builtIn
  obtain ⟨before, since, hlast, hassess, hkept⟩ := h.judged passed
  have hamount : s.pending.amount =
      (lastAmount since).getD ((lastAmount before).getD p₀.amount) := by
    have hentered := h.sound.entered
    rw [hlast.split, ← List.singleton_append, lastAmount_append, lastAmount_append] at hentered
    rw [hentered]
    cases lastAmount since <;> rfl
  refine ⟨before, since, hlast, letsPass_of_assess hassess, hamount, fun hnone => ?_, hkept⟩
  rw [hnone] at hamount
  exact letsPass_of_assess (assess_eq_canExecute_of_terms hassess rfl hamount)

/-- Five pounds that were validated pass, as they are still what is to be withdrawn. -/
theorem verdict_of_validated_amount_five_pounds :
    ∃ p₀ history s,
      History Sample.withdrawal (.start ()) p₀ history s ∧ s.pending.verdict = .canExecute ∧
        s.pending.amount = Sample.pounds 5 ∧ Sample.withdrawal.LetsPass s.pending := by
  have hstart : start Sample.withdrawal (.start ()) = (.ok _, _) := rfl
  have hhistory := history_drive hstart Sample.confirming
  obtain ⟨before, since, -, -, -, hpasses, hkept⟩ :=
    verdict_of_validated_amount Sample.isBuiltIn_withdrawal hhistory (by decide +kernel)
  exact ⟨_, _, _, hhistory, by decide +kernel, by decide +kernel,
    hpasses (hkept (by decide +kernel))⟩

/-- **A stale verdict**: after five pounds have passed, 600 pounds are said to pass
although the full check finds them above the limit. -/
theorem verdict_goes_stale :
    ∃ p₀ history s,
      History Sample.withdrawal (.start ()) p₀ history s ∧ s.pending.verdict = .canExecute ∧
        s.pending.amount = Sample.pounds 600 ∧
        ((Sample.withdrawal.validateAll s.pending).run.run s.world).1 =
          .ok { s.pending with verdict := .overMaxLimit } := by
  have hstart : start Sample.withdrawal (.start ()) = (.ok _, _) := rfl
  have hhistory := history_drive hstart
    [.updateAmount (Sample.pounds 5), .validate, .updateAmount (Sample.pounds 600)]
  exact ⟨_, _, _, hhistory, by decide +kernel, by decide +kernel, by decide +kernel⟩

end Flow

end FiatRamp
