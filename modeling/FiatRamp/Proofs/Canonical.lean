import FiatRamp.Proofs.Revalidation

/-!
# FiatRamp.Proofs.Canonical

What was confirmed does not depend on how it came about.

All fields of a confirmed transfer are fixed by the transfer the flow started
with and by the amount (`Flow.Vetted.eq_of_confirmed`).  So nothing is left of
other amounts, of fee levels and of calls that failed: the shortest way to a
confirmation leads to the same transfer (`Flow.confirmed_is_canonical`).
-/

namespace FiatRamp

/-- Five pounds are confirmed after seven were, and after calls that failed. -/
def Sample.wavering : List FlowCall :=
  [.updateAmount (pounds 7), .updateFeeLevel .none (some 3), .validate, .buildConfirmations,
    .validate, .updateFeeLevel .priority none, .updateAmount (pounds 5), .buildConfirmations,
    .validate, .validate, .buildConfirmations]

namespace Flow

/-! ## Runs by their calls -/

section

variable {e : Engine σ} {s t : FlowState σ} {history : List FlowEvent}

/-- A run without calls leaves the pending transfer as it is. -/
theorem Run.pending_of_nil (h : Run e s history t) (hnil : history = []) :
    t.pending = s.pending := by
  induction h with
  | refl => rfl
  | call => simp at hnil
  | meanwhile _ _ _ ih => exact ih hnil

/-- A run with a last call comes from a shorter run and this call. -/
theorem Run.of_map_concat (calls : List FlowCall) {call : FlowCall} (h : Run e s history t)
    (hcalls : history.map Prod.fst = calls ++ [call]) :
    ∃ before u, Run e s before u ∧ before.map Prod.fst = calls ∧
      history = before ++ [(call, (call.apply e u).1)] ∧
      t.pending = (call.apply e u).2.pending := by
  induction h with
  | refl => simp at hcalls
  | @call before u hrun made =>
      rw [List.map_append] at hcalls
      obtain ⟨hbefore, hmade⟩ := List.append_inj' hcalls rfl
      obtain rfl : made = call := by simpa using hmade
      exact ⟨before, u, hrun, hbefore, rfl, rfl⟩
  | meanwhile _ _ _ ih => exact ih hcalls

end

/-! ## What was confirmed -/

/-- The calls of the shortest way to a confirmation. -/
def direct (amount : Money) : List FlowCall :=
  [.updateAmount amount, .validate, .buildConfirmations]

section

variable {route : Route} {p₀ p q : Pending} {history other : List FlowEvent}

/-- Confirmed transfers of one amount that come from one start are the same. -/
theorem Vetted.eq_of_confirmed (hp : Vetted route p₀ history p) (hq : Vetted route p₀ other q)
    (hpstage : p.stage = .confirmed) (hqstage : q.stage = .confirmed)
    (hamount : p.amount = q.amount) : p = q := by
  have hterms : terms p = terms q := hp.terms.trans hq.terms.symm
  have hverdict : p.verdict = q.verdict :=
    (hp.verdict (by simp [hpstage])).trans (hq.verdict (by simp [hqstage])).symm
  have hfeeSelection : p.feeSelection = q.feeSelection :=
    hp.feeSelection.trans hq.feeSelection.symm
  -- each summary is the one of its transfer, and these two have the same
  have hconfirmations : p.confirmations = q.confirmations := by
    have hsummaries := (hp.summarised hpstage).symm.trans
      ((summary_congr hterms hamount).trans (hq.summarised hqstage))
    injection hsummaries
  have hstage : p.stage = q.stage := hpstage.trans hqstage.symm
  cases p
  cases q
  simp_all [terms]

end

/-! ## The shortest way -/

section

variable {ctx : EngineContext σ} {route : Route} {s t : FlowState σ} {history : List FlowEvent}
  {amount : Money}

/-- The amount is entered. -/
theorem entered_of_run (hentry : s.pending.stage = .amountEntry) (hsign : amount.isNegative = false)
    (h : Run (route.engine ctx) s history t)
    (hcalls : history.map Prod.fst = [.updateAmount amount]) :
    history.map Prod.snd = [.ok .done] ∧
      t.pending = { s.pending with amount, confirmations := [], stage := .amountEntry } := by
  obtain ⟨before, u, hrun, hbefore, rfl, ht⟩ := h.of_map_concat [] hcalls
  obtain rfl : before = [] := by simpa using hbefore
  have hu : u.pending = s.pending := hrun.pending_of_nil rfl
  obtain ⟨hanswer, hpending⟩ := (ends_apply ctx route u (.updateAmount amount)).of_updateAmount
    (by simp [hu, hentry, beforeSubmission]) hsign
  exact ⟨by simp [hanswer], by rw [ht, hpending, hu]⟩

/-- The amount is entered and passes. -/
theorem validated_of_run (hentry : s.pending.stage = .amountEntry)
    (hsign : amount.isNegative = false)
    (hassess : route.assess { s.pending with
      amount, confirmations := [], stage := .amountEntry } = .ok .canExecute)
    (h : Run (route.engine ctx) s history t)
    (hcalls : history.map Prod.fst = [.updateAmount amount, .validate]) :
    history.map Prod.snd = [.ok .done, .ok (.verdict .canExecute)] ∧
      t.pending = { s.pending with
        amount, verdict := .canExecute, confirmations := [], stage := .validated } := by
  obtain ⟨before, u, hrun, hbefore, rfl, ht⟩ := h.of_map_concat [.updateAmount amount] hcalls
  obtain ⟨hanswers, hu⟩ := entered_of_run hentry hsign hrun hbefore
  obtain ⟨hanswer, hpending⟩ := (ends_apply ctx route u .validate).of_validate
    (by simp [hu, beforeSubmission]) (by rw [hu, hassess])
  exact ⟨by simp [hanswers, hanswer], by rw [ht, hpending, hu]; rfl⟩

/-- The amount is entered, passes and is confirmed. -/
theorem confirmed_of_run (hentry : s.pending.stage = .amountEntry)
    (hsign : amount.isNegative = false)
    (hassess : route.assess { s.pending with
      amount, confirmations := [], stage := .amountEntry } = .ok .canExecute)
    (h : Run (route.engine ctx) s history t) (hcalls : history.map Prod.fst = direct amount) :
    history.map Prod.snd = [.ok .done, .ok (.verdict .canExecute), .ok .done] ∧
      t.pending.stage = .confirmed ∧ t.pending.amount = amount := by
  obtain ⟨before, u, hrun, hbefore, rfl, ht⟩ :=
    h.of_map_concat [.updateAmount amount, .validate] hcalls
  obtain ⟨hanswers, hu⟩ := validated_of_run hentry hsign hassess hrun hbefore
  have hpasses : route.assess u.pending = .ok .canExecute :=
    assess_eq_canExecute_of_terms hassess (by rw [hu]; rfl) (by rw [hu])
  obtain ⟨lines, hsummary⟩ := exists_summary hpasses
  obtain ⟨hanswer, hpending⟩ := (ends_apply ctx route u .buildConfirmations).of_buildConfirmations
    (by simp [hu]) hsummary
  refine ⟨by simp [hanswers, hanswer], ?_, ?_⟩
  · rw [ht, hpending]
  · rw [ht, hpending, hu]

end

/-- **Confirmations are canonical**: a confirmed transfer is the one the shortest way
leads to from the same start, whatever was called before and whatever the custodian
did meanwhile.  So two flows with one start that confirmed one amount hold the same
transfer. -/
theorem confirmed_is_canonical {ctx : EngineContext σ} {e : Engine σ} (builtIn : e.IsBuiltIn ctx)
    {w₀ w₁ w : World σ} {p₀ : Pending} (started : start e w₀ = (.ok p₀, w₁))
    {history : List FlowEvent} {s : FlowState σ} (h : Run e ⟨p₀, w⟩ history s)
    (confirmed : s.pending.stage = .confirmed) :
    (∀ world way t, Run e ⟨p₀, world⟩ way t → way.map Prod.fst = direct s.pending.amount →
      way.map Prod.snd = [.ok .done, .ok (.verdict .canExecute), .ok .done] ∧
        t.pending = s.pending) ∧
      ∀ world other t, Run e ⟨p₀, world⟩ other t → t.pending.stage = .confirmed →
        t.pending.amount = s.pending.amount → t.pending = s.pending := by
  obtain ⟨route, rfl⟩ := builtIn.exists_route (checkAccounts_of_start started)
  have hstart : Vetted route p₀ [] p₀ := vetted_of_start started
  have hs : Vetted route p₀ history s.pending := h.vetted hstart
  have hsame : ∀ world other t, Run (route.engine ctx) ⟨p₀, world⟩ other t →
      t.pending.stage = .confirmed → t.pending.amount = s.pending.amount →
        t.pending = s.pending :=
    fun _ _ _ hother ht => (hother.vetted hstart).eq_of_confirmed hs ht confirmed
  refine ⟨fun world way t hway hcalls => ?_, hsame⟩
  have hentry : p₀.stage = .amountEntry := by
    obtain ⟨limits, fee, asked, -, rfl, -⟩ := opening_of_start started
    rfl
  have hassess := assess_eq_canExecute_of_terms (hs.assessed (by simp [confirmed]))
    (q := { p₀ with
      amount := s.pending.amount, confirmations := [], stage := .amountEntry }) hs.terms.symm rfl
  obtain ⟨hanswers, ht, hamount⟩ := confirmed_of_run hentry hs.nonnegative hassess hway hcalls
  exact ⟨hanswers, hsame world way t hway ht hamount⟩

/-- The five pounds that were confirmed in the end are those of the shortest way. -/
theorem confirmed_is_canonical_five_pounds :
    ∃ p₀ w history way s t, start Sample.withdrawal (.start ()) = (.ok p₀, w) ∧
      drive Sample.withdrawal ⟨p₀, w⟩ Sample.wavering = (history, s) ∧
      s.pending.stage = .confirmed ∧ s.pending.amount = Sample.pounds 5 ∧
      drive Sample.withdrawal ⟨p₀, w⟩ (direct (Sample.pounds 5)) = (way, t) ∧
      t.pending = s.pending := by
  have hstart : start Sample.withdrawal (.start ()) = (.ok _, _) := rfl
  obtain ⟨hcanonical, -⟩ := confirmed_is_canonical Sample.isBuiltIn_withdrawal hstart
    (run_drive _ ⟨_, (start Sample.withdrawal (.start ())).2⟩ Sample.wavering) (by decide +kernel)
  obtain ⟨-, hsame⟩ := hcanonical (start Sample.withdrawal (.start ())).2 _ _
    (run_drive _ _ (direct (Sample.pounds 5))) rfl
  exact ⟨_, _, _, _, _, _, hstart, rfl, by decide +kernel, by decide +kernel, rfl, hsame⟩

end Flow

end FiatRamp
