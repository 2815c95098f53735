import FiatRamp.Proofs.Errors

/-!
# FiatRamp.Proofs.Crossing

Where the currency of a transfer changes on the way.

What a flow shows and submits is money of its source, which the limits see to.
A withdrawal has to go to an account of the same currency.  Nothing asks this of
a deposit, so a deposit may name a target of another currency, and it alone may
(`Registry.crosses_currencies_iff`, `Registry.crosses_currencies`).
-/

namespace FiatRamp

/-- Money is deposited from a bank into a fiat account of another currency. -/
def IsForeignDeposit (source target : Account) (action : TransferAction) : Prop :=
  ∃ bank fiat, source = .bank bank ∧ target = .fiat fiat ∧ action = .deposit ∧
    bank.currency ≠ fiat.currency

/-- A route leads to another currency if it is one of a foreign deposit. -/
theorem Route.currency_ne_iff (route : Route) :
    route.source.currency ≠ route.target.currency ↔
      IsForeignDeposit route.source route.target route.action := by
  cases route with
  | deposit bank fiat =>
      constructor
      · exact fun hforeign => ⟨bank, fiat, rfl, rfl, rfl, hforeign⟩
      · rintro ⟨_, _, hbank, hfiat, -, hforeign⟩
        cases hbank
        cases hfiat
        exact hforeign
  | withdrawal fiat bank agree =>
      constructor
      · exact fun hforeign => (hforeign agree).elim
      · rintro ⟨_, _, hbank, -⟩
        cases hbank

namespace Flow

/-! ## What a flow shows -/

/-- The lower limit of a transfer is one in the currency of its source. -/
def HasNativeMin (route : Route) (p : Pending) : Prop :=
  ∃ bound, p.minLimit = .limited bound ∧ bound.currency = route.currency

/-- An amount is shown only if it is money of the source. -/
def ShowsNative (route : Route) (p : Pending) : Prop :=
  p.confirmations ≠ [] → p.amount.currency = route.currency

section

variable {ctx : EngineContext σ} {route : Route} {p₀ : Pending} {history : List FlowEvent}
  {s t : FlowState σ} {call : FlowCall} {answer : Except FlowError FlowAnswer}

theorem HasNativeMin.of_terms {p q : Pending} (h : HasNativeMin route q)
    (hterms : terms p = terms q) : HasNativeMin route p := by
  obtain ⟨bound, hmin, hnative⟩ := h
  exact ⟨bound, (congrArg Terms.minLimit hterms).trans hmin, hnative⟩

/-- An amount that passes is money of the source. -/
theorem HasNativeMin.currency_of_assess {p : Pending} (h : HasNativeMin route p)
    (hpassed : route.assess p = .ok .canExecute) : p.amount.currency = route.currency := by
  obtain ⟨bound, hmin, hnative⟩ := h
  have hjudged := Pending.classifyAmount_eq_iff.1 (Route.assess_eq_canExecute_iff.1 hpassed).1
  obtain ⟨-, hreached, -⟩ := Limit.judges_canExecute_iff.1 hjudged
  exact (hreached bound hmin).1.trans hnative

theorem hasNativeMin_of_start (native : ctx.custodian.NamesNativeLimits) {w w₁ : World σ}
    {p : Pending} (h : start (route.engine ctx) w = (.ok p, w₁)) : HasNativeMin route p := by
  obtain ⟨limits, hreply, hmin, -⟩ := limits_of_start h
  exact ⟨limits.min, hmin, native.currency_min hreply⟩

/-- **Every call shows money of the source only.** -/
theorem Ends.showsNative (h : Ends ctx route s call answer t)
    (hs : Vetted route p₀ history s.pending) (hnative : HasNativeMin route s.pending)
    (hshows : ShowsNative route s.pending) : ShowsNative route t.pending := by
  cases h with
  | refused | unassessed | validated | notExecutable => exact hshows
  | amountUpdated | feeUpdated => exact fun hshown => (hshown rfl).elim
  | confirmed hlegal => exact fun _ => hnative.currency_of_assess (hs.assessed hlegal)
  | notAccepted | completed | approved | unfinished => exact hshows

/-- Every run shows money of the source only. -/
theorem Run.showsNative (h : Run (route.engine ctx) s history t)
    (hs : Vetted route p₀ [] s.pending) (hnative : HasNativeMin route p₀)
    (hshows : ShowsNative route s.pending) : ShowsNative route t.pending := by
  induction h with
  | refl => exact hshows
  | call hrun call ih =>
      have hvetted := hrun.vetted hs
      exact (ends_apply ctx route _ call).showsNative hvetted (hnative.of_terms hvetted.terms) ih
  | meanwhile _ _ _ ih => exact ih

/-- After every history a flow shows money of the source only. -/
theorem History.showsNative (native : ctx.custodian.NamesNativeLimits) {w₀ : World σ}
    (h : History (route.engine ctx) w₀ p₀ history s) : ShowsNative route s.pending := by
  obtain ⟨w₁, hstart, hrun⟩ := h
  refine hrun.showsNative (vetted_of_start hstart) (hasNativeMin_of_start native hstart) ?_
  obtain ⟨limits, fee, asked, -, rfl, -, -⟩ := opening_of_start hstart
  cases route <;> exact fun hshown => (hshown rfl).elim

/-- After every history a flow moves money of the source only. -/
theorem History.movesNative (native : ctx.custodian.NamesNativeLimits) {w₀ : World σ}
    (h : History (route.engine ctx) w₀ p₀ history s) (call : FlowCall) {submission : Submission}
    (hmoved : submission.request ∈ (call.apply (route.engine ctx) s).2.world.requests)
    (hnew : submission.request ∉ s.world.requests) :
    submission.amount.currency = route.currency := by
  have hterms := h.vetted.terms
  obtain ⟨w₁, hstart, -⟩ := h
  have hnative := (hasNativeMin_of_start native hstart).of_terms hterms
  obtain ⟨asked, hasked, hcases⟩ := (ends_apply ctx route s call).asked
  rw [hasked, List.mem_append] at hmoved
  have hmem := hmoved.resolve_left hnew
  obtain rfl | ⟨more, rfl, hquiet, -, -, hpassed, -⟩ := hcases
  · cases hmem
  · obtain rfl := Submission.eq_of_request_mem hquiet hmem
    rw [Route.amount_submission]
    exact hnative.currency_of_assess hpassed

end

end Flow

namespace Registry

/-- **Where currencies are crossed**: two accounts of different currencies are bound for a
foreign deposit and for nothing else.  What a flow shows and moves is money of the source,
and so it is money of the target unless the flow is a foreign deposit. -/
theorem crosses_currencies_iff {ctx : EngineContext σ}
    (native : ctx.custodian.NamesNativeLimits) (source target : Account)
    (action : TransferAction) :
    ((∃ e, (standard ctx).bind source target action = .ok e ∧
        e.source.currency ≠ e.target.currency) ↔ IsForeignDeposit source target action) ∧
    ∀ e, (standard ctx).bind source target action = .ok e →
      ∀ w₀ p₀ history s, Flow.History e w₀ p₀ history s →
        (s.pending.confirmations ≠ [] →
          s.pending.amount.currency = e.source.currency ∧
          (s.pending.amount.currency ≠ e.target.currency ↔
            IsForeignDeposit source target action)) ∧
        ∀ (call : FlowCall) (submission : Submission),
          submission.request ∈ (call.apply e s).2.world.requests →
          submission.request ∉ s.world.requests →
            submission.amount.currency = e.source.currency := by
  refine ⟨⟨?_, ?_⟩, ?_⟩
  · rintro ⟨e, hbound, hforeign⟩
    obtain ⟨route, rfl, rfl, rfl, rfl⟩ := Route.exists_of_bind hbound
    rw [Route.source_engine, Route.target_engine] at hforeign
    exact route.currency_ne_iff.1 hforeign
  · rintro ⟨bank, fiat, rfl, rfl, rfl, hforeign⟩
    exact ⟨.deposit ctx (.bank bank) (.fiat fiat), rfl, hforeign⟩
  · intro e hbound w₀ p₀ history s h
    obtain ⟨route, rfl, rfl, rfl, rfl⟩ := Route.exists_of_bind hbound
    rw [Route.source_engine, Route.target_engine]
    refine ⟨fun hshown => ?_, fun call submission => h.movesNative native call⟩
    have hcurrency : s.pending.amount.currency = route.source.currency :=
      h.showsNative native hshown
    rw [hcurrency]
    exact ⟨rfl, route.currency_ne_iff⟩

/-- Five pounds that are withdrawn to an account in pounds are pounds all the way. -/
theorem crosses_currencies_iff_five_pounds :
    ¬ IsForeignDeposit Sample.cash Sample.bank .withdraw ∧
      ∃ p₀ history s,
        Flow.History Sample.withdrawal (.start ()) p₀ history s ∧
          s.pending.confirmations ≠ [] ∧
          s.pending.amount.currency = Sample.withdrawal.source.currency ∧
          ¬ s.pending.amount.currency ≠ Sample.withdrawal.target.currency := by
  have hnative : (Sample.context Sample.obliging).custodian.NamesNativeLimits :=
    Sample.namesNativeLimits_obliging
  obtain ⟨-, hflow⟩ := crosses_currencies_iff hnative Sample.cash Sample.bank .withdraw
  have hbound : (standard (Sample.context Sample.obliging)).bind Sample.cash Sample.bank .withdraw =
      .ok Sample.withdrawal := rfl
  have hnot : ¬ IsForeignDeposit Sample.cash Sample.bank .withdraw := by
    rintro ⟨_, _, hsource, -⟩
    cases hsource
  have hstart : Flow.start Sample.withdrawal (.start ()) = (.ok _, _) := rfl
  have hhistory := Flow.history_drive hstart Sample.confirming
  obtain ⟨hshows, -⟩ := hflow _ hbound _ _ _ _ hhistory
  obtain ⟨hsource, htarget⟩ := hshows (by decide +kernel)
  exact ⟨hnot, _, _, _, hhistory, by decide +kernel, hsource, mt htarget.1 hnot⟩

end Registry

/-- A fiat account in dollars. -/
def Sample.dollars : Account :=
  let dollar : Currency := ⟨"USD", by decide⟩
  .fiat ⟨"Dollars", dollar, .zero dollar⟩

/-- **A foreign deposit**: five pounds are moved although the user confirmed an account in
dollars for them. -/
theorem Registry.crosses_currencies :
    ∃ e p₀ history s,
      (standard (Sample.context Sample.obliging)).bind Sample.bank Sample.dollars .deposit = .ok e ∧
        e.source.currency ≠ e.target.currency ∧
        Flow.History e (.start ()) p₀ history s ∧ s.pending.stage = .confirmed ∧
        .target "Dollars" .deposit ∈ s.pending.confirmations ∧
        .amount (Sample.pounds 5) true ∈ s.pending.confirmations ∧
        ∃ callback, .startTransfer "bank" (Sample.pounds 5) "GBP" callback ∈
          ((FlowCall.execute none).apply e s).2.world.requests := by
  have hbound : (standard (Sample.context Sample.obliging)).bind Sample.bank Sample.dollars
      .deposit = .ok (.deposit (Sample.context Sample.obliging) Sample.bank Sample.dollars) := rfl
  have hstart : Flow.start (.deposit (Sample.context Sample.obliging) Sample.bank Sample.dollars)
      (.start ()) = (.ok _, _) := rfl
  have hhistory := Flow.history_drive hstart Sample.confirming
  exact ⟨_, _, _, _, hbound, by decide, hhistory, by decide +kernel, by decide +kernel,
    by decide +kernel, some ⟨.yapily, .pay, "https://wallet.test/return"⟩, by decide +kernel⟩

end FiatRamp
