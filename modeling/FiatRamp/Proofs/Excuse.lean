import FiatRamp.Proofs.Frame
import FiatRamp.Proofs.Revalidation

/-!
# FiatRamp.Proofs.Excuse

When it is no fault to have entered nothing.

A transfer of nothing is not yet wrong while the user has validated nothing else
(`Route.assess_of_zero`).  The verdict of a flow remembers that: it stays blank
exactly as long as only zeros were validated (`Flow.History.blank_iff`), and nothing
but the updates and the validations that were accepted has a part in it
(`validatedAmounts_filter`).  `Flow.excuses_zero_until_validated` puts this together.
-/

namespace FiatRamp

/-! ## Amounts that were validated -/

/-- An update of the amount that was accepted, or a validation that came to a verdict. -/
def FlowEvent.counts (event : FlowEvent) : Bool := event.entered?.isSome || event.verdict?.isSome

/-- The amounts that were validated, in order, when `amount` was there at the start.  A
validation that fails does not count. -/
def validatedAmounts (amount : Money) : List FlowEvent → List Money
  | [] => []
  | event :: later =>
    let rest := validatedAmounts (event.entered?.getD amount) later
    if event.verdict?.isSome then amount :: rest else rest

/-- Nothing but zeros was validated, of whatever scale and currency. -/
def OnlyZeros (amount : Money) (history : List FlowEvent) : Prop :=
  ∀ validated ∈ validatedAmounts amount history, validated.worth = 0

instance (amount : Money) (history : List FlowEvent) : Decidable (OnlyZeros amount history) :=
  inferInstanceAs (Decidable (∀ validated ∈ validatedAmounts amount history, validated.worth = 0))

section

variable {amount : Money} {history : List FlowEvent} {event : FlowEvent}

theorem getD_lastAmount_cons (event : FlowEvent) (later : List FlowEvent) (amount : Money) :
    (lastAmount (event :: later)).getD amount =
      (lastAmount later).getD (event.entered?.getD amount) := by
  rw [← List.singleton_append, lastAmount_append]
  cases lastAmount later with
  | some => rfl
  | none => cases h : event.entered? <;> simp [lastAmount, h]

/-- A validation is one of the amount that is in place when it is made. -/
theorem validatedAmounts_concat :
    validatedAmounts amount (history ++ [event]) = validatedAmounts amount history ++
      if event.verdict?.isSome then [(lastAmount history).getD amount] else [] := by
  induction history generalizing amount with
  | nil => rfl
  | cons first later ih =>
      rw [List.cons_append, validatedAmounts, ih, getD_lastAmount_cons, validatedAmounts]
      cases first.verdict?.isSome <;> rfl

/-- What does not count leaves the amounts alone. -/
theorem validatedAmounts_filter :
    validatedAmounts amount (history.filter FlowEvent.counts) =
      validatedAmounts amount history := by
  induction history generalizing amount with
  | nil => rfl
  | cons event later ih =>
      cases hcounts : event.counts with
      | true => rw [List.filter_cons_of_pos hcounts, validatedAmounts, validatedAmounts, ih]
      | false =>
          rw [List.filter_cons_of_neg (by simp [hcounts]), validatedAmounts, ih]
          obtain ⟨hentered, hverdict⟩ := Bool.or_eq_false_iff.1 hcounts
          have hnone : event.entered? = none := by simpa using hentered
          rw [hverdict, hnone]
          rfl

theorem onlyZeros_concat_iff :
    OnlyZeros amount (history ++ [event]) ↔
      OnlyZeros amount history ∧
        (event.verdict? = none ∨ ((lastAmount history).getD amount).worth = 0) := by
  rw [OnlyZeros, validatedAmounts_concat, OnlyZeros]
  cases event.verdict? <;> simp [or_imp, forall_and]

end

/-! ## The verdict on a zero -/

namespace Route

variable {route : Route} {p : Pending} {verdict : Verdict}

/-- A validation comes to no verdict of its own exactly if nobody has touched the transfer. -/
theorem eq_uninitialised_iff (h : route.assess p = .ok verdict) :
    verdict = .uninitialised ↔ p.isUntouched = true := by
  constructor
  · rintro rfl
    by_contra htouched
    exact assess_ne_uninitialised (by simpa using htouched) h
  · intro huntouched
    rw [assess_of_isUntouched huntouched, (Pending.isUntouched_iff.1 huntouched).1] at h
    cases h
    rfl

/-- A zero is excused as long as the verdict is blank, and is invalid from then on. -/
theorem assess_of_zero (hknown : p.HasKnownLimits) (hzero : p.amount.worth = 0) :
    route.assess p =
      .ok (if p.verdict = .uninitialised then .uninitialised else .invalidAmount) := by
  by_cases hblank : p.verdict = .uninitialised
  · rw [assess_of_isUntouched (Pending.isUntouched_iff.2 ⟨hblank, hzero⟩), if_pos hblank, hblank]
  · have htouched : p.isUntouched = false := by
      rw [← Bool.not_eq_true, Pending.isUntouched_iff]
      exact fun huntouched => hblank huntouched.1
    have hamount : p.classifyAmount = .ok .invalidAmount :=
      Pending.classifyAmount_of_judges (.zero hknown.min hknown.max hzero)
    rw [if_neg hblank]
    exact assess_eq_ok_iff.2 (.inr ⟨htouched, .inl ⟨hamount, by simp⟩⟩)

end Route

namespace Flow

section

variable {ctx : EngineContext σ} {route : Route} {p₀ : Pending} {history : List FlowEvent}
  {s t : FlowState σ} {call : FlowCall} {answer : Except FlowError FlowAnswer}

/-- What is no validation keeps the verdict in step with the history if it leaves the
verdict blank or not blank as it was. -/
theorem blank_iff_concat {event : FlowEvent} {p q : Pending}
    (h : p.verdict = .uninitialised ↔ OnlyZeros p₀.amount history)
    (hevent : event.verdict? = none)
    (hverdict : q.verdict = .uninitialised ↔ p.verdict = .uninitialised) :
    q.verdict = .uninitialised ↔ OnlyZeros p₀.amount (history ++ [event]) := by
  rw [hverdict, h, onlyZeros_concat_iff, hevent]
  simp

/-- **Every call keeps the verdict blank exactly as long as only zeros were validated.** -/
theorem Ends.blank_iff (h : Ends ctx route s call answer t) (hs : Vetted route p₀ history s.pending)
    (hblank : s.pending.verdict = .uninitialised ↔ OnlyZeros p₀.amount history) :
    t.pending.verdict = .uninitialised ↔ OnlyZeros p₀.amount (history ++ [(call, answer)]) := by
  cases h with
  | refused | unassessed => exact blank_iff_concat hblank (by simp) Iff.rfl
  | amountUpdated | feeUpdated | confirmed => exact blank_iff_concat hblank rfl Iff.rfl
  | @validated verdict _ hassessed =>
      change verdict = .uninitialised ↔ _
      rw [Route.eq_uninitialised_iff hassessed, Pending.isUntouched_iff, hblank, hs.entered,
        onlyZeros_concat_iff]
      simp [FlowEvent.verdict?]
  | notExecutable hstage hassessed hstopped =>
      -- what was confirmed passes again
      rw [hs.assessed (by simp [hstage])] at hassessed
      cases hassessed
      exact (hstopped rfl).elim
  | notAccepted hstage | completed hstage | approved hstage | unfinished hstage =>
      have hpassed : s.pending.verdict = .canExecute := hs.verdict (by simp [hstage])
      refine blank_iff_concat hblank rfl ?_
      rw [hpassed]
      rfl

/-- Every run keeps the verdict in step with its history. -/
theorem Run.blank_iff (h : Run (route.engine ctx) s history t) (hs : Vetted route p₀ [] s.pending)
    (hblank : s.pending.verdict = .uninitialised) :
    t.pending.verdict = .uninitialised ↔ OnlyZeros p₀.amount history := by
  induction h with
  | refl => simp [hblank, OnlyZeros, validatedAmounts]
  | call hrun call ih => exact (ends_apply ctx route _ call).blank_iff (hrun.vetted hs) ih
  | meanwhile _ _ _ ih => exact ih

/-- **The verdict of a flow is blank exactly as long as only zeros were validated.** -/
theorem History.blank_iff {w₀ : World σ} (h : History (route.engine ctx) w₀ p₀ history s) :
    s.pending.verdict = .uninitialised ↔ OnlyZeros p₀.amount history := by
  obtain ⟨w₁, hstart, hrun⟩ := h
  obtain ⟨limits, fee, asked, -, hopened, -, -⟩ := opening_of_start hstart
  refine hrun.blank_iff (vetted_of_start hstart) ?_
  rw [hopened]
  cases route <;> rfl

end

/-! ## Zeros along a flow -/

/-- A call on a running flow that is not at one of its stages is refused, and nothing
happens. -/
theorem apply_of_not_mem_stages (e : Engine σ) {s : FlowState σ} {call : FlowCall}
    (hrunning : s.pending.stage.isTerminal = false) (houtside : s.pending.stage ∉ call.stages) :
    call.apply e s = (.error (.illegalTransition s.pending.stage call.operation), s) := by
  have hrun : ¬ s.pending.stage.isTerminal = true := by simp [hrunning]
  cases call <;>
    simp only [FlowCall.stages] at houtside <;>
    simp only [FlowCall.apply, FlowCall.step, FlowCall.operation, updateAmount, updateFeeLevel,
      validate, buildConfirmations, execute, prepare, run_bind, run_require, if_neg hrun,
      if_neg houtside]

/-- Neither a summary nor an execution has a place at the stage of the flow. -/
def Unsubmittable (e : Engine σ) (s : FlowState σ) : Prop :=
  ∀ call : FlowCall, call = .buildConfirmations ∨ (∃ cancel, call = .execute cancel) →
    call.apply e s = (.error (.illegalTransition s.pending.stage call.operation), s)

theorem unsubmittable_of_mem (e : Engine σ) {s : FlowState σ}
    (h : s.pending.stage ∈ beforeValidation) : Unsubmittable e s := by
  rintro call hcall
  simp only [beforeValidation, List.mem_cons, List.not_mem_nil, or_false] at h
  refine apply_of_not_mem_stages e ?_ ?_
  · rcases h with h | h <;> rw [h] <;> rfl
  · rcases hcall with rfl | ⟨cancel, rfl⟩ <;> rcases h with h | h <;> simp [h, FlowCall.stages]

/-- A validation of nothing comes to the verdict, and leads back to the entry of the
amount.  There is nothing to submit before it or after it. -/
structure JudgesZero (e : Engine σ) (s : FlowState σ) (verdict : Verdict) : Prop where
  answer : (FlowCall.validate.apply e s).1 = .ok (.verdict verdict)
  pending : (FlowCall.validate.apply e s).2.pending =
    { s.pending with verdict, stage := .amountEntry }
  before : Unsubmittable e s
  after : Unsubmittable e (FlowCall.validate.apply e s).2

section

variable {ctx : EngineContext σ} {route : Route} {p₀ : Pending} {history : List FlowEvent}
  {s : FlowState σ}

/-- A zero is found where an amount is entered, as it does not pass. -/
theorem Vetted.mem_beforeValidation (h : Vetted route p₀ history s.pending)
    (hlegal : s.pending.stage ∈ beforeSubmission) (hzero : s.pending.amount.worth = 0) :
    s.pending.stage ∈ beforeValidation := by
  have hunpassed : s.pending.stage ∉ [.validated, .confirmed] := by
    intro hstage
    have hpasses := (Route.assess_eq_canExecute_iff.1 (h.assessed hstage)).1
    exact (Limit.judges_canExecute_iff.1 (Pending.classifyAmount_eq_iff.1 hpasses)).1.nonzero hzero
  cases hstage : s.pending.stage <;> simp_all [beforeSubmission, beforeValidation]

theorem History.hasKnownLimits {w₀ : World σ}
    (h : History (route.engine ctx) w₀ p₀ history s) : s.pending.HasKnownLimits := by
  have hterms := h.sound.terms
  obtain ⟨w₁, hstart, -⟩ := h
  obtain ⟨limits, -, hmin, hmax, -⟩ := limits_of_start hstart
  exact known_of_terms ⟨hmin ▸ Limit.lower_ne_unknown, hmax ▸ Limit.upper_ne_unknown⟩ hterms

/-- A zero is judged by what was validated before. -/
theorem History.judgesZero {w₀ : World σ} (h : History (route.engine ctx) w₀ p₀ history s)
    (hlegal : s.pending.stage ∈ beforeSubmission) (hzero : s.pending.amount.worth = 0) :
    JudgesZero (route.engine ctx) s
      (if s.pending.verdict = .uninitialised then .uninitialised else .invalidAmount) := by
  have hassess := route.assess_of_zero h.hasKnownLimits hzero
  generalize hverdict : (if s.pending.verdict = .uninitialised then Verdict.uninitialised
    else .invalidAmount) = verdict at hassess ⊢
  have hstopped : verdict ≠ .canExecute := by
    rw [← hverdict]
    split <;> simp
  obtain ⟨hanswer, hpending⟩ := (ends_apply ctx route s .validate).of_validate hlegal hassess
  rw [if_neg hstopped] at hpending
  have hentered := h.vetted.mem_beforeValidation hlegal hzero
  refine ⟨hanswer, hpending, unsubmittable_of_mem _ hentered, unsubmittable_of_mem _ ?_⟩
  rw [hpending]
  simp [beforeValidation]

/-- Every flow of an engine starts with nothing of the same currency. -/
theorem amount_of_start {w w₁ : World σ} {p : Pending}
    (h : start (route.engine ctx) w = (.ok p, w₁)) : p.amount = .zero route.currency := by
  obtain ⟨limits, fee, asked, -, rfl, -, -⟩ := opening_of_start h
  cases route <;> rfl

end

/-- **A zero is excused only while nothing else was validated.**  Wherever a validation has
its place and the amount is zero, it comes to no verdict if only zeros were validated before,
and finds the amount invalid otherwise; either way nothing can be submitted, neither before
nor after it.  What was refused or failed, fees, summaries and executions make no
difference: flows with the same accepted amounts and validations are answered alike. -/
theorem excuses_zero_until_validated {ctx : EngineContext σ} {e : Engine σ}
    (builtIn : e.IsBuiltIn ctx) {w₀ : World σ} {p₀ : Pending} {history : List FlowEvent}
    {s : FlowState σ} (h : History e w₀ p₀ history s)
    (legal : s.pending.stage ∈ beforeSubmission) (zero : s.pending.amount.worth = 0) :
    (OnlyZeros p₀.amount history → JudgesZero e s .uninitialised) ∧
      (¬ OnlyZeros p₀.amount history → JudgesZero e s .invalidAmount) ∧
      ∀ w₁ p₁ other u, History e w₁ p₁ other u → u.pending.stage ∈ beforeSubmission →
        u.pending.amount.worth = 0 →
        other.filter FlowEvent.counts = history.filter FlowEvent.counts →
          (FlowCall.validate.apply e u).1 = (FlowCall.validate.apply e s).1 := by
  obtain ⟨route, rfl⟩ := h.exists_route builtIn
  have hjudges := h.judgesZero legal zero
  refine ⟨fun honly => ?_, fun hother => ?_, fun w₁ p₁ other u hu hlegal hzero hcounts => ?_⟩
  · rwa [if_pos (h.blank_iff.2 honly)] at hjudges
  · rwa [if_neg (mt h.blank_iff.1 hother)] at hjudges
  · have hstart : p₁.amount = p₀.amount := by
      obtain ⟨_, hstart, -⟩ := h
      obtain ⟨_, hstart', -⟩ := hu
      rw [amount_of_start hstart, amount_of_start hstart']
    have hsame : OnlyZeros p₁.amount other ↔ OnlyZeros p₀.amount history := by
      rw [OnlyZeros, OnlyZeros, hstart, ← validatedAmounts_filter, hcounts, validatedAmounts_filter]
    have hblank := (hu.blank_iff.trans hsame).trans h.blank_iff.symm
    rw [hjudges.answer, (hu.judgesZero hlegal hzero).answer, if_congr hblank rfl rfl]

end Flow

/-- No francs, to as many digits as there can be. -/
def Sample.nothing : Money :=
  ⟨{ Decimal.zero with scale := 28, scale_le := Nat.le_refl 28 }, ⟨"CHF", by decide⟩⟩

namespace Flow

/-- No francs are no fault at first, validated once or twice, but are after five pounds
were validated. -/
theorem excuses_zero_until_validated_francs :
    (∃ p₀ history s, History Sample.withdrawal (.start ()) p₀ history s ∧
        validatedAmounts p₀.amount history = [Sample.nothing] ∧
        s.pending.amount = Sample.nothing ∧ JudgesZero Sample.withdrawal s .uninitialised) ∧
      ∃ p₀ history s, History Sample.withdrawal (.start ()) p₀ history s ∧
        validatedAmounts p₀.amount history = [Sample.pounds 5] ∧
        s.pending.amount = Sample.nothing ∧ JudgesZero Sample.withdrawal s .invalidAmount := by
  have hstart : start Sample.withdrawal (.start ()) = (.ok _, _) := rfl
  constructor
  · have hhistory := history_drive hstart [.updateAmount Sample.nothing, .validate]
    refine ⟨_, _, _, hhistory, by decide +kernel, by decide +kernel, ?_⟩
    obtain ⟨hexcused, -, -⟩ := excuses_zero_until_validated Sample.isBuiltIn_withdrawal hhistory
      (by decide +kernel) (by decide +kernel)
    exact hexcused (by decide +kernel)
  · have hhistory := history_drive hstart
      [.updateAmount (Sample.pounds 5), .validate, .updateAmount Sample.nothing,
        .updateFeeLevel .none none]
    refine ⟨_, _, _, hhistory, by decide +kernel, by decide +kernel, ?_⟩
    obtain ⟨-, hinvalid, -⟩ := excuses_zero_until_validated Sample.isBuiltIn_withdrawal hhistory
      (by decide +kernel) (by decide +kernel)
    exact hinvalid (by decide +kernel)

end Flow

end FiatRamp
