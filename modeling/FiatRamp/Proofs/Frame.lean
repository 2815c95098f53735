import FiatRamp.Proofs.Staleness

/-!
# FiatRamp.Proofs.Frame

What a flow leaves as it was.

To validate the amount of a transfer is to hold it against its limits by their
rule: it gives the transfer a verdict and leaves everything else alone
(`Engine.validates_by_limit_rule`).  Over a whole history a flow changes no more
than amount, verdict, summary and stage.  Everything else is what the engine
opened the transfer with, so the limits are known and no verdict says they are
not, and a summary is there only while it is that of the transfer as it stands
(`Flow.only_entries_change`).
-/

namespace FiatRamp

/-! ## Validating an amount -/

/-- Both engines hold the amount against the limits, once their accounts suit them. -/
theorem Engine.IsBuiltIn.run_validateAmount {ctx : EngineContext σ} {e : Engine σ}
    (h : e.IsBuiltIn ctx) (p : Pending) (w : World σ) :
    (e.validateAmount p).run.run w =
      match e.checkAccounts with
      | .error cause => (.error cause, w)
      | .ok () => (Engine.classifyAmount e.name p).run.run w := by
  cases hcheck : e.checkAccounts with
  | error cause =>
      rw [validateAmount, run_assertAccounts_bind, hcheck]
  | ok =>
      obtain ⟨route, rfl⟩ := h.exists_route hcheck
      rw [Route.run_validateAmount, Route.name_engine]

namespace Pending

variable {p : Pending}

theorem isUntouched_iff :
    p.isUntouched = true ↔ p.verdict = .uninitialised ∧ p.amount.worth = 0 := by
  simp [isUntouched, Money.isZero_iff]

/-- Limits of the currency of the amount, as far as they are limits. -/
structure HasNativeLimits (p : Pending) : Prop where
  min : ∀ bound, p.minLimit = .limited bound → p.amount.currency = bound.currency
  max : ∀ bound, p.maxLimit = .limited bound → p.amount.currency = bound.currency

/-- Within one currency exactly those amounts pass that are not zero and lie between the
limits, which are inclusive. -/
theorem HasNativeLimits.classifyAmount_eq_canExecute_iff (h : p.HasNativeLimits) :
    p.classifyAmount = .ok .canExecute ↔
      (p.minLimit ≠ .unknown ∧ p.maxLimit ≠ .unknown) ∧ p.amount.worth ≠ 0 ∧
        (∀ bound, p.minLimit = .limited bound → bound.worth ≤ p.amount.worth) ∧
        ∀ bound, p.maxLimit = .limited bound → p.amount.worth ≤ bound.worth := by
  rw [classifyAmount_eq_iff, Limit.judges_canExecute_iff]
  constructor
  · rintro ⟨hweighs, hreached, hobserved⟩
    exact ⟨⟨hweighs.min_known, hweighs.max_known⟩, hweighs.nonzero,
      fun bound hbound => (hreached bound hbound).2, fun bound hbound => (hobserved bound hbound).2⟩
  · rintro ⟨⟨hmin, hmax⟩, hnonzero, hreached, hobserved⟩
    exact ⟨⟨hmin, hmax, hnonzero⟩, fun bound hbound => ⟨h.min bound hbound, hreached bound hbound⟩,
      fun bound hbound => ⟨h.max bound hbound, hobserved bound hbound⟩⟩

end Pending

/-- **An amount is validated by the rule of limits**: classification comes to what the
rule says and to nothing else, whatever scales, currencies and limits meet.  So within one
currency those amounts pass that are not zero and lie between the limits, and of two
limits that are both broken the lower one is named.  To validate the amount changes
nothing but the verdict, and spares exactly a zero that was never validated. -/
theorem Engine.validates_by_limit_rule {ctx : EngineContext σ} {e : Engine σ}
    (builtIn : e.IsBuiltIn ctx) (p : Pending) (w : World σ) :
    (∀ outcome, p.classifyAmount = outcome ↔
      Limit.Judges p.amount p.minLimit p.maxLimit outcome) ∧
    (p.HasNativeLimits → (p.classifyAmount = .ok .canExecute ↔
      (p.minLimit ≠ .unknown ∧ p.maxLimit ≠ .unknown) ∧ p.amount.worth ≠ 0 ∧
        (∀ bound, p.minLimit = .limited bound → bound.worth ≤ p.amount.worth) ∧
        ∀ bound, p.maxLimit = .limited bound → p.amount.worth ≤ bound.worth)) ∧
    (∀ min max, p.minLimit = .limited min → p.maxLimit = .limited max → p.HasNativeLimits →
      p.amount.worth ≠ 0 → p.amount.worth < min.worth → max.worth < p.amount.worth →
      p.classifyAmount = .ok .underMinLimit) ∧
    (e.validateAmount p).run.run w =
      match e.checkAccounts with
      | .error cause => (.error cause, w)
      | .ok () =>
        if p.verdict = .uninitialised ∧ p.amount.worth = 0 then (.ok p, w)
        else
          match p.classifyAmount with
          | .ok verdict => (.ok { p with verdict }, w.record (.validation e.name verdict))
          | .error cause => (.error (.money cause), w) := by
  refine ⟨fun _ => Pending.classifyAmount_eq_iff,
    Pending.HasNativeLimits.classifyAmount_eq_canExecute_iff, ?_, ?_⟩
  · intro min max hmin hmax hnative hnonzero hless hmore
    have hweighs : Limit.Weighs p.amount p.minLimit p.maxLimit :=
      ⟨by simp [hmin], by simp [hmax], hnonzero⟩
    exact Pending.classifyAmount_of_judges (.below hweighs hmin (hnative.min min hmin) hless)
  · rw [builtIn.run_validateAmount]
    cases e.checkAccounts with
    | error => rfl
    | ok =>
        dsimp only
        rw [Route.run_classifyAmount]
        by_cases huntouched : p.isUntouched = true
        · rw [if_pos huntouched, if_pos (Pending.isUntouched_iff.1 huntouched)]
        · rw [if_neg huntouched, if_neg (mt Pending.isUntouched_iff.2 huntouched)]
          cases p.classifyAmount <;> rfl

/-- Five pounds between a least amount of ten and a greatest of one, at another scale. -/
def Sample.squeezed : Pending :=
  { Pending.zeroed Sample.sterling Sample.sterling with
    amount := ⟨⟨500, 2, by decide, by decide⟩, Sample.sterling⟩
    minLimit := .limited (Sample.pounds 10)
    maxLimit := .limited (Sample.pounds 1) }

/-- Of limits that leave no room the lower one is named. -/
theorem Engine.validates_by_limit_rule_squeezed :
    Sample.squeezed.HasNativeLimits ∧ Sample.squeezed.amount.worth < (Sample.pounds 10).worth ∧
      (Sample.pounds 1).worth < Sample.squeezed.amount.worth ∧
      ∀ w, (Sample.withdrawal.validateAmount Sample.squeezed).run.run w =
        (.ok { Sample.squeezed with verdict := .underMinLimit },
          w.record (.validation Withdrawal.engineName .underMinLimit)) := by
  have hnative : Sample.squeezed.HasNativeLimits :=
    ⟨fun bound hbound => by cases hbound; rfl, fun bound hbound => by cases hbound; rfl⟩
  have hless : Sample.squeezed.amount.worth < (Sample.pounds 10).worth := by decide +kernel
  have hmore : (Sample.pounds 1).worth < Sample.squeezed.amount.worth := by decide +kernel
  have hnonzero : Sample.squeezed.amount.worth ≠ 0 := by decide +kernel
  refine ⟨hnative, hless, hmore, fun w => ?_⟩
  obtain ⟨-, -, hbelow, hrun⟩ :=
    validates_by_limit_rule Sample.isBuiltIn_withdrawal Sample.squeezed w
  have hsuits : Sample.withdrawal.checkAccounts = .ok () := rfl
  rw [hrun, hbelow _ _ rfl rfl hnative hnonzero hless hmore, hsuits]
  dsimp only
  rw [if_neg fun huntouched => hnonzero huntouched.2]
  rfl

/-! ## The verdicts of a route -/

/-- Both limits of a transfer were fetched. -/
structure Pending.HasKnownLimits (p : Pending) : Prop where
  min : p.minLimit ≠ .unknown
  max : p.maxLimit ≠ .unknown

namespace Route

/-- A verdict a flow on the route may come to: its limits are known, and nothing is taken
from a balance by a deposit. -/
structure MayJudge (route : Route) (verdict : Verdict) : Prop where
  ne_unknownError : verdict ≠ .unknownError
  ne_insufficientFunds : route.action = .deposit → verdict ≠ .insufficientFunds

variable {route : Route} {p : Pending} {verdict : Verdict}

/-- With known limits the verdict on an amount is none on a balance, nor that it could not
be checked. -/
theorem mayJudge_of_classifyAmount (hknown : p.HasKnownLimits)
    (h : p.classifyAmount = .ok verdict) : route.MayJudge verdict := by
  cases Pending.classifyAmount_eq_iff.1 h with
  | unknown hmissing => exact (hmissing.elim hknown.min hknown.max).elim
  | zero | below | above | passes => constructor <;> simp

/-- With known limits a validation comes to a verdict of the route. -/
theorem mayJudge_of_assess (hknown : p.HasKnownLimits) (h : route.assess p = .ok verdict) :
    route.MayJudge verdict := by
  rcases assess_eq_ok_iff.1 h with
    ⟨huntouched, rfl⟩ | ⟨-, ⟨hamount, -⟩ | ⟨hwithdraw, -, hbalance⟩⟩
  · rw [(Pending.isUntouched_iff.1 huntouched).1]
    constructor <;> simp
  · exact mayJudge_of_classifyAmount hknown hamount
  · rcases classifyBalance_eq_ok p hbalance with rfl | rfl <;> constructor <;> simp [hwithdraw]

end Route

namespace Flow

/-! ## Along a flow -/

/-- What stays true of a transfer whose limits are known. -/
structure Tidy (route : Route) (p : Pending) : Prop where
  judged : route.MayJudge p.verdict
  /-- A summary is there only while it is that of the transfer as it stands. -/
  shown : p.confirmations ≠ [] →
    route.summary p = .ok p.confirmations ∧
      (p.stage ∈ [.validated, .confirmed] ∨ p.stage.isTerminal = true)

section

variable {ctx : EngineContext σ} {route : Route} {p₀ : Pending} {history : List FlowEvent}
  {s t : FlowState σ} {call : FlowCall} {answer : Except FlowError FlowAnswer}

theorem known_of_terms {p q : Pending} (h : q.HasKnownLimits) (hterms : terms p = terms q) :
    p.HasKnownLimits := by
  have hmin : p.minLimit = q.minLimit := congrArg Terms.minLimit hterms
  have hmax : p.maxLimit = q.maxLimit := congrArg Terms.maxLimit hterms
  exact ⟨hmin ▸ h.min, hmax ▸ h.max⟩

/-- **Every call keeps the pending transfer tidy.** -/
theorem Ends.tidy (h : Ends ctx route s call answer t) (hs : Vetted route p₀ history s.pending)
    (hknown : s.pending.HasKnownLimits) (htidy : Tidy route s.pending) : Tidy route t.pending := by
  cases h with
  | refused | unassessed => exact htidy
  | amountUpdated | feeUpdated => exact ⟨htidy.judged, by simp [FlowState.enter]⟩
  | @validated verdict hlegal hassessed =>
      refine ⟨Route.mayJudge_of_assess hknown hassessed, fun hshown => ?_⟩
      obtain ⟨hsummary, hstage⟩ := htidy.shown hshown
      have hstages : s.pending.stage ∈ FlowCall.validate.stages := hlegal
      have hvalidated := hstage.resolve_right (by simp [isTerminal_of_mem_stages hstages])
      -- a validation does not drop the summary, but one that fails never meets any
      have hpassed := hs.assessed hvalidated
      rw [hassessed] at hpassed
      cases hpassed
      exact ⟨(summary_congr rfl rfl).trans hsummary, .inl (by simp [FlowState.enter])⟩
  | confirmed _ hsummed =>
      exact ⟨htidy.judged,
        fun _ => ⟨(summary_congr rfl rfl).trans hsummed, .inl (by simp [FlowState.enter])⟩⟩
  | notExecutable hlegal hassessed hstopped =>
      have hpassed := hs.assessed (by simp [hlegal])
      rw [hassessed] at hpassed
      cases hpassed
      exact (hstopped rfl).elim
  | notAccepted _ hpassed | completed _ hpassed | approved _ hpassed | unfinished _ hpassed =>
      exact ⟨Route.mayJudge_of_assess hknown hpassed,
        fun hshown => ⟨(summary_congr rfl rfl).trans (htidy.shown hshown).1, .inr rfl⟩⟩

/-- Every run keeps the pending transfer tidy. -/
theorem Run.tidy (h : Run (route.engine ctx) s history t) (hs : Vetted route p₀ [] s.pending)
    (hknown : p₀.HasKnownLimits) (htidy : Tidy route s.pending) : Tidy route t.pending := by
  induction h with
  | refl => exact htidy
  | call hrun call ih =>
      have hvetted := hrun.vetted hs
      exact (ends_apply ctx route _ call).tidy hvetted (known_of_terms hknown hvetted.terms) ih
  | meanwhile _ _ _ ih => exact ih

/-- A flow starts with what its engine opens. -/
theorem initialise_of_start {e : Engine σ} {w w₁ : World σ} {p : Pending}
    (h : start e w = (.ok p, w₁)) :
    ∃ opened after, e.initialise.run.run w = (.ok opened, after) ∧
      p = { opened with stage := .amountEntry } := by
  unfold start at h
  split at h
  · next opened after hrun =>
      cases h
      exact ⟨opened, after, hrun, rfl⟩
  · cases h

/-- After every history the limits are known and the pending transfer is tidy. -/
theorem History.tidy {w₀ : World σ} (h : History (route.engine ctx) w₀ p₀ history s) :
    s.pending.HasKnownLimits ∧ Tidy route s.pending := by
  have hterms := h.vetted.terms
  obtain ⟨w₁, hstart, hrun⟩ := h
  obtain ⟨limits, -, hmin, hmax, -⟩ := limits_of_start hstart
  have hknown : p₀.HasKnownLimits :=
    ⟨hmin ▸ Limit.lower_ne_unknown, hmax ▸ Limit.upper_ne_unknown⟩
  -- at the start nothing was validated, and there is no summary
  have htidy : Tidy route p₀ := by
    obtain ⟨limits, fee, asked, -, rfl, -, -⟩ := opening_of_start hstart
    cases route <;> exact ⟨⟨nofun, nofun⟩, fun hshown => (hshown rfl).elim⟩
  exact ⟨known_of_terms hknown hterms, hrun.tidy (vetted_of_start hstart) hknown htidy⟩

/-- Transfers on the same terms with the same fees differ in nothing but their entries. -/
theorem eq_of_terms {p q : Pending} (hterms : terms p = terms q)
    (hfees : p.feeSelection = q.feeSelection) :
    p = { q with
      amount := p.amount, verdict := p.verdict, confirmations := p.confirmations,
      stage := p.stage } := by
  cases p
  cases q
  simp_all [terms]

end

/-- What a flow leaves of the transfer its engine opened it with. -/
structure Frames (e : Engine σ) (opened p : Pending) : Prop where
  /-- Nothing but amount, verdict, summary and stage is other than it was. -/
  same : p = { opened with
    amount := p.amount, verdict := p.verdict, confirmations := p.confirmations, stage := p.stage }
  /-- There is one level of fees, and no custom amount beside it. -/
  feeSelection : p.feeSelection = { selected := .none, available := [.none], customAmount := none }
  nonnegative : 0 ≤ p.amount.worth
  min_known : p.minLimit ≠ .unknown
  max_known : p.maxLimit ≠ .unknown
  ne_unknownError : p.verdict ≠ .unknownError
  ne_insufficientFunds : e.name = Deposit.engineName → p.verdict ≠ .insufficientFunds
  /-- To build the summary once more changes nothing. -/
  rebuilt : p.confirmations ≠ [] → ∀ w : World σ, (e.buildConfirmations p).run.run w = (.ok p, w)
  shown : p.confirmations ≠ [] →
    p.stage ∈ [.validated, .confirmed] ∨ p.stage.isTerminal = true

/-- **Only the entries change**: after every history the transfer is what the engine opened
it with but for its amount, which is never negative, its verdict, its summary and its
stage, whatever fee level was asked for.  The limits are known, so no verdict says that
they are not, and no deposit lacks funds.  A summary is the one the engine builds for the
transfer as it stands, and there is none before the transfer was validated. -/
theorem only_entries_change {ctx : EngineContext σ} {e : Engine σ} (builtIn : e.IsBuiltIn ctx)
    {w₀ : World σ} {p₀ : Pending} {history : List FlowEvent} {s : FlowState σ}
    (h : History e w₀ p₀ history s) :
    ∃ opened after, e.initialise.run.run w₀ = (.ok opened, after) ∧
      Frames e opened s.pending := by
  obtain ⟨route, rfl⟩ := h.exists_route builtIn
  have hvetted := h.vetted
  obtain ⟨hknown, htidy⟩ := h.tidy
  obtain ⟨w₁, hstart, -⟩ := h
  have hfees := (vetted_of_start hstart).feeSelection
  obtain ⟨opened, after, hinitialise, rfl⟩ := initialise_of_start hstart
  refine ⟨opened, after, hinitialise, ?_⟩
  constructor
  · exact eq_of_terms hvetted.terms (hvetted.feeSelection.trans hfees.symm)
  · exact hvetted.feeSelection
  · rw [← not_lt, ← Money.isNegative_iff, hvetted.nonnegative]
    simp
  · exact hknown.min
  · exact hknown.max
  · exact htidy.judged.ne_unknownError
  · intro hname
    refine htidy.judged.ne_insufficientFunds ?_
    cases route with
    | deposit => rfl
    | withdrawal => simp [Route.name, Withdrawal.engineName, Deposit.engineName] at hname
  · intro hshown w
    rw [Route.run_buildConfirmations, (htidy.shown hshown).1]
    rfl
  · exact fun hshown => (htidy.shown hshown).2

/-- A custom fee changes nothing where there is none to choose, and five pounds stay
confirmed. -/
theorem only_entries_change_five_pounds :
    ∃ p₀ history s opened after,
      History Sample.withdrawal (.start ()) p₀ history s ∧
        Sample.withdrawal.initialise.run.run (.start ()) = (.ok opened, after) ∧
        s.pending.amount ≠ opened.amount ∧ s.pending.confirmations ≠ [] ∧
        s.pending.stage = .confirmed ∧ Frames Sample.withdrawal opened s.pending := by
  have hstart : start Sample.withdrawal (.start ()) = (.ok _, _) := rfl
  have hhistory := history_drive hstart
    (.updateFeeLevel .none (some 3) :: Sample.confirming ++ [.updateFeeLevel .custom (some 3)])
  obtain ⟨opened, after, hinitialise, hframes⟩ :=
    only_entries_change Sample.isBuiltIn_withdrawal hhistory
  have hopened : opened.amount = Money.zero Sample.sterling := by
    cases hinitialise
    rfl
  exact ⟨_, _, _, opened, after, hhistory, hinitialise, by rw [hopened]; decide +kernel,
    by decide +kernel, by decide +kernel, hframes⟩

end Flow

end FiatRamp
