import FiatRamp.Proofs.Call
import FiatRamp.Proofs.FollowUp

/-!
# FiatRamp.Proofs.History

Histories of a flow: the calls made on it since its start, in order, and how
each was answered.

Between two calls the custodian may change in any way and time may pass.  What
every call keeps holds after every history: `Flow.Sound` ties the pending
transfer to its start and to the amount entered last
(`Flow.History.sound`), and nothing is submitted before a flow has ended
(`Flow.History.spent`).
-/

namespace FiatRamp

/-- A call and its answer. -/
abbrev FlowEvent := FlowCall × Except FlowError FlowAnswer

/-- The amount an event put in place. -/
def FlowEvent.entered? : FlowEvent → Option Money
  | (.updateAmount amount, .ok _) => some amount
  | _ => none

/-- The amount of the last update that was accepted. -/
def lastAmount (history : List FlowEvent) : Option Money :=
  (history.filterMap FlowEvent.entered?).getLast?

theorem lastAmount_concat (history : List FlowEvent) (event : FlowEvent) :
    lastAmount (history ++ [event]) = event.entered?.or (lastAmount history) := by
  cases h : event.entered? <;> simp [lastAmount, h]

@[simp] theorem FlowEvent.entered?_error (call : FlowCall) (error : FlowError) :
    FlowEvent.entered? (call, .error error) = none := by
  cases call <;> rfl

namespace Flow

/-! ## Histories -/

/-- How a flow gets from one state to another, and the calls on the way. -/
inductive Run (e : Engine σ) (s : FlowState σ) : List FlowEvent → FlowState σ → Prop where
  | refl : Run e s [] s
  | call {history : List FlowEvent} {t : FlowState σ} (run : Run e s history t)
      (call : FlowCall) :
      Run e s (history ++ [(call, (call.apply e t).1)]) (call.apply e t).2
  /-- Between two calls time passes, and the custodian changes as it likes. -/
  | meanwhile {history : List FlowEvent} {t : FlowState σ} (run : Run e s history t)
      (backend : σ) {now : Duration} (later : t.world.now ≤ now) :
      Run e s history { t with world := { t.world with backend, now } }

/-- Runs follow on one another. -/
theorem Run.trans {e : Engine σ} {s t u : FlowState σ} {history later : List FlowEvent}
    (h : Run e s history t) (hlater : Run e t later u) : Run e s (history ++ later) u := by
  induction hlater with
  | refl =>
      rw [List.append_nil]
      exact h
  | call _ call ih =>
      rw [← List.append_assoc]
      exact ih.call call
  | meanwhile _ backend later ih => exact ih.meanwhile backend later

/-- Makes calls one after the other, with nothing in between. -/
def drive (e : Engine σ) (s : FlowState σ) : List FlowCall → List FlowEvent × FlowState σ
  | [] => ([], s)
  | call :: calls =>
    let (answer, t) := call.apply e s
    let (later, u) := drive e t calls
    ((call, answer) :: later, u)

theorem run_drive (e : Engine σ) (s : FlowState σ) (calls : List FlowCall) :
    Run e s (drive e s calls).1 (drive e s calls).2 := by
  induction calls generalizing s with
  | nil => exact .refl
  | cons call calls ih => exact (Run.refl.call call).trans (ih (call.apply e s).2)

/-- A flow was started, and this is its history since. -/
def History (e : Engine σ) (w₀ : World σ) (p₀ : Pending) (history : List FlowEvent)
    (s : FlowState σ) : Prop :=
  ∃ w₁, start e w₀ = (.ok p₀, w₁) ∧ Run e ⟨p₀, w₁⟩ history s

theorem history_drive {e : Engine σ} {w₀ w₁ : World σ} {p₀ : Pending}
    (h : start e w₀ = (.ok p₀, w₁)) (calls : List FlowCall) :
    History e w₀ p₀ (drive e ⟨p₀, w₁⟩ calls).1 (drive e ⟨p₀, w₁⟩ calls).2 :=
  ⟨w₁, h, run_drive e _ calls⟩

/-! ## Starting -/

/-- Only accounts that suit the engine come to a start. -/
theorem checkAccounts_of_start {e : Engine σ} {w w₁ : World σ} {p : Pending}
    (h : start e w = (.ok p, w₁)) : e.checkAccounts = .ok () := by
  unfold start at h
  rw [Engine.initialise, Engine.run_assertAccounts_bind] at h
  cases hcheck : e.checkAccounts with
  | ok => rfl
  | error cause =>
      rw [hcheck] at h
      cases h

/-- A flow starts with what its engine opens, at the entry of the amount, and has
asked for nothing but limits and fees. -/
theorem opening_of_start {ctx : EngineContext σ} {route : Route} {w w₁ : World σ} {p : Pending}
    (h : start (route.engine ctx) w = (.ok p, w₁)) :
    ∃ limits fee asked,
      ctx.custodian.reply ctx.deadlines (.limits route.currency route.fromBank) w.backend =
        .ok limits ∧
      p = { route.opening ctx.userFiat limits fee with stage := .amountEntry } ∧
      w₁.requests = w.requests ++ asked ∧ (∀ request ∈ asked, request.isAboutTerms = true) ∧
      w₁.metrics = w.metrics ++ [.stage route.name .amountEntry] := by
  unfold start at h
  split at h
  · next opened after hrun =>
      obtain ⟨limits, fee, asked, hlimits, hopened, hrequests, hasked, hmetrics⟩ :=
        Route.opening_of_initialise ctx route hrun
      cases h
      refine ⟨limits, fee, asked, hlimits, by rw [hopened], hrequests, hasked, ?_⟩
      rw [World.metrics_record, hmetrics, Route.name_engine]
  · cases h

/-- A flow starts with nothing to move, within the limits the custodian names. -/
theorem limits_of_start {ctx : EngineContext σ} {route : Route} {w w₁ : World σ} {p : Pending}
    (h : start (route.engine ctx) w = (.ok p, w₁)) :
    ∃ limits,
      ctx.custodian.reply ctx.deadlines (.limits route.currency route.fromBank) w.backend =
        .ok limits ∧
      p.minLimit = .lower limits ∧ p.maxLimit = .upper limits ∧ p.amount.isZero = true := by
  obtain ⟨limits, fee, asked, hlimits, rfl, -, -⟩ := opening_of_start h
  refine ⟨limits, hlimits, ?_⟩
  cases route <;> exact ⟨rfl, rfl, rfl⟩

/-! ## What a flow never changes -/

/-- The terms of a transfer: what there is, what it costs and its limits. -/
structure Terms where
  totalBalance : Money
  availableBalance : Money
  feeForFullAvailable : Money
  feeAmount : Money
  selectedFiat : Currency
  minLimit : Limit
  maxLimit : Limit

/-- The terms of a pending transfer. -/
def terms (p : Pending) : Terms where
  totalBalance := p.totalBalance
  availableBalance := p.availableBalance
  feeForFullAvailable := p.feeForFullAvailable
  feeAmount := p.feeAmount
  selectedFiat := p.selectedFiat
  minLimit := p.minLimit
  maxLimit := p.maxLimit

/-- What is true of the pending transfer between two calls. -/
structure Sound (route : Route) (p₀ : Pending) (history : List FlowEvent) (p : Pending) :
    Prop where
  /-- Its terms are those of the start. -/
  terms : terms p = Flow.terms p₀
  /-- Its amount is the one entered last. -/
  entered : p.amount = (lastAmount history).getD p₀.amount
  nonnegative : p.amount.isNegative = false
  /-- No call leaves the flow in the middle of an execution. -/
  settled : p.stage ≠ .executing
  /-- What was confirmed is the summary of what would be submitted. -/
  summarised : p.stage = .confirmed → route.summary p = .ok p.confirmations

section

variable {ctx : EngineContext σ} {route : Route} {p₀ : Pending} {history : List FlowEvent}
  {s t : FlowState σ} {call : FlowCall} {answer : Except FlowError FlowAnswer}

theorem sound_opening (limits : TransferLimits) (fee : Money) (userFiat : Currency) :
    Sound route { route.opening userFiat limits fee with stage := .amountEntry } []
      { route.opening userFiat limits fee with stage := .amountEntry } where
  terms := rfl
  entered := rfl
  nonnegative := by cases route <;> rfl
  settled := by simp
  summarised := by simp

/-- Another stage than those of a confirmation and an execution is sound wherever
the amount is. -/
theorem Sound.at_stage {p : Pending} {event : FlowEvent} (h : Sound route p₀ history s.pending)
    (hevent : event.entered? = none) (hterms : Flow.terms p = Flow.terms s.pending)
    (hamount : p.amount = s.pending.amount) (hexecuting : p.stage ≠ .executing)
    (hconfirmed : p.stage ≠ .confirmed) : Sound route p₀ (history ++ [event]) p where
  terms := hterms.trans h.terms
  entered := by rw [hamount, lastAmount_concat, hevent, Option.none_or, h.entered]
  nonnegative := by rw [hamount, h.nonnegative]
  settled := hexecuting
  summarised := fun hstage => (hconfirmed hstage).elim

/-- **Every call keeps the pending transfer sound.** -/
theorem Ends.sound (h : Ends ctx route s call answer t) (hs : Sound route p₀ history s.pending) :
    Sound route p₀ (history ++ [(call, answer)]) t.pending := by
  cases h with
  | refused =>
      refine ⟨hs.terms, ?_, hs.nonnegative, hs.settled, hs.summarised⟩
      rw [lastAmount_concat, FlowEvent.entered?_error, Option.none_or, hs.entered]
  | unassessed =>
      refine ⟨hs.terms, ?_, hs.nonnegative, hs.settled, hs.summarised⟩
      rw [lastAmount_concat, FlowEvent.entered?_error, Option.none_or]
      exact hs.entered
  | amountUpdated _ hnonnegative =>
      refine ⟨hs.terms, ?_, hnonnegative, ?_, ?_⟩
      · rw [lastAmount_concat]
        rfl
      · simp [FlowState.enter]
      · simp [FlowState.enter]
  | feeUpdated => exact hs.at_stage rfl rfl rfl (by simp [FlowState.enter]) (by simp [FlowState.enter])
  | validated =>
      refine hs.at_stage rfl rfl rfl ?_ ?_
      · simp only [FlowState.enter]
        split <;> simp
      · simp only [FlowState.enter]
        split <;> simp
  | confirmed _ hsummed =>
      refine ⟨hs.terms, ?_, hs.nonnegative, by simp [FlowState.enter], fun _ => ?_⟩
      · rw [lastAmount_concat]
        exact hs.entered
      · cases route <;> exact hsummed
  | notExecutable =>
      exact hs.at_stage rfl rfl rfl (by simp [FlowState.enter]) (by simp [FlowState.enter])
  | notAccepted | completed | approved | unfinished =>
      exact hs.at_stage rfl rfl rfl (by simp [FlowState.ended, FlowState.enter])
        (by simp [FlowState.ended, FlowState.enter])

/-- Every run keeps the pending transfer sound. -/
theorem Run.sound (h : Run (route.engine ctx) s history t) (hs : Sound route p₀ [] s.pending) :
    Sound route p₀ history t.pending := by
  induction h with
  | refl => exact hs
  | call _ call ih => exact (ends_apply ctx route _ call).sound ih
  | meanwhile _ _ _ ih => exact ih

/-! ## What the custodian is asked -/

/-- After a submission that was accepted nothing else is submitted. -/
theorem requests_followed (ctx : EngineContext σ) (route : Route) (s : FlowState σ) (id : String)
    (cancel : Option Duration) :
    ∃ more, (s.followed ctx route id cancel).2.requests =
      s.world.requests ++ (route.submission ctx s.pending).request :: more ∧
        ∀ request ∈ more, request.isSubmission = false := by
  have hsubmitted : (s.submitted ctx route).requests =
      s.world.requests ++ [(route.submission ctx s.pending).request] := rfl
  obtain ⟨more, hmore, hquiet⟩ :=
    Route.requests_followUp ctx route id cancel (s.submitted ctx route)
  refine ⟨more, ?_, hquiet⟩
  rw [FlowState.followed, hmore, hsubmitted, List.append_assoc, List.singleton_append]

/-- **The requests of a call**: none, or, for an execution, the submission, which
ends the flow, and after it requests that move no money. -/
theorem Ends.asked (h : Ends ctx route s call answer t) :
    ∃ asked, t.world.requests = s.world.requests ++ asked ∧
      (asked = [] ∨
        ∃ more, asked = (route.submission ctx s.pending).request :: more ∧
          (∀ request ∈ more, request.isSubmission = false) ∧ (∃ cancel, call = .execute cancel) ∧
          s.pending.stage = .confirmed ∧ route.assess s.pending = .ok .canExecute ∧
          t.pending.stage.isTerminal = true) := by
  cases h with
  | refused | unassessed | amountUpdated | feeUpdated | validated | confirmed | notExecutable =>
      exact ⟨[], by simp [FlowState.enter, FlowState.counting, FlowState.judged], .inl rfl⟩
  | notAccepted hlegal hpassed =>
      exact ⟨[_], rfl, .inr ⟨[], rfl, by simp, ⟨_, rfl⟩, hlegal, hpassed, rfl⟩⟩
  | completed hlegal hpassed | approved hlegal hpassed | unfinished hlegal hpassed =>
      obtain ⟨more, hmore, hquiet⟩ := requests_followed ctx route s _ _
      exact ⟨_, hmore, .inr ⟨more, rfl, hquiet, ⟨_, rfl⟩, hlegal, hpassed, rfl⟩⟩

/-- Since `w₀` money was asked to be moved at most once, and not at all before the
flow has ended. -/
def Spent (w₀ : World σ) (s : FlowState σ) : Prop :=
  ∃ asked, s.world.requests = w₀.requests ++ asked ∧
    asked.countP Request.isSubmission ≤ if s.pending.stage.isTerminal then 1 else 0

/-- A call on a flow that has not ended keeps within one submission. -/
theorem Ends.spent {w₀ : World σ} (h : Ends ctx route s call answer t) (hs : Spent w₀ s)
    (hrunning : s.pending.stage.isTerminal = false) : Spent w₀ t := by
  obtain ⟨before, hbefore, hcount⟩ := hs
  rw [hrunning, if_neg (by simp)] at hcount
  obtain ⟨asked, hasked, rfl | ⟨more, rfl, hquiet, -, -, -, hended⟩⟩ := h.asked
  · refine ⟨before, by rw [hasked, hbefore, List.append_nil], ?_⟩
    omega
  · refine ⟨_, by rw [hasked, hbefore, List.append_assoc], ?_⟩
    have hmore : more.countP Request.isSubmission = 0 :=
      List.countP_eq_zero.2 fun r hr => by simp [hquiet r hr]
    rw [hended, List.countP_append, List.countP_cons, hmore,
      if_pos (Submission.isSubmission_request _), if_pos rfl]
    omega

end

/-! ## The end -/

/-- A flow that has ended refuses every call and stays as it is. -/
theorem apply_of_isTerminal (e : Engine σ) {s : FlowState σ}
    (hend : s.pending.stage.isTerminal = true) (call : FlowCall) :
    call.apply e s = (.error (.finished s.pending.stage), s) := by
  cases call <;>
    simp only [FlowCall.apply, FlowCall.step, updateAmount, updateFeeLevel, validate,
      buildConfirmations, execute, prepare, run_bind, run_require, if_pos hend]

/-- **Nothing happens to a flow that has ended**, whatever it is asked. -/
theorem Run.of_isTerminal {e : Engine σ} {s t : FlowState σ} {history : List FlowEvent}
    (h : Run e s history t) (hend : s.pending.stage.isTerminal = true) :
    t.pending = s.pending ∧ t.world.requests = s.world.requests ∧
      t.world.metrics = s.world.metrics ∧
      ∀ event ∈ history, event.2 = .error (.finished s.pending.stage) := by
  induction h with
  | refl => simp
  | @call history t _ call ih =>
      obtain ⟨hpending, hrequests, hmetrics, hanswers⟩ := ih
      have hcall := apply_of_isTerminal e (s := t) (by rw [hpending, hend]) call
      rw [hcall]
      refine ⟨hpending, hrequests, hmetrics, ?_⟩
      simp only [List.mem_append, List.mem_singleton]
      rintro event (hevent | rfl)
      · exact hanswers event hevent
      · rw [hpending]
  | meanwhile _ _ _ ih => exact ih

/-! ## Histories of the two engines -/

section

variable {ctx : EngineContext σ} {e : Engine σ} {route : Route} {w₀ : World σ} {p₀ : Pending}
  {history : List FlowEvent} {s t : FlowState σ}

/-- A flow that was started on one of the two engines has a route. -/
theorem History.exists_route (h : History e w₀ p₀ history s) (he : e.IsBuiltIn ctx) :
    ∃ route : Route, e = route.engine ctx := by
  obtain ⟨w₁, hstart, -⟩ := h
  exact he.exists_route (checkAccounts_of_start hstart)

/-- **Soundness**: after every history the pending transfer is sound. -/
theorem History.sound (h : History (route.engine ctx) w₀ p₀ history s) :
    Sound route p₀ history s.pending := by
  obtain ⟨w₁, hstart, hrun⟩ := h
  obtain ⟨limits, fee, asked, -, hopened, -, -⟩ := opening_of_start hstart
  refine hrun.sound ?_
  rw [hopened]
  exact sound_opening limits fee ctx.userFiat

/-- Every run keeps within one submission. -/
theorem Run.spent (h : Run (route.engine ctx) s history t) (hs : Spent w₀ s) : Spent w₀ t := by
  induction h with
  | refl => exact hs
  | @call history t _ call ih =>
      by_cases hend : t.pending.stage.isTerminal = true
      · rw [apply_of_isTerminal _ hend]
        exact ih
      · exact (ends_apply ctx route t call).spent ih (by simpa using hend)
  | meanwhile _ _ _ ih => exact ih

/-- After every history one submission at most was made. -/
theorem History.spent (h : History (route.engine ctx) w₀ p₀ history s) : Spent w₀ s := by
  obtain ⟨w₁, hstart, hrun⟩ := h
  obtain ⟨limits, fee, asked, -, hopened, hrequests, hasked, -⟩ := opening_of_start hstart
  refine hrun.spent ⟨asked, hrequests, ?_⟩
  rw [hopened, List.countP_eq_zero.2 fun r hr => by
    simp [(Request.quiet_of_isAboutTerms (hasked r hr)).1]]
  simp

end

end Flow

end FiatRamp
