import FiatRamp.Proofs.History
import FiatRamp.Proofs.Verdict

/-!
# FiatRamp.Proofs.Safety

What a flow submits, and how often.

Whenever the custodian is asked to move money, the amount is the one entered
last, within the limits fetched at the start, and what the user confirmed is
the summary of exactly this amount (`Flow.isSafe_of_asked`).  Over a whole
history that happens at most once, and after it the flow refuses every call
(`Flow.submits_at_most_once`).
-/

namespace FiatRamp

/-- Limits are named in the currency they were asked for in. -/
def Custodian.NamesNativeLimits (custodian : Custodian σ) : Prop :=
  ∀ currency onlyOpenBanking backend limits,
    (custodian (.limits currency onlyOpenBanking) backend).ended.1 = .ok limits →
      limits.min.currency = currency ∧ ∀ max ∈ limits.max, max.currency = currency

theorem Custodian.NamesNativeLimits.currency_min {custodian : Custodian σ}
    (h : custodian.NamesNativeLimits) {deadlines : Deadlines} {currency : Currency}
    {onlyOpenBanking : Bool} {backend : σ} {limits : TransferLimits}
    (hreply : custodian.reply deadlines (.limits currency onlyOpenBanking) backend = .ok limits) :
    limits.min.currency = currency :=
  (h currency onlyOpenBanking backend limits (Custodian.reply_eq_ok_iff.1 hreply).2).1

/-! ## A withdrawal to look at -/

namespace Sample

def sterling : Currency := ⟨"GBP", by decide⟩

/-- An amount of whole pounds. -/
def pounds (units : Int64) : Money := .ofMajor units sterling

/-- What a custodian answers that accepts everything. -/
def answer : (request : Request) → request.Answer
  | .limits currency _ => { min := .ofMajor 1 currency, max := some (.ofMajor 500 currency) }
  | .startTransfer .. => "payment"
  | .charge paymentId => ⟨paymentId, "bank", pounds 5, some "https://bank.test/authorise"⟩
  | .linkedBank id => ⟨id, "Bank", "12345678", "Current", sterling, .yapily⟩
  | .withdrawalFee currency => .ofMajor 2 currency
  | .withdraw .. => "order"

/-- A custodian that accepts everything at once. -/
def obliging : Custodian Unit := fun request _ => .done (.ok (answer request)) ()

/-- A wallet that asks its custodian and has no patience. -/
def context (custodian : Custodian σ) : EngineContext σ where
  custodian := custodian
  callback partner action := ⟨partner, action, "https://wallet.test/return"⟩
  deadlines := ⟨0, 0, 0⟩
  poll := ⟨1, .fixed 0, none⟩
  draw _ := 0
  userFiat := sterling

/-- A linked bank. -/
def bank : Account := .bank ⟨"bank", "Bank", "12345678", "Current", sterling⟩

/-- A fiat account that holds 100 pounds. -/
def cash : Account := .fiat ⟨"Cash", sterling, pounds 100⟩

/-- The engine that withdraws from the one to the other. -/
def withdrawal : Engine Unit := .withdrawal (context obliging) cash bank

/-- The calls that come before the submission of five pounds. -/
def confirming : List FlowCall := [.updateAmount (pounds 5), .validate, .buildConfirmations]

theorem namesNativeLimits_obliging : obliging.NamesNativeLimits := by
  intro currency onlyOpenBanking backend limits hlimits
  cases hlimits
  exact ⟨rfl, fun max hmax => by cases hmax; rfl⟩

theorem isBuiltIn_withdrawal : withdrawal.IsBuiltIn (context obliging) := ⟨cash, bank, .inr rfl⟩

end Sample

/-! ## What is submitted -/

/-- The summary of a transfer of `amount` between two accounts. -/
def IsSummaryOf (source target : Account) (amount fee : Money) (lines : List Confirmation) :
    TransferAction → Prop
  | .deposit => ∃ bank, source = .bank bank ∧ lines = Deposit.confirmations bank target amount
  | .withdraw =>
    ∃ total, amount.add fee = .ok total ∧
      lines = Withdrawal.confirmations source target fee amount total
  | .send => False

/-- What is true of a submission when it is made.  `limits` are those fetched at
the start of the flow, `p` is the pending transfer at this moment. -/
structure Submission.IsSafe (submission : Submission) (e : Engine σ) (action : TransferAction)
    (limits : TransferLimits) (history : List FlowEvent) (p : Pending) : Prop where
  currency : submission.amount.currency = e.source.currency
  positive : 0 < submission.amount.worth
  min_le : limits.min.worth ≤ submission.amount.worth
  le_max : ∀ max ∈ limits.max, submission.amount.worth ≤ max.worth
  /-- The amount is that of the last update that was accepted. -/
  entered : lastAmount history = some submission.amount
  pending : p.amount = submission.amount
  /-- To build the summary once more changes nothing. -/
  rebuilt : ∀ w : World σ, (e.buildConfirmations p).run.run w = (.ok p, w)
  confirmed : IsSummaryOf e.source e.target submission.amount p.feeAmount p.confirmations action

namespace Flow

section

variable {ctx : EngineContext σ} {route : Route} {p₀ : Pending} {history : List FlowEvent}
  {s : FlowState σ}

/-- A summary that was built is the one the user has to see. -/
theorem isSummaryOf_of_summary {p : Pending} {lines : List Confirmation}
    (h : route.summary p = .ok lines) :
    IsSummaryOf route.source route.target p.amount p.feeAmount lines route.action := by
  cases route with
  | deposit bank fiat =>
      cases h
      exact ⟨bank, rfl, rfl⟩
  | withdrawal =>
      unfold Route.summary Pending.totalOutgoing at h
      cases htotal : p.amount.add p.feeAmount with
      | error => rw [htotal] at h; cases h
      | ok total =>
          rw [htotal] at h
          cases h
          exact ⟨total, htotal, rfl⟩

/-- An amount that is not zero any more was entered. -/
theorem Sound.lastAmount_eq {p : Pending} (h : Sound route p₀ history p)
    (hopened : p₀.amount.isZero = true) (hzero : p.amount.isZero = false) :
    lastAmount history = some p.amount := by
  have hentered := h.entered
  cases hlast : lastAmount history with
  | some amount =>
      rw [hlast] at hentered
      rw [hentered]
      rfl
  | none =>
      rw [hlast] at hentered
      have hsame : p.amount = p₀.amount := hentered
      rw [hsame, hopened] at hzero
      contradiction

/-- A sound amount that is not zero is positive. -/
theorem Sound.worth_pos {p : Pending} (h : Sound route p₀ history p)
    (hzero : p.amount.isZero = false) : 0 < p.amount.worth := by
  have hnonzero : p.amount.worth ≠ 0 := by
    rw [ne_eq, ← Money.isZero_iff, hzero]
    simp
  have hnonneg : ¬ p.amount.worth < 0 := by
    rw [← Money.isNegative_iff, h.nonnegative]
    simp
  exact lt_of_le_of_ne (not_lt.1 hnonneg) hnonzero.symm

/-- A sound transfer that was confirmed and passes is safe to submit. -/
theorem Sound.isSafe {limits : TransferLimits} (h : Sound route p₀ history s.pending)
    (hmin : p₀.minLimit = .lower limits) (hmax : p₀.maxLimit = .upper limits)
    (hopened : p₀.amount.isZero = true) (hnative : limits.min.currency = route.currency)
    (hconfirmed : s.pending.stage = .confirmed)
    (hpassed : route.assess s.pending = .ok .canExecute) :
    (route.submission ctx s.pending).IsSafe (route.engine ctx) route.action limits history
      (s.executing route).pending := by
  obtain ⟨-, hzero, hbelow, habove⟩ :=
    Pending.classifyAmount_eq_canExecute_iff.1 (Route.assess_eq_canExecute_iff.1 hpassed).1
  have hlower : s.pending.minLimit = .lower limits := (congrArg Terms.minLimit h.terms).trans hmin
  have hupper : s.pending.maxLimit = .upper limits := (congrArg Terms.maxLimit h.terms).trans hmax
  rw [hlower, Limit.keeps_lower_iff] at hbelow
  rw [hupper, Limit.keeps_upper_iff] at habove
  have hsummary := h.summarised hconfirmed
  constructor
  · rw [Route.amount_submission, hbelow.1, hnative, Route.source_engine]
    rfl
  · rw [Route.amount_submission]
    exact h.worth_pos hzero
  · rw [Route.amount_submission]
    exact hbelow.2
  · rw [Route.amount_submission]
    exact fun max hmem => (habove max hmem).2
  · rw [Route.amount_submission]
    exact h.lastAmount_eq hopened hzero
  · rw [Route.amount_submission]
    rfl
  · intro w
    have hexecuting : route.summary (s.executing route).pending = .ok s.pending.confirmations := by
      rw [← hsummary]
      cases route <;> rfl
    rw [Route.run_buildConfirmations, hexecuting]
    rfl
  · rw [Route.amount_submission, Route.source_engine, Route.target_engine]
    exact isSummaryOf_of_summary hsummary

end

/-- **Safety of submissions**: whenever a call after any history of a bound flow
asks the custodian to move money, the submission is safe at this moment, with
respect to the limits the custodian named when the flow was started. -/
theorem isSafe_of_asked {ctx : EngineContext σ} {source target : Account}
    {action : TransferAction} {e : Engine σ}
    (bound : (Registry.standard ctx).bind source target action = .ok e)
    (native : ctx.custodian.NamesNativeLimits) {w₀ : World σ} {p₀ : Pending}
    {history : List FlowEvent} {s : FlowState σ} (h : History e w₀ p₀ history s)
    (call : FlowCall) :
    (e.source = source ∧ e.target = target) ∧
      ∃ asked, (call.apply e s).2.world.requests = s.world.requests ++ asked ∧
        ∀ submission : Submission, submission.request ∈ asked →
          ∃ limits m,
            ctx.custodian.reply ctx.deadlines (.limits source.currency (action == .deposit))
              w₀.backend = .ok limits ∧
            p₀.minLimit = .lower limits ∧ p₀.maxLimit = .upper limits ∧
            (∃ cancel, call = .execute cancel) ∧ (prepare e).run.run s = (.ok (), m) ∧
            m.world.requests = s.world.requests ∧
            submission.IsSafe e action limits history m.pending := by
  obtain ⟨route, rfl, rfl, rfl, rfl⟩ := Route.exists_of_bind bound
  refine ⟨⟨Route.source_engine .., Route.target_engine ..⟩, ?_⟩
  have hsound := h.sound
  obtain ⟨w₁, hstart, -⟩ := h
  obtain ⟨limits, hlimits, hmin, hmax, hopened⟩ := limits_of_start hstart
  obtain ⟨asked, hasked, rfl | ⟨more, rfl, hquiet, hexecute, hconfirmed, hpassed, -⟩⟩ :=
    (ends_apply ctx route s call).asked
  · exact ⟨[], hasked, by simp⟩
  · refine ⟨_, hasked, fun submission hmem => ?_⟩
    -- what follows the submission moves no money
    obtain rfl := Submission.eq_of_request_mem hquiet hmem
    refine ⟨limits, s.executing route, ?_, hmin, hmax, hexecute, ?_, rfl, ?_⟩
    · rw [← hlimits]
      cases route <;> rfl
    · rw [run_prepare ctx route s hconfirmed, hpassed]
      rfl
    · exact hsound.isSafe hmin hmax hopened (native.currency_min hlimits) hconfirmed hpassed

/-- Five pounds are withdrawn safely once they were confirmed. -/
theorem isSafe_of_asked_five_pounds :
    ∃ p₀ history s limits m,
      History Sample.withdrawal (.start ()) p₀ history s ∧
        ((FlowCall.execute none).apply Sample.withdrawal s).2.world.requests =
          s.world.requests ++ [(Submission.order "bank" (Sample.pounds 5)).request] ∧
        (Submission.order "bank" (Sample.pounds 5)).IsSafe Sample.withdrawal .withdraw limits
          history m := by
  have hbound : (Registry.standard (Sample.context Sample.obliging)).bind Sample.cash
      Sample.bank .withdraw = .ok Sample.withdrawal := rfl
  have hstart : start Sample.withdrawal (.start ()) = (.ok _, _) := rfl
  have hhistory := history_drive hstart Sample.confirming
  obtain ⟨-, asked, hasked, hsafe⟩ :=
    isSafe_of_asked hbound Sample.namesNativeLimits_obliging hhistory (.execute none)
  have hrequest : asked = [(Submission.order "bank" (Sample.pounds 5)).request] :=
    List.append_cancel_left (hasked.symm.trans (by decide +kernel))
  subst hrequest
  obtain ⟨limits, m, -, -, -, -, -, -, hsafe⟩ := hsafe _ (List.mem_singleton_self _)
  exact ⟨_, _, _, limits, _, hhistory, hasked, hsafe⟩

/-! ## How often -/

/-- **At most one submission**: over a whole history of a flow the custodian is
asked to move money at most once.  After it the flow stays at its terminal
stage: it refuses every call, asks for nothing and counts nothing. -/
theorem submits_at_most_once {ctx : EngineContext σ} {e : Engine σ} (builtIn : e.IsBuiltIn ctx)
    {w₀ : World σ} {p₀ : Pending} {history : List FlowEvent} {s : FlowState σ}
    (h : History e w₀ p₀ history s) :
    ∃ asked, s.world.requests = w₀.requests ++ asked ∧ asked.countP Request.isSubmission ≤ 1 ∧
      ((∃ request ∈ asked, request.isSubmission = true) →
        s.pending.stage ∈ [.succeeded, .awaitingApproval, .failed] ∧
          ∀ later t, Run e s later t →
            t.pending = s.pending ∧ t.world.requests = s.world.requests ∧
              t.world.metrics = s.world.metrics ∧
              ∀ event ∈ later, event.2 = .error (.finished s.pending.stage)) := by
  obtain ⟨route, rfl⟩ := h.exists_route builtIn
  obtain ⟨asked, hasked, hcount⟩ := h.spent
  refine ⟨asked, hasked, hcount.trans (by split <;> simp), ?_⟩
  rintro ⟨request, hmem, hrequest⟩
  have hpositive : 0 < asked.countP Request.isSubmission :=
    List.countP_pos_iff.2 ⟨request, hmem, hrequest⟩
  have hend : s.pending.stage.isTerminal = true := by
    by_contra hrunning
    rw [if_neg hrunning] at hcount
    omega
  refine ⟨?_, fun later t hrun => hrun.of_isTerminal hend⟩
  cases hstage : s.pending.stage <;> rw [hstage] at hend <;> simp_all [Stage.isTerminal]

/-- A withdrawal was submitted, and no call submits it again. -/
theorem submits_at_most_once_five_pounds :
    ∃ p₀ history s,
      History Sample.withdrawal (.start ()) p₀ history s ∧
        s.world.requests.countP Request.isSubmission = 1 ∧ s.pending.stage = .succeeded ∧
        ∀ later t, Run Sample.withdrawal s later t →
          t.world.requests = s.world.requests ∧
            ∀ event ∈ later, event.2 = .error (.finished .succeeded) := by
  have hstart : start Sample.withdrawal (.start ()) = (.ok _, _) := rfl
  have hhistory := history_drive hstart (Sample.confirming ++ [.execute none])
  obtain ⟨asked, hasked, -, hend⟩ := submits_at_most_once Sample.isBuiltIn_withdrawal hhistory
  have hsubmitted : .withdraw "bank" (Sample.pounds 5) ∈ asked := by
    have hnil : (World.start ()).requests ++ asked = asked := List.nil_append _
    rw [← hnil, ← hasked]
    decide +kernel
  obtain ⟨-, hlater⟩ := hend ⟨_, hsubmitted, rfl⟩
  refine ⟨_, _, _, hhistory, by decide +kernel, by decide +kernel, fun later t hrun => ?_⟩
  obtain ⟨-, hrequests, -, hanswers⟩ := hlater later t hrun
  exact ⟨hrequests, hanswers⟩

end Flow

end FiatRamp
