import FiatRamp.Proofs.Cancelling
import FiatRamp.Proofs.Conservation

/-!
# FiatRamp.Proofs.OpenBanking

A deposit is treated alike throughout.

Whether the bank asks the user before it pays is decided three times: for the
callback of the transfer, for the summary and for what follows the submission.
The three agree after every history (`Flow.Treated`, `Flow.History.treated`), and
they agree with the code of the bank's currency, however it was written
(`Flow.treats_open_banking_alike`).
-/

namespace FiatRamp

/-! ## Currencies -/

namespace Currency

/-- A code as it is kept: without blanks around it, in capitals. -/
def normalise (s : String) : String := String.ofList ((trimChars s.toList).map Char.toUpper)

theorem code_eq_normalise {s : String} {c : Currency} (h : ofText? s = some c) :
    c.code = normalise s := by
  unfold ofText? at h
  split at h
  · cases h
    rfl
  · cases h

/-- A currency counts as one of open banking by the code it was written with. -/
theorem isOpenBanking_eq_decide {s : String} {c : Currency} (h : ofText? s = some c) :
    c.isOpenBanking = decide (normalise s ∈ ["EUR", "GBP"]) := by
  rw [isOpenBanking, code_eq_normalise h, List.contains_eq_mem, openBankingCodes]

end Currency

/-! ## Waiting for an approval -/

theorem Metric.pollAttempts_append (counted more : List Metric) :
    pollAttempts (counted ++ more) = pollAttempts counted ++ pollAttempts more :=
  List.filterMap_append

namespace Poll.Plan

/-- A session makes no attempt exactly if its token was cancelled beforehand. -/
theorem attempts_eq_zero_iff {ε α β : Type} {plan : Plan σ ε α β} {e : End σ ε β}
    (h : plan.session = some e) : e.attempts = 0 ↔ plan.cancelled = 0 := by
  constructor
  · intro hnone
    rcases plan.cancelled_eq_zero_or_stops with hzero | ⟨i, now, s, -, hstops⟩
    · exact hzero
    · rw [h] at hstops
      rw [hstops.attempts_eq] at hnone
      contradiction
  · intro hzero
    rw [session_of_cancelled_zero hzero, Option.some.injEq] at h
    rw [← h]

end Poll.Plan

namespace Deposit

section

variable (ctx : EngineContext σ) (paymentId : String) (cancel : Option Duration) (w : World σ)

/-- No charge is fetched exactly if the token was cancelled before the wait began. -/
theorem attempts_session_eq_zero_iff :
    (Poll.runTasks ctx.poll ctx.draw (fetchCharge ctx paymentId) authorised
      (cancel.map (· - w.now)) w).attempts = 0 ↔ ∃ time ∈ cancel, time ≤ w.now := by
  rw [Poll.Plan.attempts_eq_zero_iff (Poll.Plan.session_ofTasks ..)]
  have hcancelled : (Poll.Plan.ofTasks ctx.poll ctx.draw (fetchCharge ctx paymentId) authorised
      (cancel.map (· - w.now)) w).cancelled = Poll.instant (cancel.map (· - w.now)) := rfl
  rw [hcancelled]
  cases cancel with
  | none => simp
  | some time =>
      rw [Option.map_some, Poll.instant_some, Nat.cast_eq_zero, Nat.sub_eq_zero_iff_le]
      simp

/-- **A wait for an approval** is one session, which fetches a charge with each attempt;
the bank is looked up after it, if at all. -/
theorem asked_awaitApproval :
    ∃ outcome attempts looked,
      w.Since [.pollSession outcome attempts]
        (List.replicate attempts (.charge paymentId) ++ looked)
        ((awaitApproval ctx paymentId cancel).run.run w).2 ∧
      (looked = [] ∨ ∃ bankId, looked = [.linkedBank bankId]) ∧
      (attempts = 0 ↔ ∃ time ∈ cancel, time ≤ w.now) := by
  obtain ⟨hcounted, hsession⟩ := since_session ctx paymentId cancel w
  have hattempts := attempts_session_eq_zero_iff ctx paymentId cancel w
  rw [awaitApproval, run_bind, EngineStep.run_poll]
  generalize Poll.runTasks ctx.poll ctx.draw (fetchCharge ctx paymentId) authorised
    (cancel.map (· - w.now)) w = e at hcounted hsession hattempts ⊢
  obtain ⟨outcome, houtcome⟩ := Option.isSome_iff_exists.1 hcounted
  have hended : w.Since [] (List.replicate e.attempts (.charge paymentId))
      { e.state with now := w.now + e.time } := ⟨hsession.metrics, hsession.requests⟩
  have hpolled := hended.record (.pollSession outcome e.attempts)
  simp only [houtcome]
  rw [run_bind, EngineStep.run_ofExcept]
  cases e.result.mapError (pollFailure paymentId) with
  | error => exact ⟨outcome, e.attempts, [], by rwa [List.append_nil], .inl rfl, hattempts⟩
  | ok found =>
      dsimp only
      rw [run_bind, EngineStep.run_ask]
      have hasked := hpolled.answered ctx.custodian ctx.deadlines
        (.linkedBank found.2.linkedBankId)
      refine ⟨outcome, e.attempts, [.linkedBank found.2.linkedBankId], ?_, .inr ⟨_, rfl⟩, hattempts⟩
      generalize ctx.custodian.reply ctx.deadlines (.linkedBank found.2.linkedBankId) _ = answer
      cases answer <;> exact hasked

/-- A wait for an approval does not complete a deposit. -/
theorem awaitApproval_ne_completed :
    ((awaitApproval ctx paymentId cancel).run.run w).1 ≠ .ok .completed := by
  intro h
  rw [awaitApproval, run_bind] at h
  split at h
  · rw [run_bind, EngineStep.run_ofExcept] at h
    split at h
    · rw [run_bind, EngineStep.run_ask] at h
      split at h <;> cases h
    · cases h
  · cases h

end

/-- The summary tells of the settlement exactly if the bank does not ask the user. -/
theorem estimatedCompletion_mem_confirmations {bank : BankAccount} {target : Account}
    {amount : Money} :
    .estimatedCompletion ∈ confirmations bank target amount ↔
      bank.currency.isOpenBanking = false := by
  cases h : bank.currency.isOpenBanking <;> simp [confirmations, Confirmation.onlyIf, h]

end Deposit

/-! ## One treatment -/

/-- A request of a deposit suits its bank: a transfer has a callback exactly if the bank
asks the user, and charges and banks are looked up only then. -/
def Request.Suits (callback : Callback) (authorised : Bool) : Request → Prop
  | .startTransfer _ _ _ given => given = if authorised then some callback else none
  | .charge _ | .linkedBank _ => authorised = true
  | .limits .. | .withdrawalFee _ | .withdraw .. => True

namespace Flow

/-- A deposit was treated as one its bank has to authorise, or as one it has not, since
`w₀` and in every respect. -/
structure Treated (callback : Callback) (authorised : Bool) (w₀ : World σ)
    (history : List FlowEvent) (s : FlowState σ) : Prop where
  asked : ∃ asked, s.world.requests = w₀.requests ++ asked ∧
    ∀ request ∈ asked, request.Suits callback authorised
  /-- A summary that was built tells of the settlement of what need not be authorised. -/
  summary : s.pending.confirmations = [] ∨
    (.estimatedCompletion ∈ s.pending.confirmations ↔ authorised = false)
  /-- There is a summary once there can be a submission. -/
  shown : s.pending.stage = .confirmed ∨ s.pending.stage.isTerminal = true →
    s.pending.confirmations ≠ []
  /-- What is authorised waits for that, and nothing else does. -/
  ended : s.pending.stage ≠ if authorised then .succeeded else .awaitingApproval
  /-- Only a wait can fail after the submission. -/
  unfailing : authorised = false →
    ∀ event ∈ history, ∀ failure, event.2 ≠ .error (.postSubmission failure)

section

variable {ctx : EngineContext σ} {bank : BankAccount} {fiat : FiatAccount} {w₀ : World σ}
  {p₀ : Pending} {history : List FlowEvent} {s t : FlowState σ} {call : FlowCall}
  {answer : Except FlowError FlowAnswer}

/-- Nothing follows the submission of a deposit that need not be authorised. -/
theorem followed_of_not_isOpenBanking (ctx : EngineContext σ) (fiat : FiatAccount)
    (s : FlowState σ) (hplain : bank.currency.isOpenBanking = false) (id : String)
    (cancel : Option Duration) :
    s.followed ctx (.deposit bank fiat) id cancel =
      (.ok .completed, s.submitted ctx (.deposit bank fiat)) := by
  have hauthorised : (Route.deposit bank fiat).isAuthorised = false := hplain
  rw [FlowState.followed, Route.followUp_of_not_isAuthorised ctx id cancel hauthorised]
  rfl

/-- What follows the submission of a deposit that has to be authorised does not complete it. -/
theorem followed_ne_completed (hopen : bank.currency.isOpenBanking = true) (id : String)
    (cancel : Option Duration) :
    (s.followed ctx (.deposit bank fiat) id cancel).1 ≠ .ok .completed := by
  have hauthorised : (Route.deposit bank fiat).isAuthorised = true := hopen
  rw [FlowState.followed, Route.followUp, hauthorised, if_pos rfl]
  exact Deposit.awaitApproval_ne_completed _ _ _ _

/-- The transfer that is submitted suits its bank. -/
theorem suits_submission (fiat : FiatAccount) (p : Pending) :
    ((Route.deposit bank fiat).submission ctx p).request.Suits (ctx.callback .yapily .pay)
      bank.currency.isOpenBanking := rfl

/-- Every call makes requests that suit the bank. -/
theorem Ends.suits (h : Ends ctx (.deposit bank fiat) s call answer t) :
    ∃ asked, t.world.requests = s.world.requests ++ asked ∧
      ∀ request ∈ asked,
        request.Suits (ctx.callback .yapily .pay) bank.currency.isOpenBanking := by
  cases hopen : bank.currency.isOpenBanking with
  | true =>
      obtain ⟨asked, hasked, rfl | ⟨more, rfl, hquiet, -⟩⟩ := h.asked
      · exact ⟨[], hasked, by simp⟩
      · refine ⟨_, hasked, fun request hmem => ?_⟩
        rcases List.mem_cons.1 hmem with rfl | hmore
        · exact hopen ▸ suits_submission fiat s.pending
        · -- after the submission no other one is made
          have := hquiet request hmore
          cases request <;> simp_all [Request.Suits, Request.isSubmission]
  | false =>
      have hsubmitted : ∃ asked, (s.submitted ctx (.deposit bank fiat)).requests =
            s.world.requests ++ asked ∧
          ∀ request ∈ asked, request.Suits (ctx.callback .yapily .pay) false := by
        refine ⟨_, rfl, fun request hmem => ?_⟩
        rw [List.mem_singleton.1 hmem]
        exact hopen ▸ suits_submission fiat s.pending
      have hfollowed := followed_of_not_isOpenBanking ctx fiat s hopen
      cases h with
      | refused | unassessed | amountUpdated | feeUpdated | validated | confirmed | notExecutable =>
          exact ⟨[], by simp [FlowState.enter, FlowState.counting, FlowState.judged], by simp⟩
      | notAccepted => exact hsubmitted
      | completed | approved | unfinished =>
          simpa [FlowState.ended, FlowState.enter, hfollowed] using hsubmitted

/-- Every call leaves a summary that suits the bank, and one to submit by. -/
theorem Ends.shown (h : Ends ctx (.deposit bank fiat) s call answer t)
    (hsummary : s.pending.confirmations = [] ∨ (.estimatedCompletion ∈ s.pending.confirmations ↔
      bank.currency.isOpenBanking = false))
    (hshown : s.pending.stage = .confirmed ∨ s.pending.stage.isTerminal = true →
      s.pending.confirmations ≠ []) :
    (t.pending.confirmations = [] ∨ (.estimatedCompletion ∈ t.pending.confirmations ↔
        bank.currency.isOpenBanking = false)) ∧
      (t.pending.stage = .confirmed ∨ t.pending.stage.isTerminal = true →
        t.pending.confirmations ≠ []) := by
  cases h with
  | refused => exact ⟨hsummary, hshown⟩
  | unassessed => exact ⟨hsummary, hshown⟩
  | amountUpdated | feeUpdated => exact ⟨.inl rfl, by simp [FlowState.enter, Stage.isTerminal]⟩
  | validated =>
      refine ⟨hsummary, ?_⟩
      simp only [FlowState.enter]
      split <;> simp [Stage.isTerminal]
  | confirmed _ hsummed =>
      cases hsummed
      exact ⟨.inr Deposit.estimatedCompletion_mem_confirmations, by
        simp [FlowState.enter, Deposit.confirmations]⟩
  | notExecutable => exact ⟨hsummary, by simp [FlowState.enter, Stage.isTerminal]⟩
  | notAccepted hlegal | completed hlegal | approved hlegal | unfinished hlegal =>
      exact ⟨hsummary, fun _ => hshown (.inl hlegal)⟩

/-- Every call that ends the flow ends it as suits the bank. -/
theorem Ends.endsSuitably (h : Ends ctx (.deposit bank fiat) s call answer t)
    (hended : s.pending.stage ≠
      if bank.currency.isOpenBanking then .succeeded else .awaitingApproval) :
    (t.pending.stage ≠ if bank.currency.isOpenBanking then .succeeded else .awaitingApproval) ∧
      (bank.currency.isOpenBanking = false →
        ∀ failure, answer ≠ .error (.postSubmission failure)) := by
  cases h with
  | refused hrefused => exact ⟨hended, fun _ _ hfailure => by cases hrefused <;> cases hfailure⟩
  | unassessed => exact ⟨hended, by simp⟩
  | amountUpdated | feeUpdated | confirmed | notExecutable | notAccepted =>
      exact ⟨by simp only [FlowState.ended, FlowState.enter]; split <;> simp, by simp⟩
  | validated =>
      refine ⟨?_, by simp⟩
      simp only [FlowState.enter]
      split <;> split <;> simp
  | @completed _ id _ _ _ hfollowed =>
      cases hopen : bank.currency.isOpenBanking with
      | true => exact (followed_ne_completed hopen id _ hfollowed).elim
      | false => exact ⟨by simp [FlowState.ended, FlowState.enter], by simp⟩
  | @approved _ id _ _ _ _ hfollowed | @unfinished _ id _ _ _ _ hfollowed =>
      cases hopen : bank.currency.isOpenBanking with
      | true => exact ⟨by simp [FlowState.ended, FlowState.enter], by simp⟩
      | false =>
          rw [followed_of_not_isOpenBanking _ _ _ hopen] at hfollowed
          cases hfollowed

/-- **Every call treats a deposit as it was treated.** -/
theorem Ends.treated (h : Ends ctx (.deposit bank fiat) s call answer t)
    (hs : Treated (ctx.callback .yapily .pay) bank.currency.isOpenBanking w₀ history s) :
    Treated (ctx.callback .yapily .pay) bank.currency.isOpenBanking w₀
      (history ++ [(call, answer)]) t := by
  obtain ⟨before, hbefore, hsuits⟩ := hs.asked
  obtain ⟨asked, hasked, hcall⟩ := h.suits
  obtain ⟨hsummary, hshown⟩ := h.shown hs.summary hs.shown
  obtain ⟨hended, hanswer⟩ := h.endsSuitably hs.ended
  refine ⟨⟨before ++ asked, by rw [hasked, hbefore, List.append_assoc], fun request hmem => ?_⟩,
    hsummary, hshown, hended, fun hplain event hmem => ?_⟩
  · exact (List.mem_append.1 hmem).elim (hsuits request) (hcall request)
  · rcases List.mem_append.1 hmem with hearlier | hlast
    · exact hs.unfailing hplain event hearlier
    · rw [List.mem_singleton.1 hlast]
      exact hanswer hplain

/-- Every run treats a deposit as it was treated. -/
theorem Run.treated (h : Run (Route.engine ctx (.deposit bank fiat)) s history t)
    (hs : Treated (ctx.callback .yapily .pay) bank.currency.isOpenBanking w₀ [] s) :
    Treated (ctx.callback .yapily .pay) bank.currency.isOpenBanking w₀ history t := by
  induction h with
  | refl => exact hs
  | call _ call ih => exact (ends_apply ctx _ _ call).treated ih
  | meanwhile _ _ _ ih => exact ⟨ih.asked, ih.summary, ih.shown, ih.ended, ih.unfailing⟩

/-- **One treatment**: after every history a deposit was treated as its bank demands. -/
theorem History.treated (h : History (Route.engine ctx (.deposit bank fiat)) w₀ p₀ history s) :
    Treated (ctx.callback .yapily .pay) bank.currency.isOpenBanking w₀ history s := by
  obtain ⟨w₁, hstart, hrun⟩ := h
  obtain ⟨limits, fee, asked, -, rfl, hrequests, hasked, -⟩ := opening_of_start hstart
  refine hrun.treated ⟨⟨asked, hrequests, fun request hmem => ?_⟩, .inl rfl, ?_, ?_, by simp⟩
  · -- before the first call only limits were asked for
    have := hasked request hmem
    cases request <;> simp_all [Request.Suits, Request.isAboutTerms]
  · simp [Stage.isTerminal]
  · dsimp only
    split <;> simp

end

/-! ## After the submission -/

/-- What followed the submission of a deposit that was accepted under an id: what was
counted, asked for and answered.  `early` says that the token was cancelled before. -/
structure FollowedUp (authorised : Bool) (early : Prop) (id : String) (amount : Money)
    (counted : List Metric) (asked : List Request) (answer : Except FlowError FlowAnswer) :
    Prop where
  /-- One session fetches charges, at least one unless it is cancelled beforehand, and the
  bank may be looked up after it. -/
  waited : authorised = true → ∃ fetches looked,
    Metric.pollAttempts counted = [fetches] ∧
      asked = List.replicate fetches (.charge id) ++ looked ∧
      (looked = [] ∨ ∃ bankId, looked = [.linkedBank bankId]) ∧ (fetches = 0 ↔ early)
  /-- Nothing follows, and the deposit is complete. -/
  completed : authorised = false → Metric.pollAttempts counted = [] ∧ asked = [] ∧
    answer = .ok (.outcome (.succeeded (.payment id amount)))

section

variable {ctx : EngineContext σ} {bank : BankAccount} {fiat : FiatAccount} {s t : FlowState σ}
  {cancel : Option Duration} {answer : Except FlowError FlowAnswer} {id : String}

/-- Nothing that is counted up to the submission is a poll session. -/
theorem since_submission (s : FlowState σ) (ctx : EngineContext σ) (route : Route) :
    ∃ counted, s.world.Since counted [(route.submission ctx s.pending).request]
        (s.submitted ctx route) ∧ Metric.pollAttempts counted = [] := by
  refine ⟨_, since_submitted s ctx route, ?_⟩
  simp [Metric.pollAttempts, Metric.attempts?]

/-- An execution of a deposit that has to be authorised waits for that once. -/
theorem since_waited (ctx : EngineContext σ) (fiat : FiatAccount) (s : FlowState σ)
    (hopen : bank.currency.isOpenBanking = true) (id : String) (cancel : Option Duration)
    (stage : Stage) :
    ∃ counted fetches looked,
      s.world.Since counted
        (((Route.deposit bank fiat).submission ctx s.pending).request ::
          (List.replicate fetches (.charge id) ++ looked))
        (s.ended (.deposit bank fiat) (s.followed ctx (.deposit bank fiat) id cancel).2
          stage).world ∧
      Metric.pollAttempts counted = [fetches] ∧
      (looked = [] ∨ ∃ bankId, looked = [.linkedBank bankId]) ∧
      (fetches = 0 ↔ ∃ time ∈ cancel, time ≤ (s.submitted ctx (.deposit bank fiat)).now) := by
  have hauthorised : (Route.deposit bank fiat).isAuthorised = true := hopen
  obtain ⟨before, hsubmitted, hquiet⟩ := since_submission s ctx (.deposit bank fiat)
  obtain ⟨outcome, fetches, looked, hwaited, hlooked, hearly⟩ :=
    Deposit.asked_awaitApproval ctx id cancel (s.submitted ctx (.deposit bank fiat))
  have hended := (hsubmitted.trans hwaited).record (.stage (Route.deposit bank fiat).name stage)
  refine ⟨before ++ [.pollSession outcome fetches] ++ [.stage (Route.deposit bank fiat).name stage],
    fetches, looked, ?_, ?_, hlooked, hearly⟩
  · rw [FlowState.ended, FlowState.followed, Route.followUp, hauthorised, if_pos rfl]
    exact hended
  · rw [Metric.pollAttempts_append, Metric.pollAttempts_append, hquiet]
    rfl

/-- **After the submission** of a deposit follows what its bank demands. -/
theorem Ends.followedUp (h : Ends ctx (.deposit bank fiat) s (.execute cancel) answer t)
    (hconfirmed : s.pending.stage = .confirmed)
    (hassess : (Route.deposit bank fiat).assess s.pending = .ok .canExecute)
    (hreply : s.reply ctx (.deposit bank fiat) = .ok id) :
    ∃ counted asked,
      s.world.Since counted
        (((Route.deposit bank fiat).submission ctx s.pending).request :: asked) t.world ∧
      FollowedUp bank.currency.isOpenBanking
        (∃ time ∈ cancel, time ≤ (s.submitted ctx (.deposit bank fiat)).now) id s.pending.amount
        counted asked answer := by
  cases hopen : bank.currency.isOpenBanking with
  | true =>
      obtain ⟨-, stage, ht⟩ := h.of_accepted hconfirmed hassess hreply
      obtain ⟨counted, fetches, looked, hsince, hsession, hlooked, hearly⟩ :=
        since_waited ctx fiat s hopen id cancel stage
      rw [← ht] at hsince
      exact ⟨counted, _, hsince, fun _ => ⟨fetches, looked, hsession, rfl, hlooked, hearly⟩,
        fun hplain => by contradiction⟩
  | false =>
      obtain ⟨before, hsubmitted, hquiet⟩ := since_submission s ctx (.deposit bank fiat)
      have hpassing := h.of_passing hconfirmed hassess
      rw [hreply] at hpassing
      dsimp only at hpassing
      rw [followed_of_not_isOpenBanking _ _ _ hopen] at hpassing
      obtain ⟨hanswer, ht⟩ := hpassing
      have hended := hsubmitted.record (.stage (Route.deposit bank fiat).name .succeeded)
      rw [ht]
      refine ⟨_, [], hended, fun hauthorised => by contradiction, fun _ => ⟨?_, rfl, hanswer⟩⟩
      rw [Metric.pollAttempts_append, hquiet]
      rfl

end

/-- **Open banking is treated alike throughout.**  However the code of the currency of a
linked bank was spelled, it decides in every history of a deposit from this bank whether
the transfer carries a callback, whether the summary leaves the settlement out and whether
charges are fetched after the submission: all three for euros and pounds, none of them
otherwise.  A deposit of the first kind never succeeds outright; one of the second kind
never waits for an approval, never fails once it was accepted and looks nothing up. -/
theorem treats_open_banking_alike {ctx : EngineContext σ} {bank : BankAccount}
    {target : Account} {spelling : String}
    (spelled : Currency.ofText? spelling = some bank.currency) {w₀ : World σ} {p₀ : Pending}
    {history : List FlowEvent} {s : FlowState σ}
    (h : History (.deposit ctx (.bank bank) target) w₀ p₀ history s) :
    let authorised := decide (Currency.normalise spelling ∈ ["EUR", "GBP"])
    let callback := ctx.callback .yapily .pay
    let submission : Submission := .transfer bank.id s.pending.amount
      s.pending.amount.currency.code (if authorised then some callback else none)
    let answered := s.world.now +
      ((submission.work ctx.custodian s.world.backend).within ctx.deadlines.submission).takes
    Treated callback authorised w₀ history s ∧
    ∀ cancel id, s.pending.stage = .confirmed →
      submission.Accepted ctx.custodian ctx.deadlines s.world.backend id →
      let done := (FlowCall.execute cancel).apply (.deposit ctx (.bank bank) target) s
      ∃ counted asked, s.world.Since counted (submission.request :: asked) done.2.world ∧
        FollowedUp authorised (∃ time ∈ cancel, time ≤ answered) id s.pending.amount counted asked
          done.1 := by
  have hfiat : ∃ fiat, target = .fiat fiat := by
    obtain ⟨w₁, hstart, -⟩ := h
    have hcheck := checkAccounts_of_start hstart
    cases target with
    | fiat fiat => exact ⟨fiat, rfl⟩
    | wallet | bank => cases hcheck
  obtain ⟨fiat, rfl⟩ := hfiat
  have hroute : Engine.deposit ctx (.bank bank) (.fiat fiat) =
    Route.engine ctx (.deposit bank fiat) := rfl
  rw [hroute] at h ⊢
  rw [← Currency.isOpenBanking_eq_decide spelled]
  refine ⟨h.treated, fun cancel id hconfirmed haccepted => ?_⟩
  exact (ends_apply ctx _ s (.execute cancel)).followedUp hconfirmed
    (h.vetted.assessed (by simp [hconfirmed])) (Submission.reply_eq_ok_iff.2 haccepted)

/-- A bank in pounds, written as ` gbp `, asks the user.  A token that was cancelled before
the submission was answered leaves no charge to fetch, and without one a charge is fetched. -/
theorem treats_open_banking_alike_pounds :
    ∃ p₀ history s,
      Currency.ofText? " gbp " = some Sample.sterling ∧
      History Sample.deposit (.start Sample.vault) p₀ history s ∧
      s.pending.stage = .confirmed ∧ .estimatedCompletion ∉ s.pending.confirmations ∧
      (∃ counted asked, s.world.Since counted asked
          ((FlowCall.execute (some 0)).apply Sample.deposit s).2.world ∧
        Metric.pollAttempts counted = [0]) ∧
      ∃ counted asked, s.world.Since counted asked
          ((FlowCall.execute none).apply Sample.deposit s).2.world ∧
        ∃ fetches, Metric.pollAttempts counted = [fetches] ∧ fetches ≠ 0 := by
  have hspelled : Currency.ofText? " gbp " = some Sample.sterling := by decide
  have hopen : decide (Currency.normalise " gbp " ∈ ["EUR", "GBP"]) = true := by decide
  have hstart : start Sample.deposit (.start Sample.vault) = (.ok _, _) := rfl
  have hhistory := history_drive hstart Sample.confirming
  obtain ⟨htreated, hfollows⟩ := @treats_open_banking_alike _ _
    ⟨"bank", "Bank", "12345678", "Current", _⟩ _ _ hspelled _ _ _ _ hhistory
  refine ⟨_, _, _, hspelled, hhistory, by decide +kernel, ?_, ?_, ?_⟩
  · intro hcompletion
    have hsummary := htreated.summary.resolve_left (htreated.shown (.inl (by decide +kernel)))
    exact Bool.false_ne_true ((hsummary.1 hcompletion).symm.trans hopen)
  · obtain ⟨counted, asked, hsince, hfollow⟩ :=
      hfollows (some 0) (Nat.repr 0) (by decide +kernel) ⟨by decide +kernel, rfl⟩
    obtain ⟨fetches, looked, hsession, -, -, hearly⟩ := hfollow.waited hopen
    exact ⟨counted, _, hsince, by rw [hsession, hearly.2 ⟨0, rfl, Nat.zero_le _⟩]⟩
  · obtain ⟨counted, asked, hsince, hfollow⟩ :=
      hfollows none (Nat.repr 0) (by decide +kernel) ⟨by decide +kernel, rfl⟩
    obtain ⟨fetches, looked, hsession, -, -, hearly⟩ := hfollow.waited hopen
    exact ⟨counted, _, hsince, fetches, hsession, fun hnone => by simpa using hearly.1 hnone⟩

end Flow

end FiatRamp
