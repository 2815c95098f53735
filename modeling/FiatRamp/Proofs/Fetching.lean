import FiatRamp.Proofs.Approval
import FiatRamp.Proofs.Conservation
import FiatRamp.Proofs.Deadlines
import FiatRamp.Proofs.Errors

/-!
# FiatRamp.Proofs.Fetching

What a deposit comes to after the bank was told of it.

The charge of an authorised deposit is fetched until it names a page, and the
bank is looked up then.  A session of fetches has three ways to end
(`Poll.Plan.Concludes`), and a failed fetch, a charge without a page and a
failed look-up come on top, so there are five conclusions
(`Deposit.Concludes`).  Each has its own answer (`Deposit.Concludes.unique`),
so the answer tells how the wait ended (`Engine.follows_up_deposit`).
-/

namespace FiatRamp

/-! ## How a session ends -/

namespace Poll.Plan

section

variable {ε α β : Type} {plan : Plan σ ε α β} {e : End σ ε β}

/-- Neither the token nor the deadline comes before the last call has ended. -/
def EndsItself (plan : Plan σ ε α β) : Prop :=
  plan.ending ≤ plan.deadline ∧ plan.ending < plan.cancelled

/-- The token comes first. -/
def EndsByToken (plan : Plan σ ε α β) : Prop :=
  plan.cancelled ≠ ⊤ ∧ plan.cancelled ≤ plan.ending ∧ plan.cancelled ≤ plan.deadline

/-- The deadline comes first. -/
def EndsByDeadline (plan : Plan σ ε α β) : Prop :=
  plan.deadline < plan.ending ∧ plan.deadline < plan.cancelled

theorem EndsItself.not_endsByToken (h : plan.EndsItself) : ¬ plan.EndsByToken :=
  fun htoken => not_le.mpr h.2 htoken.2.1

theorem EndsItself.not_endsByDeadline (h : plan.EndsItself) : ¬ plan.EndsByDeadline :=
  fun hdeadline => not_le.mpr hdeadline.1 h.1

theorem EndsByToken.not_endsByDeadline (h : plan.EndsByToken) : ¬ plan.EndsByDeadline :=
  fun hdeadline => not_le.mpr hdeadline.2 h.2.2

/-- What a session has come to, by what ended it. -/
inductive Concludes (plan : Plan σ ε α β) (e : End σ ε β) : Prop
  | itself (itself : plan.EndsItself) (result : e.result = plan.answer plan.last)
      (attempts : e.attempts = plan.last + 1) (state : e.state = plan.stateAt (plan.last + 1))
  | token (token : plan.EndsByToken) (result : e.result = .error (.cancelled e.attempts))
  | deadline (deadline : plan.EndsByDeadline) (result : e.result = .error (.timedOut e.attempts))

/-- Every session that ends concludes in one of the three ways. -/
theorem concludes_session (h : plan.session = some e) : plan.Concludes e := by
  rcases plan.cancelled_eq_zero_or_stops with hzero | ⟨i, now, s, -, hstops⟩
  · rw [session_of_cancelled_zero hzero, Option.some.injEq] at h
    subst h
    refine .token ?_ rfl
    rw [EndsByToken, hzero]
    exact ⟨ENat.zero_ne_top, zero_le, zero_le⟩
  · rw [h] at hstops
    cases hstops with
    | settled hlast _ hdeadline hcancelled =>
        subst hlast
        exact .itself ⟨hdeadline, hcancelled⟩ rfl rfl rfl
    | cancelled htime hending _ hdeadline =>
        exact .token ⟨htime ▸ ENat.natCast_ne_top _, hending, hdeadline⟩ rfl
    | timedOut _ hending _ hcancelled => exact .deadline ⟨hending, hcancelled⟩ rfl

/-- A session that ends without a ready value or a failure has made all its attempts. -/
theorem last_succ_eq_bound (h : plan.settles plan.last = false) : plan.last + 1 = plan.bound := by
  have hle := plan.last_lt_bound
  have hno := mt (plan.lt_last le_rfl h) (lt_irrefl _)
  omega

end

end Poll.Plan

/-! ## What the wait for an approval comes to -/

namespace Deposit

/-- A session of fetches. -/
abbrev Fetching (σ : Type) := Poll.Plan (World σ) EngineError Charge (String × Charge)

/-- The session ends with a charge that names a page, the first one to do so. -/
structure Finds (plan : Fetching σ) (url : String) (charge : Charge) : Prop where
  itself : plan.EndsItself
  fetched : (plan.call plan.last).ended.1 = .ok charge
  page : charge.authorisationUrl = some url
  first : ∀ i < plan.last, ∃ earlier, (plan.call i).ended.1 = .ok earlier ∧
    earlier.authorisationUrl = none

/-- The session ends with a failed fetch. -/
structure FailsToFetch (plan : Fetching σ) (cause : EngineError) : Prop where
  itself : plan.EndsItself
  failed : (plan.call plan.last).ended.1 = .error cause

/-- The session ends without a page, as its attempts or its time are used up. -/
def GivesUp (plan : Fetching σ) : Prop :=
  plan.EndsByDeadline ∨ plan.EndsItself ∧ plan.last + 1 = plan.bound ∧
    ∃ charge, (plan.call plan.last).ended.1 = .ok charge ∧ charge.authorisationUrl = none

/-- What comes of the look-up of the bank that a charge names. -/
def linkedBank (ctx : EngineContext σ) (plan : Fetching σ) (charge : Charge) :
    Except EngineError LinkedBank :=
  ctx.custodian.reply ctx.deadlines (.linkedBank charge.linkedBankId)
    (plan.stateAt (plan.last + 1)).backend

/-- What a wait for the approval of a payment comes to after so many fetches. -/
inductive Concludes (ctx : EngineContext σ) (paymentId : String) (plan : Fetching σ)
    (fetches : Nat) : Except EngineError FollowUp → Prop
  | approved {url : String} {charge : Charge} {linked : LinkedBank} (finds : Finds plan url charge)
      (known : linkedBank ctx plan charge = .ok linked) :
      Concludes ctx paymentId plan fetches
        (.ok (.needsApproval ⟨paymentId, url, linked, charge.amount⟩))
  | unknown {url : String} {charge : Charge} {cause : EngineError} (finds : Finds plan url charge)
      (unknown : linkedBank ctx plan charge = .error cause) :
      Concludes ctx paymentId plan fetches (.error cause)
  | failed {cause : EngineError} (fails : FailsToFetch plan cause) :
      Concludes ctx paymentId plan fetches (.error cause)
  | gaveUp (givesUp : GivesUp plan) :
      Concludes ctx paymentId plan fetches
        (.error (.invalidResponse (.noAuthorisationUrl paymentId fetches)))
  | cancelled (token : plan.EndsByToken) :
      Concludes ctx paymentId plan fetches (.error .cancelled)

section

variable {ctx : EngineContext σ} {paymentId : String} {plan : Fetching σ} {fetches : Nat}
  {url url' : String} {charge charge' : Charge} {cause : EngineError}

/-- There is one first page. -/
theorem Finds.unique (h : Finds plan url charge) (h' : Finds plan url' charge') :
    url = url' ∧ charge = charge' := by
  obtain rfl := Except.ok.inj (h.fetched.symm.trans h'.fetched)
  exact ⟨Option.some.inj (h.page.symm.trans h'.page), rfl⟩

theorem Finds.not_failsToFetch (h : Finds plan url charge) : ¬ FailsToFetch plan cause := by
  intro hfails
  cases h.fetched.symm.trans hfails.failed

theorem Finds.not_givesUp (h : Finds plan url charge) : ¬ GivesUp plan := by
  rintro (hdeadline | ⟨-, -, other, hfetched, hpage⟩)
  · exact h.itself.not_endsByDeadline hdeadline
  · obtain rfl := Except.ok.inj (h.fetched.symm.trans hfetched)
    cases h.page.symm.trans hpage

theorem FailsToFetch.not_givesUp (h : FailsToFetch plan cause) : ¬ GivesUp plan := by
  rintro (hdeadline | ⟨-, -, other, hfetched, -⟩)
  · exact h.itself.not_endsByDeadline hdeadline
  · cases h.failed.symm.trans hfetched

theorem GivesUp.not_endsByToken (h : GivesUp plan) : ¬ plan.EndsByToken := by
  intro htoken
  rcases h with hdeadline | ⟨hitself, -⟩
  · exact htoken.not_endsByDeadline hdeadline
  · exact hitself.not_endsByToken htoken

/-- **Every wait has one conclusion.** -/
theorem Concludes.unique {answer answer' : Except EngineError FollowUp}
    (h : Concludes ctx paymentId plan fetches answer)
    (h' : Concludes ctx paymentId plan fetches answer') : answer = answer' := by
  cases h with
  | approved hfinds hbank | unknown hfinds hbank =>
      cases h' with
      | approved hfinds' hbank' | unknown hfinds' hbank' =>
          obtain ⟨rfl, rfl⟩ := hfinds.unique hfinds'
          have hsame := hbank.symm.trans hbank'
          simp_all
      | failed hfails => exact (hfinds.not_failsToFetch hfails).elim
      | gaveUp hgives => exact (hfinds.not_givesUp hgives).elim
      | cancelled htoken => exact (hfinds.itself.not_endsByToken htoken).elim
  | failed hfails =>
      cases h' with
      | approved hfinds | unknown hfinds => exact (hfinds.not_failsToFetch hfails).elim
      | failed hfails' =>
          cases hfails.failed.symm.trans hfails'.failed
          rfl
      | gaveUp hgives => exact (hfails.not_givesUp hgives).elim
      | cancelled htoken => exact (hfails.itself.not_endsByToken htoken).elim
  | gaveUp hgives =>
      cases h' with
      | approved hfinds | unknown hfinds => exact (hfinds.not_givesUp hgives).elim
      | failed hfails => exact (hfails.not_givesUp hgives).elim
      | gaveUp => rfl
      | cancelled htoken => exact (hgives.not_endsByToken htoken).elim
  | cancelled htoken =>
      cases h' with
      | approved hfinds | unknown hfinds => exact (hfinds.itself.not_endsByToken htoken).elim
      | failed hfails => exact (hfails.itself.not_endsByToken htoken).elim
      | gaveUp hgives => exact (hgives.not_endsByToken htoken).elim
      | cancelled => rfl

theorem Concludes.eq_iff {answer answer' : Except EngineError FollowUp}
    (h : Concludes ctx paymentId plan fetches answer) :
    answer = answer' ↔ Concludes ctx paymentId plan fetches answer' :=
  ⟨fun hsame => hsame ▸ h, h.unique⟩

end

section

variable (ctx : EngineContext σ) (paymentId : String) (cancel : Option Duration) (w : World σ)

/-- A fetch fails by the custodian only. -/
theorem isFromCustodian_of_fetch {i : Nat} {cause : EngineError}
    (h : ((fetching ctx paymentId cancel w).call i).ended.1 = .error cause) :
    cause.isFromCustodian = true :=
  Custodian.isFromCustodian_of_reply h

/-- A call that settled nothing has brought a charge that names no page. -/
theorem exists_charge_of_not_settles {i : Nat}
    (h : (fetching ctx paymentId cancel w).settles i = false) :
    ∃ charge, ((fetching ctx paymentId cancel w).call i).ended.1 = .ok charge ∧
      charge.authorisationUrl = none := by
  unfold Poll.Plan.settles at h
  cases hended : ((fetching ctx paymentId cancel w).call i).ended.1 with
  | error => simp [hended] at h
  | ok charge =>
      refine ⟨charge, rfl, ?_⟩
      rw [hended] at h
      simpa [fetching, Poll.Plan.ofTasks, authorised] using h

/-- **What the session of fetches comes to**, by what its last fetch brought. -/
theorem result_of_itself {e : Poll.End (World σ) EngineError (String × Charge)}
    (itself : (fetching ctx paymentId cancel w).EndsItself)
    (result : e.result =
      (fetching ctx paymentId cancel w).answer (fetching ctx paymentId cancel w).last) :
    (∃ url charge, Finds (fetching ctx paymentId cancel w) url charge ∧
        e.result = .ok (url, charge)) ∨
      (∃ attempt cause, FailsToFetch (fetching ctx paymentId cancel w) cause ∧
        e.result = .error (.producer attempt cause)) ∨
      GivesUp (fetching ctx paymentId cancel w) ∧
        e.result = .error (.timedOut ((fetching ctx paymentId cancel w).last + 1)) := by
  cases hsettles : (fetching ctx paymentId cancel w).settles
      (fetching ctx paymentId cancel w).last with
  | false =>
      have hbound := Poll.Plan.last_succ_eq_bound hsettles
      have hcharge := exists_charge_of_not_settles ctx paymentId cancel w hsettles
      rw [Poll.Plan.answer_of_not_settles _ hsettles, ← hbound] at result
      exact .inr (.inr ⟨.inr ⟨itself, hbound, hcharge⟩, result⟩)
  | true =>
      unfold Poll.Plan.answer at result
      unfold Poll.Plan.settles at hsettles
      cases hended : ((fetching ctx paymentId cancel w).call
          (fetching ctx paymentId cancel w).last).ended.1 with
      | error cause =>
          rw [hended] at result
          exact .inr (.inl ⟨_, cause, ⟨itself, hended⟩, result⟩)
      | ok charge =>
          rw [hended] at result hsettles
          have hextract : (fetching ctx paymentId cancel w).extract = authorised := rfl
          rw [hextract] at result hsettles
          cases hpage : charge.authorisationUrl with
          | none => simp [authorised, hpage] at hsettles
          | some url =>
              refine .inl ⟨url, charge, ⟨itself, hended, hpage, fun i hi => ?_⟩, ?_⟩
              · exact exists_charge_of_not_settles ctx paymentId cancel w
                  ((fetching ctx paymentId cancel w).not_settles_of_lt_last hi).1
              · simpa [authorised, hpage] using result

/-- **The search for a page** fetches the charge with every attempt of the session, and comes to
the first page or to the failure of the wait. -/
theorem concludes_findPage :
    ∃ session,
      (fetching ctx paymentId cancel w).session = some session ∧
      (fetching ctx paymentId cancel w).Concludes session ∧
      ((findPage ctx paymentId cancel).run.run w).2.requests =
        w.requests ++ List.replicate session.attempts (.charge paymentId) ∧
      ((∃ url charge, Finds (fetching ctx paymentId cancel w) url charge ∧
          ((findPage ctx paymentId cancel).run.run w).1 = .ok (url, charge) ∧
          ((findPage ctx paymentId cancel).run.run w).2.backend =
            ((fetching ctx paymentId cancel w).stateAt
              ((fetching ctx paymentId cancel w).last + 1)).backend) ∨
        (∀ url charge, ¬ Finds (fetching ctx paymentId cancel w) url charge) ∧
          ∃ cause, ((findPage ctx paymentId cancel).run.run w).1 = .error cause ∧
            Concludes ctx paymentId (fetching ctx paymentId cancel w) session.attempts
              (.error cause)) := by
  obtain ⟨e, hsession, hresult, -, hbackend, hrequests⟩ := run_findPage ctx paymentId cancel w
  have hfetched : e.state.requests =
      w.requests ++ List.replicate e.attempts (.charge paymentId) := by
    obtain rfl := Option.some.inj (hsession.symm.trans (Poll.Plan.session_ofTasks ..))
    exact (since_session ctx paymentId cancel w).2.requests
  have hends := Poll.Plan.concludes_session hsession
  refine ⟨e, hsession, hends, hrequests.trans hfetched, ?_⟩
  rw [hresult, hbackend]
  cases hends with
  | token htoken hended =>
      rw [hended]
      exact .inr ⟨fun _ _ hfinds => hfinds.itself.not_endsByToken htoken, _, rfl,
        .cancelled htoken⟩
  | deadline hdeadline hended =>
      rw [hended]
      exact .inr ⟨fun _ _ hfinds => hfinds.itself.not_endsByDeadline hdeadline, _, rfl,
        .gaveUp (.inl hdeadline)⟩
  | itself hitself hanswer hattempts hstate =>
      rcases result_of_itself ctx paymentId cancel w hitself hanswer with
        ⟨url, charge, hfinds, hended⟩ | ⟨attempt, cause, hfails, hended⟩ | ⟨hgives, hended⟩
      · rw [hended, hstate]
        exact .inl ⟨url, charge, hfinds, rfl, rfl⟩
      · rw [hended]
        exact .inr ⟨fun _ _ hfinds => hfinds.not_failsToFetch hfails, _, rfl, .failed hfails⟩
      · rw [hended, ← hattempts]
        exact .inr ⟨fun _ _ hfinds => hfinds.not_givesUp hgives, _, rfl, .gaveUp hgives⟩

/-- **A wait for an approval concludes**: it fetches the charge of the payment with every
attempt, and looks up the bank once exactly if it found a page. -/
theorem concludes_awaitApproval :
    ∃ session looked,
      (fetching ctx paymentId cancel w).session = some session ∧
      (fetching ctx paymentId cancel w).Concludes session ∧
      ((awaitApproval ctx paymentId cancel).run.run w).2.requests =
        w.requests ++ List.replicate session.attempts (.charge paymentId) ++ looked ∧
      Concludes ctx paymentId (fetching ctx paymentId cancel w) session.attempts
        ((awaitApproval ctx paymentId cancel).run.run w).1 ∧
      ((∃ url charge, Finds (fetching ctx paymentId cancel w) url charge ∧
          looked = [.linkedBank charge.linkedBankId]) ∨
        (∀ url charge, ¬ Finds (fetching ctx paymentId cancel w) url charge) ∧ looked = []) := by
  obtain ⟨session, hsession, hends, hrequests, hfound⟩ :=
    concludes_findPage ctx paymentId cancel w
  rw [awaitApproval_eq, run_bind]
  generalize (findPage ctx paymentId cancel).run.run w = found at hrequests hfound ⊢
  obtain ⟨answer, after⟩ := found
  dsimp only at hrequests hfound
  rcases hfound with ⟨url, charge, hfinds, rfl, hbackend⟩ | ⟨hnone, cause, rfl, hconcludes⟩
  · -- the page was found, and the bank is looked up
    dsimp only
    rw [run_bind, EngineStep.run_ask, hbackend]
    refine ⟨session, [.linkedBank charge.linkedBankId], hsession, hends, ?_, ?_,
      .inl ⟨url, charge, hfinds, rfl⟩⟩
    · rw [← hrequests]
      cases ctx.custodian.reply ctx.deadlines (.linkedBank charge.linkedBankId)
        ((fetching ctx paymentId cancel w).stateAt _).backend <;> rfl
    · cases hreply : ctx.custodian.reply ctx.deadlines (.linkedBank charge.linkedBankId)
          ((fetching ctx paymentId cancel w).stateAt
            ((fetching ctx paymentId cancel w).last + 1)).backend with
      | ok linked => exact .approved hfinds hreply
      | error cause => exact .unknown hfinds hreply
  · refine ⟨session, [], hsession, hends, ?_, hconcludes, .inr ⟨hnone, rfl⟩⟩
    rw [List.append_nil]
    exact hrequests

end

/-- Errors that are told apart still are after they have been given a place. -/
theorem mapError_injective {ε ε' α : Type} {f : ε → ε'} (hf : Function.Injective f) :
    Function.Injective (Except.mapError f : Except ε α → Except ε' α) := by
  intro x y hsame
  cases x with
  | error cause =>
      cases y with
      | error cause' => exact congrArg Except.error (hf (Except.error.inj hsame))
      | ok => cases hsame
  | ok =>
      cases y with
      | error => cases hsame
      | ok => exact congrArg Except.ok (Except.ok.inj hsame)

/-- The answer to a follow-up of a payment tells how the wait for its approval ended. -/
structure Reports (ctx : EngineContext σ) (paymentId : String) (plan : Fetching σ)
    (fetches : Nat) (answer : Except FollowUpError FollowUp) : Prop where
  /-- An approval is what the first charge with a page and the look-up of its bank say. -/
  ok_iff : ∀ outcome, answer = .ok outcome ↔
    ∃ url charge linked, Finds plan url charge ∧ linkedBank ctx plan charge = .ok linked ∧
      outcome = .needsApproval ⟨paymentId, url, linked, charge.amount⟩
  /-- Every failure names the payment and is of one of the three kinds below. -/
  failure : ∀ failure, answer = .error failure → failure.transferId = paymentId ∧
    (failure.cause = .cancelled ∨ (∃ response, failure.cause = .invalidResponse response) ∨
      failure.cause.isFromCustodian = true)
  cancelled_iff : answer = .error ⟨paymentId, .cancelled⟩ ↔ plan.EndsByToken
  invalidResponse_iff : ∀ response, answer = .error ⟨paymentId, .invalidResponse response⟩ ↔
    response = .noAuthorisationUrl paymentId fetches ∧ GivesUp plan
  /-- What the custodian has raised is handed on as it is. -/
  custodian_iff : ∀ cause, cause.isFromCustodian = true →
    (answer = .error ⟨paymentId, cause⟩ ↔ FailsToFetch plan cause ∨
      ∃ url charge, Finds plan url charge ∧ linkedBank ctx plan charge = .error cause)

/-- A conclusion that names its payment reports how the wait ended. -/
theorem Concludes.reports {ctx : EngineContext σ} {paymentId : String} {plan : Fetching σ}
    {fetches : Nat} {answer : Except EngineError FollowUp}
    (h : Concludes ctx paymentId plan fetches answer)
    (hfetch : ∀ cause, FailsToFetch plan cause → cause.isFromCustodian = true) :
    Reports ctx paymentId plan fetches (answer.mapError fun cause => ⟨paymentId, cause⟩) := by
  have hbank : ∀ charge cause, linkedBank ctx plan charge = .error cause →
      cause.isFromCustodian = true := fun _ _ => Custodian.isFromCustodian_of_reply
  -- what is reported is what the wait concludes in, so the cases below invert a conclusion
  have hreported : ∀ answer', answer.mapError (fun cause => (⟨paymentId, cause⟩ : FollowUpError)) =
      answer'.mapError (fun cause => ⟨paymentId, cause⟩) ↔
        Concludes ctx paymentId plan fetches answer' := by
    intro answer'
    have hnames : Function.Injective fun cause => (⟨paymentId, cause⟩ : FollowUpError) :=
      fun _ _ hsame => (FollowUpError.mk.inj hsame).2
    exact (mapError_injective hnames).eq_iff.trans h.eq_iff
  constructor
  case ok_iff =>
    refine fun outcome => (hreported (.ok outcome)).trans ⟨fun happroved => ?_, ?_⟩
    · cases happroved with
      | approved hfinds hknown => exact ⟨_, _, _, hfinds, hknown, rfl⟩
    · rintro ⟨url, charge, linked, hfinds, hknown, rfl⟩
      exact .approved hfinds hknown
  case failure =>
    intro failure hanswer
    cases h with
    | approved => cases hanswer
    | unknown _ hunknown =>
        cases hanswer
        exact ⟨rfl, .inr (.inr (hbank _ _ hunknown))⟩
    | failed hfails =>
        cases hanswer
        exact ⟨rfl, .inr (.inr (hfetch _ hfails))⟩
    | gaveUp =>
        cases hanswer
        exact ⟨rfl, .inr (.inl ⟨_, rfl⟩)⟩
    | cancelled =>
        cases hanswer
        exact ⟨rfl, .inl rfl⟩
  case cancelled_iff =>
    refine (hreported (.error .cancelled)).trans ⟨fun hcancelled => ?_, .cancelled⟩
    cases hcancelled with
    | cancelled htoken => exact htoken
    | unknown _ hunknown => cases hbank _ _ hunknown
    | failed hfails => cases hfetch _ hfails
  case invalidResponse_iff =>
    refine fun response =>
      (hreported (.error (.invalidResponse response))).trans ⟨fun hinvalid => ?_, ?_⟩
    · cases hinvalid with
      | gaveUp hgives => exact ⟨rfl, hgives⟩
      | unknown _ hunknown => cases hbank _ _ hunknown
      | failed hfails => cases hfetch _ hfails
    · rintro ⟨rfl, hgives⟩
      exact .gaveUp hgives
  case custodian_iff =>
    refine fun cause hcause => (hreported (.error cause)).trans ⟨fun hraised => ?_, ?_⟩
    · cases hraised with
      | unknown hfinds hunknown => exact .inr ⟨_, _, hfinds, hunknown⟩
      | failed hfails => exact .inl hfails
      | gaveUp | cancelled => cases hcause
    · rintro (hfails | ⟨url, charge, hfinds, hunknown⟩)
      · exact .failed hfails
      · exact .unknown hfinds hunknown

end Deposit

/-- **The follow-up of a deposit**: an engine that has to wait for an approval fetches the
charge of the payment so many times, and looks up the bank once, after the first charge
that names a page.  Its answer is that approval, or the one failure that tells why there
is none, whatever the custodian does and whenever the user cancels.  Without a payment it
fails at once. -/
theorem Engine.follows_up_deposit {ctx : EngineContext σ} {e : Engine σ}
    (builtIn : e.IsBuiltIn ctx) (suits : e.checkAccounts = .ok ())
    (authorised : e.isOpenBankingDeposit = true) (p : Pending) (cancel : Option Duration)
    (w : World σ) :
    (∀ id amount, (e.followUp p (.order id amount) cancel).run.run w =
      (.error ⟨id, .precondition (.resultMustBePayment id)⟩, w)) ∧
    ∀ paymentId amount,
      let plan := Deposit.fetching ctx paymentId cancel w
      let done := (e.followUp p (.payment paymentId amount) cancel).run.run w
      ∃ session looked,
        plan.session = some session ∧ plan.Concludes session ∧
        done.2.requests =
          w.requests ++ List.replicate session.attempts (.charge paymentId) ++ looked ∧
        Deposit.Reports ctx paymentId plan session.attempts done.1 ∧
        ((∃ url charge, Deposit.Finds plan url charge ∧
            looked = [.linkedBank charge.linkedBankId]) ∨
          (∀ url charge, ¬ Deposit.Finds plan url charge) ∧ looked = []) := by
  obtain ⟨route, rfl⟩ := builtIn.exists_route suits
  rw [Route.isOpenBankingDeposit_engine] at authorised
  refine ⟨fun id amount => ?_, fun paymentId amount => ?_⟩
  · rw [Route.run_followUp_hook, (route.onFollowUp_of_isAuthorised ctx p authorised id amount _).2]
    rfl
  · dsimp only
    rw [Route.run_followUp_hook,
      (route.onFollowUp_of_isAuthorised ctx p authorised paymentId amount _).1]
    obtain ⟨session, looked, hsession, hends, hrequests, hconcludes, hlooked⟩ :=
      Deposit.concludes_awaitApproval ctx paymentId cancel w
    have hreports := hconcludes.reports fun cause hfails =>
      Deposit.isFromCustodian_of_fetch ctx paymentId cancel w hfails.failed
    exact ⟨session, looked, hsession, hends, hrequests, hreports, hlooked⟩

namespace Sample

/-- A vault that keeps a deposit of five pounds and offers its page with the second fetch. -/
def holding : Vault :=
  hesitant.holding
    { paymentId := "0"
      address := "bank"
      amount := pounds 5
      callback := some ⟨.yapily, .pay, "https://wallet.test/return"⟩ } 0

end Sample

/-- The first of three fetches brings a charge without a page, the second one a page. -/
theorem Engine.follows_up_deposit_second_fetch :
    let ctx := { Sample.context (Vault.custodian Nat.repr) with poll := ⟨3, .fixed 10, some 10⟩ }
    let w : World Vault := .start Sample.holding
    let done := (Sample.patientDeposit.followUp Sample.largestTransfer
      (.payment "0" (Sample.pounds 5)) none).run.run w
    ∃ session charge,
      (Deposit.fetching ctx "0" none w).session = some session ∧ session.attempts = 2 ∧
      Deposit.Finds (Deposit.fetching ctx "0" none w)
        "https://wallet.test/return?payment_id=0" charge ∧
      done.1 = .ok (.needsApproval
        { paymentId := "0"
          authorisationUrl := "https://wallet.test/return?payment_id=0"
          linkedBank := Sample.answer (.linkedBank "bank")
          amount := charge.amount }) := by
  intro ctx w done
  obtain ⟨-, hpayment⟩ := Engine.follows_up_deposit Sample.isBuiltIn_patientDeposit rfl
    (by decide) Sample.largestTransfer none w
  obtain ⟨session, looked, hsession, -, -, hreports, -⟩ := hpayment "0" (Sample.pounds 5)
  have happroval : done.1 = .ok (.needsApproval
      { paymentId := "0"
        authorisationUrl := "https://wallet.test/return?payment_id=0"
        linkedBank := Sample.answer (.linkedBank "bank")
        amount := Sample.pounds 5 }) := by
    decide +kernel
  obtain ⟨url, charge, linked, hfinds, -, houtcome⟩ := (hreports.ok_iff _).1 happroval
  have hattempts : (Deposit.fetching ctx "0" none w).session.map (·.attempts) = some 2 := by
    decide +kernel
  rw [hsession] at hattempts
  injection houtcome with happroved
  injection happroved with _ hurl _ hamount
  subst hurl
  exact ⟨session, charge, hsession, Option.some.inj hattempts, hfinds, hamount ▸ happroval⟩

end FiatRamp
