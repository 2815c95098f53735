import FiatRamp.Proofs.Answer
import FiatRamp.Proofs.Vetting
import FiatRamp.Proofs.Waiting

/-!
# FiatRamp.Proofs.Approval

When a deposit gets its approval.

A deposit that was confirmed passes its last validation, and a vault that accepts
it keeps it under the next id (`Flow.submitted_deposit`).  What follows is a wait
for the authorisation page, so the deposit awaits its approval exactly if the
page is offered in time (`Flow.awaits_approval_iff`).
-/

namespace FiatRamp

/-! ## Deposits that the vault accepts -/

/-- What the vault keeps of a deposit. -/
def FlowState.record (s : FlowState Vault) (ctx : EngineContext Vault) (bank : BankAccount)
    (id : String) : TransferRecord where
  paymentId := id
  address := bank.id
  amount := s.pending.amount
  callback := some (ctx.callback .yapily .pay)

/-- The request for a deposit. -/
def FlowState.transfer (s : FlowState Vault) (ctx : EngineContext Vault) (bank : BankAccount) :
    Request :=
  .startTransfer bank.id s.pending.amount s.pending.amount.currency.code
    (some (ctx.callback .yapily .pay))

namespace Sample

/-- The engine that deposits from the bank and fetches a charge up to three times within
ten nanoseconds, with as long a wait after every time. -/
def patientDeposit : Engine Vault :=
  .deposit { context (Vault.custodian Nat.repr) with poll := ⟨3, .fixed 10, some 10⟩ } bank cash

theorem isBuiltIn_patientDeposit :
    patientDeposit.IsBuiltIn
      { context (Vault.custodian Nat.repr) with poll := ⟨3, .fixed 10, some 10⟩ } :=
  ⟨bank, cash, .inl rfl⟩

/-- A vault that offers its page with the second fetch. -/
def hesitant : Vault := { vault with authoriseAfter := 2 }

end Sample

namespace Flow

section

variable {ctx : EngineContext Vault} {ids : Nat → String} {bank : BankAccount} {fiat : FiatAccount}
  {s : FlowState Vault}

/-- A vault that accepts deposits at once accepts this one under the next id. -/
theorem submitted_deposit (fiat : FiatAccount) (hctx : ctx.custodian = Vault.custodian ids)
    (hopen : bank.currency.isOpenBanking = true) (haccepts : s.world.backend.rejection = none)
    (hprompt : s.world.backend.submissionLatency = 0) :
    let id := ids s.world.backend.issued
    let route := Route.deposit bank fiat
    s.reply ctx route = .ok id ∧
      (s.submitted ctx route).backend = s.world.backend.holding (s.record ctx bank id) 0 ∧
      (s.submitted ctx route).requests = s.world.requests ++ [s.transfer ctx bank] := by
  have hrequest : ((Route.deposit bank fiat).submission ctx s.pending).request =
      s.transfer ctx bank := by
    simp [Route.submission, Submission.request, FlowState.transfer, hopen]
  have hserve : s.world.backend.serve ids (s.transfer ctx bank) =
      (.ok (ids s.world.backend.issued), s.world.backend.holding (s.record ctx bank
        (ids s.world.backend.issued)) 0) :=
    Vault.serveTransfer_eq haccepts ..
  have hask : (EngineStep.ask ctx.custodian ctx.deadlines (s.transfer ctx bank)).run.run
      (s.executing (.deposit bank fiat)).world = _ := Vault.run_ask hctx hprompt
  have hbackend : (s.executing (.deposit bank fiat)).world.backend = s.world.backend := rfl
  have hrequests : (s.executing (.deposit bank fiat)).world.requests = s.world.requests := rfl
  rw [EngineStep.run_ask, hbackend, hserve, hrequests, Prod.mk.injEq] at hask
  obtain ⟨hreply, hanswered⟩ := hask
  refine ⟨?_, ?_, ?_⟩
  · simp only [FlowState.reply, Route.submission, hopen, if_true]
    exact hreply
  · rw [FlowState.submitted, hrequest, hanswered]
    rfl
  · rw [FlowState.submitted, hrequest, hanswered]
    rfl

/-- A deposit of open banking waits for its approval. -/
theorem followed_deposit (hopen : bank.currency.isOpenBanking = true) (id : String)
    (cancel : Option Duration) :
    s.followed ctx (.deposit bank fiat) id cancel =
      (Deposit.awaitApproval ctx id cancel).run.run (s.submitted ctx (.deposit bank fiat)) := by
  have hauthorised : (Route.deposit bank fiat).isAuthorised = true := hopen
  rw [FlowState.followed, Route.followUp, if_pos hauthorised]

section

variable {v : Vault} {id : String} {attempts : Nat} {wait : Duration} {timeout : Option Duration}
  {t : FlowState Vault} {answer : Except FlowError FlowAnswer}
  (hends : Ends ctx (.deposit bank fiat) s (.execute none) answer t)
  (hopen : bank.currency.isOpenBanking = true) (hconfirmed : s.pending.stage = .confirmed)
  (hassess : (Route.deposit bank fiat).assess s.pending = .ok .canExecute)
  (hreply : s.reply ctx (.deposit bank fiat) = .ok id)
  (hawaits : Deposit.Awaits ctx v (s.record ctx bank id) (ctx.callback .yapily .pay) attempts wait
    timeout (s.submitted ctx (.deposit bank fiat)))

include hends hopen hconfirmed hassess hreply hawaits

/-- A deposit whose page is offered in time awaits its approval. -/
theorem Ends.of_timely (htimely : Deposit.Timely v attempts wait timeout) {linked : LinkedBank}
    (hknown : v.banks.lookup bank.id = some linked) :
    t.pending.stage = .awaitingApproval ∧
      answer = .ok (.outcome (.awaitingApproval (.payment id s.pending.amount)
        { paymentId := id
          authorisationUrl := (ctx.callback .yapily .pay).redirectUrl ++ "?payment_id=" ++ id
          linkedBank := linked
          amount := s.pending.amount })) ∧
      t.world.backend = v.holding (s.record ctx bank id) (Deposit.needed v) ∧
      t.world.requests = (s.submitted ctx (.deposit bank fiat)).requests ++
        List.replicate (Deposit.needed v) (.charge id) ++ [.linkedBank bank.id] := by
  obtain ⟨happroval, hholds, hasked⟩ := hawaits.run_awaitApproval_of_timely htimely hknown
  have hdone := hends.of_passing hconfirmed hassess
  rw [hreply] at hdone
  dsimp only at hdone
  rw [followed_deposit hopen] at hdone
  change ((Deposit.awaitApproval ctx id none).run.run _).1 = _ at happroval
  simp only [happroval] at hdone
  obtain ⟨rfl, rfl⟩ := hdone
  exact ⟨rfl, rfl, hholds, hasked⟩

/-- A deposit whose page is not offered in time fails. -/
theorem Ends.of_late (hlate : ¬ Deposit.Timely v attempts wait timeout) :
    let fetches := Deposit.patience attempts wait timeout
    t.pending.stage = .failed ∧
      answer = .error
        (.postSubmission ⟨id, .invalidResponse (.noAuthorisationUrl id fetches)⟩) ∧
      t.world.backend = v.holding (s.record ctx bank id) fetches ∧
      t.world.requests = (s.submitted ctx (.deposit bank fiat)).requests ++
        List.replicate fetches (.charge id) := by
  obtain ⟨hfailure, hholds, hasked⟩ := hawaits.run_awaitApproval_of_late hlate
  have hdone := hends.of_passing hconfirmed hassess
  rw [hreply] at hdone
  dsimp only at hdone
  rw [followed_deposit hopen] at hdone
  change ((Deposit.awaitApproval ctx id none).run.run _).1 = _ at hfailure
  simp only [hfailure] at hdone
  obtain ⟨rfl, rfl⟩ := hdone
  exact ⟨rfl, rfl, hholds, hasked⟩

end

/-- **When a deposit gets its approval**: a confirmed deposit in a currency of open
banking, with a vault that accepts it at once and knows its bank, awaits its approval
exactly if the charge can be fetched often enough within the attempts and the time.
It was then fetched just as often as needed, and the approval is that of the transfer
the vault keeps; otherwise the flow has failed after the last fetch there was time for. -/
theorem awaits_approval_iff {attempts : Nat} {wait : Duration} {timeout : Option Duration}
    (kept : ctx.custodian = Vault.custodian ids)
    (bounds : ctx.poll = ⟨attempts, .fixed wait, timeout⟩) (positive : 1 ≤ attempts)
    (openBanking : bank.currency.isOpenBanking = true) {w₀ : World Vault} {p₀ : Pending}
    {history : List FlowEvent}
    (h : History (.deposit ctx (.bank bank) (.fiat fiat)) w₀ p₀ history s)
    (confirmed : s.pending.stage = .confirmed) (accepts : s.world.backend.rejection = none)
    (prompt : s.world.backend.submissionLatency = 0) (linked : LinkedBank)
    (source : linked.id = bank.id)
    (known : s.world.backend.banks.lookup linked.id = some linked)
    (fresh : s.world.backend.Lacks (ids s.world.backend.issued)) :
    let v := s.world.backend
    let id := ids v.issued
    let needed := max 1 v.authoriseAfter.toNat
    let late := Deposit.patience attempts wait timeout
    let done := (FlowCall.execute none).apply (.deposit ctx (.bank bank) (.fiat fiat)) s
    (done.2.pending.stage = .awaitingApproval ↔
      needed ≤ attempts ∧ ∀ limit ∈ timeout, (needed - 1) * wait ≤ limit) ∧
    (done.2.pending.stage = .awaitingApproval →
      done.1 = .ok (.outcome (.awaitingApproval (.payment id s.pending.amount)
        { paymentId := id
          authorisationUrl := (ctx.callback .yapily .pay).redirectUrl ++ "?payment_id=" ++ id
          linkedBank := linked
          amount := s.pending.amount })) ∧
      done.2.world.backend = v.holding (s.record ctx bank id) needed ∧
      done.2.world.requests = s.world.requests ++ [s.transfer ctx bank] ++
        List.replicate needed (.charge id) ++ [.linkedBank bank.id]) ∧
    (done.2.pending.stage ≠ .awaitingApproval →
      done.1 = .error (.postSubmission ⟨id, .invalidResponse (.noAuthorisationUrl id late)⟩) ∧
      done.2.pending.stage = .failed ∧
      done.2.world.backend = v.holding (s.record ctx bank id) late ∧
      done.2.world.requests = s.world.requests ++ [s.transfer ctx bank] ++
        List.replicate late (.charge id)) := by
  have hvetted : Vetted (.deposit bank fiat) p₀ history s.pending := History.vetted h
  have hassess := hvetted.assessed (by simp [confirmed])
  have hends : Ends ctx (.deposit bank fiat) s (.execute none) _ _ :=
    ends_apply ctx (.deposit bank fiat) s (.execute none)
  obtain ⟨hreply, hbackend, hrequests⟩ :=
    submitted_deposit fiat kept openBanking accepts prompt
  have hawaits : Deposit.Awaits ctx s.world.backend (s.record ctx bank (ids s.world.backend.issued))
      (ctx.callback .yapily .pay) attempts wait timeout (s.submitted ctx (.deposit bank fiat)) :=
    ⟨⟨ids, kept⟩, bounds, positive, fresh, rfl, hbackend⟩
  rw [source] at known
  by_cases htimely : Deposit.Timely s.world.backend attempts wait timeout
  · obtain ⟨hstage, hanswer, hholds, hasked⟩ :=
      hends.of_timely openBanking confirmed hassess hreply hawaits htimely known
    rw [hrequests] at hasked
    exact ⟨⟨fun _ => htimely, fun _ => hstage⟩, fun _ => ⟨hanswer, hholds, hasked⟩,
      fun hnot => (hnot hstage).elim⟩
  · obtain ⟨hstage, hanswer, hholds, hasked⟩ :=
      hends.of_late openBanking confirmed hassess hreply hawaits htimely
    rw [hrequests] at hasked
    refine ⟨⟨fun hstill => ?_, fun hle => (htimely hle).elim⟩, fun hstill => ?_,
      fun _ => ⟨hanswer, hstage, hholds, hasked⟩⟩
    · cases hstage.symm.trans hstill
    · cases hstage.symm.trans hstill

/-- The approval comes with the second of three fetches, for which there is just time. -/
theorem awaits_approval_iff_second_fetch :
    ∃ p₀ history s,
      History Sample.patientDeposit (.start Sample.hesitant) p₀ history s ∧
        s.pending.stage = .confirmed ∧
        let t := ((FlowCall.execute none).apply Sample.patientDeposit s).2
        t.pending.stage = .awaitingApproval ∧ t.world.backend.chargeFetches = 2 := by
  have hstart : start Sample.patientDeposit (.start Sample.hesitant) = (.ok _, _) := rfl
  have hhistory := history_drive hstart Sample.confirming
  obtain ⟨hiff, happroved, -⟩ := awaits_approval_iff rfl rfl (by decide) (by decide) hhistory
    (by decide +kernel) (by decide +kernel) (by decide +kernel)
    (Sample.answer (.linkedBank "bank")) rfl (by decide +kernel)
    (by unfold Vault.Lacks; decide +kernel)
  have hstage := hiff.mpr ⟨by decide +kernel, by decide +kernel⟩
  have hfetches := congrArg Vault.chargeFetches (happroved hstage).2.1
  exact ⟨_, _, _, hhistory, by decide +kernel, hstage, hfetches.trans (by decide +kernel)⟩

end

end Flow

end FiatRamp
