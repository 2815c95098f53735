import FiatRamp.Custodian.Vault
import FiatRamp.Engine.Deposit
import FiatRamp.Proofs.Timeline

/-!
# FiatRamp.Proofs.Waiting

Waiting for the authorisation page of a transfer that the vault keeps.

The vault offers the page once the charge has been fetched often enough
(`Vault.serveCharge_holding`), and a session fetches it again and again with the
same wait in between.  Fetches take no time, so the session ends with the page
exactly if that often is within the attempts and the waits within the time
(`Deposit.Awaits.waited`); otherwise it ends after the last fetch there was time
for.
-/

namespace FiatRamp

/-! ## A vault that holds a transfer -/

namespace Vault

/-- The vault once it has accepted a transfer whose charge was then fetched so often. -/
def holding (v : Vault) (record : TransferRecord) (fetches : Nat) : Vault :=
  { v with
    transfers := v.transfers ++ [(record, .ofNat fetches)]
    chargeFetches := v.chargeFetches + .ofNat fetches
    issued := v.issued + 1 }

/-- No transfer in the vault has this id. -/
def Lacks (v : Vault) (id : String) : Prop := ∀ entry ∈ v.transfers, entry.1.paymentId ≠ id

/-- The charge of a transfer that asks the user, fetched for the `fetches`-th time. -/
def chargeOf (v : Vault) (record : TransferRecord) (callback : Callback) (fetches : Nat) :
    Charge where
  paymentId := record.paymentId
  linkedBankId := record.address
  amount := record.amount
  authorisationUrl :=
    if v.authoriseAfter ≤ .ofNat fetches then
      some (callback.redirectUrl ++ "?payment_id=" ++ record.paymentId)
    else none

theorem serveTransfer_eq {v : Vault} (h : v.rejection = none) (id address : String)
    (amount : Money) (callback : Option Callback) :
    v.serveTransfer id address amount amount.currency.code callback =
      (.ok id, v.holding ⟨id, address, amount, callback⟩ 0) := by
  simp [serveTransfer, h, holding]

/-- Fetching the charge once more. -/
theorem serveCharge_holding {v : Vault} {record : TransferRecord} {callback : Callback}
    (hlacks : v.Lacks record.paymentId) (hcallback : record.callback = some callback)
    (fetches : Nat) :
    (v.holding record fetches).serveCharge record.paymentId =
      (.ok (v.chargeOf record callback (fetches + 1)), v.holding record (fetches + 1)) := by
  have hfound : (v.holding record fetches).transfers.find? (·.1.paymentId == record.paymentId) =
      some (record, .ofNat fetches) := by
    rw [holding, List.find?_append, List.find?_eq_none.mpr (by simpa [Lacks] using hlacks)]
    simp
  have hothers : v.transfers.map (fun entry =>
      if entry.1.paymentId = record.paymentId then (entry.1, .ofNat fetches + 1) else entry) =
        v.transfers := by
    refine (List.map_congr_left fun entry hentry => ?_).trans (List.map_id _)
    exact if_neg (hlacks entry hentry)
  unfold serveCharge chargeOf
  simp only [hfound, hcallback]
  simp only [holding, List.map_append, hothers, List.map_singleton, if_true, UInt32.ofNat_add,
    UInt32.ofNat_one, UInt32.add_assoc]
  rfl

/-- A request the vault answers at once is answered within every deadline. -/
theorem within_custodian {v : Vault} {request : Request} (h : v.latency request = 0)
    (ids : Nat → String) (limit : Duration) :
    (custodian ids request v).within limit =
      ⟨v, 0, (some (v.serve ids request).1, (v.serve ids request).2)⟩ := by
  simp [Work.within, custodian, h]

/-- The vault answers at once. -/
theorem run_ask {ctx : EngineContext Vault} {ids : Nat → String} {w : World Vault}
    {request : Request} (hctx : ctx.custodian = custodian ids)
    (h : w.backend.latency request = 0) :
    (EngineStep.ask ctx.custodian ctx.deadlines request).run.run w =
      ((w.backend.serve ids request).1.mapError .provider,
        { w with
          backend := (w.backend.serve ids request).2
          requests := w.requests ++ [request] }) := by
  rw [EngineStep.run_ask, Custodian.reply, World.answered, hctx, within_custodian h]
  cases (w.backend.serve ids request).1 <;> rfl

end Vault

/-! ## Waiting for the page -/

namespace World

/-- The world once the charge of a transfer the vault holds was fetched so often. -/
def fetching (w : World Vault) (v : Vault) (record : TransferRecord) (fetches : Nat) :
    World Vault :=
  { w with
    backend := v.holding record fetches
    requests := w.requests ++ List.replicate fetches (.charge record.paymentId) }

end World

namespace Deposit

/-- How often the charge of a transfer has to be fetched. -/
def needed (v : Vault) : Nat := max 1 v.authoriseAfter.toNat

/-- No more often than is counted without starting over. -/
theorem needed_lt (v : Vault) : needed v < 2 ^ 32 := by
  have hword := v.authoriseAfter.toNat_lt
  unfold needed
  omega

/-- How often a charge is fetched in vain, `wait` after every time: up to the bound, as
long as there is time. -/
def patience (attempts : Nat) (wait : Duration) : Option Duration → Nat
  | none => attempts
  | some timeout => if wait = 0 then attempts else min attempts (timeout / wait + 1)

/-- A charge is enough once it was fetched often enough. -/
theorem authorised_chargeOf (v : Vault) (record : TransferRecord) (callback : Callback)
    {fetches : Nat} (hword : fetches < 2 ^ 32) :
    authorised (v.chargeOf record callback fetches) =
      if v.authoriseAfter.toNat ≤ fetches then
        some (callback.redirectUrl ++ "?payment_id=" ++ record.paymentId,
          v.chargeOf record callback fetches)
      else none := by
  simp only [← UInt32.le_ofNat_iff hword, authorised, Vault.chargeOf]
  split <;> rfl

/-- The session that waits for the page of a payment, and is not cancelled. -/
def waiting (ctx : EngineContext σ) (paymentId : String) (w : World σ) :
    Poll.Plan (World σ) EngineError Charge (String × Charge) :=
  .ofTasks ctx.poll ctx.draw (fetchCharge ctx paymentId) authorised none w

/-- A session waits for the page of a transfer the vault has just accepted, with the
same wait after every attempt. -/
structure Awaits (ctx : EngineContext Vault) (v : Vault) (record : TransferRecord)
    (callback : Callback) (attempts : Nat) (wait : Duration) (timeout : Option Duration)
    (w : World Vault) : Prop where
  custodian : ∃ ids, ctx.custodian = Vault.custodian ids
  poll : ctx.poll = ⟨attempts, .fixed wait, timeout⟩
  positive : 1 ≤ attempts
  lacks : v.Lacks record.paymentId
  callback : record.callback = some callback
  holds : w.backend = v.holding record 0

section

variable {ctx : EngineContext Vault} {v : Vault} {record : TransferRecord} {callback : Callback}
  {attempts : Nat} {wait : Duration} {timeout : Option Duration} {w : World Vault}

/-- The page is offered within the attempts and the time. -/
def Timely (v : Vault) (attempts : Nat) (wait : Duration) (timeout : Option Duration) : Prop :=
  needed v ≤ attempts ∧ ∀ limit ∈ timeout, (needed v - 1) * wait ≤ limit

/-- How the session ends. -/
inductive Waited (v : Vault) (record : TransferRecord) (callback : Callback) (attempts : Nat)
    (wait : Duration) (timeout : Option Duration) (w : World Vault) :
    Poll.End (World Vault) EngineError (String × Charge) → Prop
  | offered {time : Duration} (timely : Timely v attempts wait timeout) :
      Waited v record callback attempts wait timeout w
        ⟨.ok (callback.redirectUrl ++ "?payment_id=" ++ record.paymentId,
            v.chargeOf record callback (needed v)),
          needed v, time, w.fetching v record (needed v)⟩
  | inVain {time : Duration} {fetches : Nat} (late : ¬ Timely v attempts wait timeout)
      (often : fetches = patience attempts wait timeout) :
      Waited v record callback attempts wait timeout w
        ⟨.error (.timedOut fetches), fetches, time, w.fetching v record fetches⟩

/-- With time for every attempt, every attempt is made. -/
theorem patience_eq_attempts (hpositive : 1 ≤ attempts)
    (h : ∀ limit ∈ timeout, (attempts - 1) * wait ≤ limit) :
    patience attempts wait timeout = attempts := by
  cases timeout with
  | none => rfl
  | some limit =>
      by_cases hwait : wait = 0
      · rw [patience, if_pos hwait]
      · have hdiv := (Nat.le_div_iff_mul_le (Nat.pos_of_ne_zero hwait)).mpr (h limit rfl)
        rw [patience, if_neg hwait]
        omega

/-- Otherwise the attempts that start in time are made. -/
theorem patience_eq_succ {limit : Duration} {i : Nat} (hstart : i * wait ≤ limit)
    (hnext : limit < (i + 1) * wait) (hleft : i + 1 ≤ attempts) :
    patience attempts wait (some limit) = i + 1 := by
  have hwait : wait ≠ 0 := by
    rintro rfl
    simp at hnext
  have hdiv : limit / wait = i := Nat.div_eq_of_lt_le hstart hnext
  rw [patience, if_neg hwait, hdiv]
  exact min_eq_right hleft

variable (h : Awaits ctx v record callback attempts wait timeout w)

include h

/-- Fetching the charge of the transfer once more. -/
theorem Awaits.fetchCharge (fetches : Nat) :
    let task := Deposit.fetchCharge ctx record.paymentId (w.fetching v record fetches)
    task.takes = 0 ∧ task.ended =
      (.ok (v.chargeOf record callback (fetches + 1)), w.fetching v record (fetches + 1)) := by
  obtain ⟨ids, hctx⟩ := h.custodian
  have hserve := Vault.serveCharge_holding h.lacks h.callback fetches
  have hlatency : (v.holding record fetches).latency (.charge record.paymentId) = 0 := rfl
  have hwithin := Vault.within_custodian hlatency ids (ctx.deadlines.of (.charge record.paymentId))
  unfold Deposit.fetchCharge World.ask
  rw [hctx]
  simp only [World.fetching, hwithin, Vault.serve, hserve]
  simp [List.replicate_succ']

theorem Awaits.stateAt (i : Nat) :
    (waiting ctx record.paymentId w).stateAt i = w.fetching v record i := by
  induction i with
  | zero =>
      have hholds := h.holds
      cases w
      subst hholds
      simp [World.fetching, waiting, Poll.Plan.ofTasks, Poll.Plan.stateAt]
  | succ i ih =>
      rw [Poll.Plan.stateAt, ih]
      exact congrArg Prod.snd (h.fetchCharge i).2

theorem Awaits.call (i : Nat) :
    ((waiting ctx record.paymentId w).call i).takes = some 0 ∧
      ((waiting ctx record.paymentId w).call i).ended.1 =
        .ok (v.chargeOf record callback (i + 1)) := by
  rw [Poll.Plan.call, h.stateAt]
  exact ⟨congrArg some (h.fetchCharge i).1, congrArg Prod.fst (h.fetchCharge i).2⟩

theorem Awaits.settles_iff {i : Nat} (hword : i + 1 < 2 ^ 32) :
    (waiting ctx record.paymentId w).settles i = true ↔ v.authoriseAfter.toNat ≤ i + 1 := by
  have hextract : (waiting ctx record.paymentId w).extract = authorised := rfl
  rw [Poll.Plan.settles, (h.call i).2]
  simp only [hextract, authorised_chargeOf v record callback hword]
  by_cases hoffered : v.authoriseAfter.toNat ≤ i + 1 <;> simp [hoffered]

theorem Awaits.bound :
    (waiting ctx record.paymentId w).bound = attempts := by
  have hpositive := h.positive
  simp only [Poll.Plan.bound, waiting, Poll.Plan.ofTasks, h.poll]
  omega

theorem Awaits.answer {i : Nat} (hword : i + 1 < 2 ^ 32) :
    (waiting ctx record.paymentId w).answer i =
      if v.authoriseAfter.toNat ≤ i + 1 then
        .ok (callback.redirectUrl ++ "?payment_id=" ++ record.paymentId,
          v.chargeOf record callback (i + 1))
      else .error (.timedOut attempts) := by
  have hextract : (waiting ctx record.paymentId w).extract = authorised := rfl
  rw [Poll.Plan.answer, (h.call i).2, h.bound]
  simp only [hextract, authorised_chargeOf v record callback hword]
  by_cases hoffered : v.authoriseAfter.toNat ≤ i + 1 <;> simp [hoffered]

/-- Nothing is fetched once it was fetched often enough. -/
theorem Awaits.last_lt : (waiting ctx record.paymentId w).last < needed v := by
  by_contra hmore
  have hneeded : needed v - 1 + 1 = needed v := Nat.sub_add_cancel (le_max_left ..)
  have hbefore := (waiting ctx record.paymentId w).not_settles_of_lt_last
    (i := needed v - 1) (by omega)
  rw [← Bool.not_eq_true, h.settles_iff (hneeded ▸ needed_lt v), hneeded] at hbefore
  exact hbefore.1 (le_max_right ..)

/-- The last call is the one that gets the page, or the last attempt. -/
theorem Awaits.last :
    (waiting ctx record.paymentId w).last + 1 = min (needed v) attempts := by
  have hlast := h.last_lt
  have hword := needed_lt v
  have hover := Nat.find_spec (waiting ctx record.paymentId w).exists_last
  rw [← Poll.Plan.last, h.settles_iff (by omega), h.bound] at hover
  have hbefore := Poll.Plan.not_settles_of_lt_last (waiting ctx record.paymentId w)
    (i := (waiting ctx record.paymentId w).last - 1)
  rw [← Bool.not_eq_true, h.settles_iff (by omega), h.bound] at hbefore
  have hpositive := h.positive
  unfold needed at hlast ⊢
  omega

/-- Fetches take no time, so only the waits count. -/
theorem Awaits.starts (i : Nat) :
    (waiting ctx record.paymentId w).starts i = (i * wait : Nat) := by
  induction i with
  | zero => simp [Poll.Plan.starts]
  | succ i ih =>
      have hwait : (waiting ctx record.paymentId w).wait i = wait := by
        simp only [Poll.Plan.wait, waiting, Poll.Plan.ofTasks, h.poll]
        rfl
      rw [Poll.Plan.starts, ih, (h.call i).1, hwait, Nat.succ_mul]
      simp

theorem Awaits.finishes (i : Nat) :
    (waiting ctx record.paymentId w).finishes i = (i * wait : Nat) := by
  rw [Poll.Plan.finishes, h.starts, (h.call i).1]
  simp

/-- If there is time for the last call, the wait ends with that. -/
theorem Awaits.waited_of_settled {time : Duration}
    (hbefore : ∀ limit ∈ timeout, (waiting ctx record.paymentId w).last * wait ≤ limit) :
    Waited v record callback attempts wait timeout w
      ⟨(waiting ctx record.paymentId w).answer (waiting ctx record.paymentId w).last,
        (waiting ctx record.paymentId w).last + 1, time,
        (waiting ctx record.paymentId w).stateAt
          ((waiting ctx record.paymentId w).last + 1)⟩ := by
  have hlast := h.last
  have hpositive := h.positive
  rw [h.answer (Nat.lt_of_le_of_lt h.last_lt (needed_lt v)), h.stateAt]
  generalize (waiting ctx record.paymentId w).last = last at hlast hbefore ⊢
  by_cases hoffered : v.authoriseAfter.toNat ≤ last + 1
  · have hneeded : last + 1 = needed v := by
      unfold needed at hlast ⊢
      omega
    have htimely : Timely v attempts wait timeout := by
      refine ⟨by omega, ?_⟩
      rwa [← hneeded, Nat.add_sub_cancel]
    rw [if_pos hoffered, hneeded]
    exact .offered htimely
  · have hattempts : last + 1 = attempts := by
      unfold needed at hlast
      omega
    have hlate : ¬ Timely v attempts wait timeout := by
      rintro ⟨hle, -⟩
      unfold needed at hle
      omega
    have hpatience : patience attempts wait timeout = attempts := by
      refine patience_eq_attempts hpositive ?_
      rwa [← hattempts, Nat.add_sub_cancel]
    rw [if_neg hoffered, hattempts]
    exact .inVain hlate hpatience.symm

/-- **The wait ends with the page exactly if that is offered in time.** -/
theorem Awaits.waited :
    Waited v record callback attempts wait timeout w
      (Poll.runTasks ctx.poll ctx.draw (Deposit.fetchCharge ctx record.paymentId) authorised none
        w) := by
  have hending : (waiting ctx record.paymentId w).ending =
      ((waiting ctx record.paymentId w).last * wait : Nat) := h.finishes _
  have hdeadline : (waiting ctx record.paymentId w).deadline = Poll.instant timeout := by
    simp only [Poll.Plan.deadline, waiting, Poll.Plan.ofTasks, h.poll]
  have hsession : (waiting ctx record.paymentId w).session = some (Poll.runTasks ctx.poll
      ctx.draw (Deposit.fetchCharge ctx record.paymentId) authorised none w) :=
    Poll.Plan.session_ofTasks ..
  obtain ⟨i, now, s, hmakes, hstops⟩ : ∃ i now s,
      (waiting ctx record.paymentId w).Makes i now s ∧
        (waiting ctx record.paymentId w).Stops i
          (waiting ctx record.paymentId w).session := Poll.Plan.exists_stops rfl
  rw [hsession] at hstops
  generalize Poll.runTasks ctx.poll ctx.draw (Deposit.fetchCharge ctx record.paymentId) authorised
    none w = session at hstops ⊢
  cases hstops with
  | settled heq _ hbefore =>
      subst heq
      rw [hending, hdeadline, Poll.coe_le_instant_iff] at hbefore
      exact h.waited_of_settled hbefore
  | @timedOut time htime hbefore hnext _ =>
      have hlast := h.last
      have hnow := hmakes.onTime.deadline
      rw [← hmakes.onTime.start, h.starts] at hnow
      rw [if_pos (by rwa [h.finishes]), h.stateAt]
      rw [htime, Nat.cast_le] at hnow
      rw [htime, hending, Nat.cast_lt] at hbefore
      rw [htime, h.starts, Nat.cast_lt] at hnext
      rw [hdeadline, Poll.instant_eq_coe_iff] at htime
      subst htime
      have hi := Nat.lt_of_mul_lt_mul_right (hnow.trans_lt hbefore)
      refine .inVain ?_ (patience_eq_succ hnow hnext (by omega)).symm
      -- the page would have been offered with the last call, but there was no time for it
      rintro ⟨hle, hlimit⟩
      have hneeded : (waiting ctx record.paymentId w).last = needed v - 1 := by omega
      rw [hneeded] at hbefore
      exact Nat.not_le_of_lt hbefore (hlimit time rfl)
  | cancelled htime => exact (ENat.natCast_ne_top _ htime.symm).elim

/-- In time, the page and the bank are handed on. -/
theorem Awaits.run_awaitApproval_of_timely (htimely : Timely v attempts wait timeout)
    {bank : LinkedBank} (hbank : v.banks.lookup record.address = some bank) :
    let done := (awaitApproval ctx record.paymentId none).run.run w
    done.1 = .ok (.needsApproval
        { paymentId := record.paymentId
          authorisationUrl := callback.redirectUrl ++ "?payment_id=" ++ record.paymentId
          linkedBank := bank
          amount := record.amount }) ∧
      done.2.backend = v.holding record (needed v) ∧
      done.2.requests = w.requests ++ List.replicate (needed v) (.charge record.paymentId) ++
        [.linkedBank record.address] := by
  have hwaited := h.waited
  rw [awaitApproval, run_bind, EngineStep.run_poll, Option.map_none]
  generalize Poll.runTasks ctx.poll ctx.draw (Deposit.fetchCharge ctx record.paymentId) authorised
    none w = session at hwaited ⊢
  cases hwaited with
  | inVain late => exact (late htimely).elim
  | @offered time =>
      obtain ⟨ids, hctx⟩ := h.custodian
      have hserve : (v.holding record (needed v)).serveBank record.address = .ok bank := by
        simp [Vault.serveBank, Vault.holding, hbank]
      dsimp only [Poll.End.outcome?, Except.mapError]
      rw [run_bind, EngineStep.run_ofExcept]
      dsimp only
      rw [run_bind, Vault.run_ask hctx rfl]
      simp only [Vault.serve, Vault.chargeOf, World.backend_record, World.fetching, hserve]
      exact ⟨rfl, rfl, rfl⟩

/-- Too late, only the attempts are told. -/
theorem Awaits.run_awaitApproval_of_late (hlate : ¬ Timely v attempts wait timeout) :
    let done := (awaitApproval ctx record.paymentId none).run.run w
    let fetches := patience attempts wait timeout
    done.1 = .error (.invalidResponse (.noAuthorisationUrl record.paymentId fetches)) ∧
      done.2.backend = v.holding record fetches ∧
      done.2.requests = w.requests ++ List.replicate fetches (.charge record.paymentId) := by
  have hwaited := h.waited
  rw [awaitApproval, run_bind, EngineStep.run_poll, Option.map_none]
  generalize Poll.runTasks ctx.poll ctx.draw (Deposit.fetchCharge ctx record.paymentId) authorised
    none w = session at hwaited ⊢
  cases hwaited with
  | offered timely => exact (hlate timely).elim
  | inVain _ often =>
      subst often
      exact ⟨rfl, rfl, rfl⟩

end

end Deposit

end FiatRamp
