import FiatRamp.Custodian.Vault
import Mathlib.Algebra.Group.Nat.Defs
import Mathlib.Data.List.Nodup
import Mathlib.Data.List.Basic
import Mathlib.Tactic.Common

/-!
# FiatRamp.Proofs.Payments

Payments that share a vault.

A vault serves the requests of any number of callers, one after the other
(`Vault.Run`), each in one of a few ways (`Vault.Serves`).  What it keeps is
fixed by the log of what it has served (`Vault.Recorded`), and what it tells of
a payment by that payment alone, so no payment notices another one
(`Vault.payments_stay_apart`).
-/

namespace FiatRamp

/-- The charge of a transfer, fetched for the `fetches`-th time.  It offers the
authorisation page, if there is one, from the `authoriseAfter`-th time on. -/
def TransferRecord.charge (record : TransferRecord) (authoriseAfter fetches : UInt32) :
    Charge where
  paymentId := record.paymentId
  linkedBankId := record.address
  amount := record.amount
  authorisationUrl :=
    if authoriseAfter ≤ fetches then
      record.callback.map (·.redirectUrl ++ "?payment_id=" ++ record.paymentId)
    else none

/-- A charge offers a page exactly if the transfer has one and was fetched often enough. -/
theorem TransferRecord.isSome_authorisationUrl_charge (record : TransferRecord)
    (authoriseAfter : UInt32) {fetches : Nat} (hword : fetches < 2 ^ 32) :
    (record.charge authoriseAfter (.ofNat fetches)).authorisationUrl.isSome = true ↔
      record.callback.isSome = true ∧ authoriseAfter.toNat ≤ fetches := by
  rw [← UInt32.le_ofNat_iff hword]
  unfold charge
  by_cases hoften : authoriseAfter ≤ .ofNat fetches <;> simp [hoften]

/-- A page that is offered is still offered when more fetches are counted. -/
theorem TransferRecord.authorisationUrl_charge_mono {record : TransferRecord}
    {authoriseAfter : UInt32} {fetches later : Nat} {url : String} (hle : fetches ≤ later)
    (hword : later < 2 ^ 32)
    (h : (record.charge authoriseAfter (.ofNat fetches)).authorisationUrl = some url) :
    (record.charge authoriseAfter (.ofNat later)).authorisationUrl = some url := by
  have hmore : UInt32.ofNat fetches ≤ .ofNat later :=
    (UInt32.ofNat_le_iff_le (Nat.lt_of_le_of_lt hle hword) hword).2 hle
  unfold charge at h ⊢
  dsimp only at h ⊢
  split at h
  · next hoften => rwa [if_pos (UInt32.le_trans hoften hmore)]
  · cases h

namespace Vault

/-! ## Runs -/

/-- A request that was served, and its answer. -/
structure Event where
  request : Request
  answer : Except ProviderError request.Answer

namespace Event

/-- The transfer that was accepted. -/
def transfer? : Event → Option TransferRecord
  | ⟨.startTransfer address amount _ callback, .ok id⟩ => some ⟨id, address, amount, callback⟩
  | _ => none

/-- The order that was accepted. -/
def order? : Event → Option OrderRecord
  | ⟨.withdraw bankId amount, .ok id⟩ => some ⟨id, bankId, amount⟩
  | _ => none

theorem transfer?_error (request : Request) (cause : ProviderError) :
    transfer? ⟨request, .error cause⟩ = none := by
  cases request <;> rfl

theorem order?_error (request : Request) (cause : ProviderError) :
    order? ⟨request, .error cause⟩ = none := by
  cases request <;> rfl

theorem transfer?_of_quiet {event : Event} (h : event.request.isSubmission = false) :
    event.transfer? = none := by
  obtain ⟨request, answer⟩ := event
  cases request <;> first | rfl | cases h

theorem order?_of_quiet {event : Event} (h : event.request.isSubmission = false) :
    event.order? = none := by
  obtain ⟨request, answer⟩ := event
  cases request <;> first | rfl | cases h

end Event

/-- A vault serves requests, and this is the log of them.  They may come from any number
of callers.  However long they take, each acts on the vault at one moment, its turn, and
the log has them in the order of their turns. -/
inductive Run (ids : Nat → String) (v₀ : Vault) : List Event → Vault → Prop
  | refl : Run ids v₀ [] v₀
  | serve {log : List Event} {v : Vault} (run : Run ids v₀ log v) (request : Request) :
      Run ids v₀ (log ++ [⟨request, (custodian ids request v).ended.1⟩])
        (custodian ids request v).ended.2
  /-- A caller gives up before its turn comes. -/
  | cutOff {log : List Event} {v : Vault} (run : Run ids v₀ log v) (request : Request) :
      Run ids v₀ log (custodian ids request v).started

/-- The ways in which a request can be served. -/
inductive Serves (ids : Nat → String) (v : Vault) : Event → Vault → Prop
  | transferred {address : String} {amount : Money} {code : String} {callback : Option Callback} :
      Serves ids v ⟨.startTransfer address amount code callback, .ok (ids v.issued)⟩
        { v with
          transfers := v.transfers ++ [(⟨ids v.issued, address, amount, callback⟩, 0)]
          issued := v.issued + 1 }
  | ordered {bankId : String} {amount : Money} :
      Serves ids v ⟨.withdraw bankId amount, .ok (ids v.issued)⟩
        { v with
          orders := v.orders ++ [⟨ids v.issued, bankId, amount⟩]
          issued := v.issued + 1 }
  /-- A submission is refused and changes nothing. -/
  | refused {request : Request} {cause : ProviderError} (submits : request.isSubmission = true) :
      Serves ids v ⟨request, .error cause⟩ v
  | fetched {record : TransferRecord} {fetches : UInt32}
      (found : v.transfers.find? (·.1.paymentId == record.paymentId) = some (record, fetches)) :
      Serves ids v
        ⟨.charge record.paymentId, .ok (record.charge v.authoriseAfter (fetches + 1))⟩
        { v with
          chargeFetches := v.chargeFetches + 1
          transfers := v.transfers.map fun entry =>
            if entry.1.paymentId = record.paymentId then (entry.1, fetches + 1) else entry }
  /-- There is no charge, and only the fetch is counted. -/
  | unknown {id : String} (lacks : ∀ entry ∈ v.transfers, entry.1.paymentId ≠ id) :
      Serves ids v ⟨.charge id, .error (.notFound "charge" id)⟩
        { v with chargeFetches := v.chargeFetches + 1 }
  /-- Something is looked up, which at most is noted. -/
  | lookedUp {request : Request} {answer : Except ProviderError request.Answer}
      (quiet : request.isSubmission = false) (other : request.isCharge = false)
      (noted : List (Currency × Bool)) :
      Serves ids v ⟨request, answer⟩ { v with limitRequests := noted }

section

variable {ids : Nat → String} {v₀ v v' : Vault} {log : List Event} {event : Event}

/-- A submission adds its record under the next id, or is refused. -/
theorem serves_serveTransfer (ids : Nat → String) (v : Vault) (address : String) (amount : Money)
    (code : String) (callback : Option Callback) :
    Serves ids v
      ⟨.startTransfer address amount code callback,
        (v.serveTransfer (ids v.issued) address amount code callback).1⟩
      (v.serveTransfer (ids v.issued) address amount code callback).2 := by
  unfold serveTransfer
  split
  · exact .refused rfl
  · split
    · exact .refused rfl
    · exact .transferred

theorem serves_serveOrder (ids : Nat → String) (v : Vault) (bankId : String) (amount : Money) :
    Serves ids v ⟨.withdraw bankId amount, (v.serveOrder (ids v.issued) bankId amount).1⟩
      (v.serveOrder (ids v.issued) bankId amount).2 := by
  unfold serveOrder
  split
  · exact .refused rfl
  · split
    · exact .refused rfl
    · exact .ordered

theorem serves_serveCharge (ids : Nat → String) (v : Vault) (id : String) :
    Serves ids v ⟨.charge id, (v.serveCharge id).1⟩ (v.serveCharge id).2 := by
  unfold serveCharge
  dsimp only
  split
  · next hlacks =>
      exact .unknown (by simpa using hlacks)
  · next record fetches hfound =>
      have hid : record.paymentId = id := by simpa using List.find?_some hfound
      subst hid
      have hfetched : Serves ids v _ _ := .fetched hfound
      unfold TransferRecord.charge at hfetched
      cases hcallback : record.callback <;> simpa [hcallback] using hfetched

/-- **Every request is served in one of the ways listed.** -/
theorem serves_ended (ids : Nat → String) (v : Vault) (request : Request) :
    Serves ids v ⟨request, (custodian ids request v).ended.1⟩ (custodian ids request v).ended.2 := by
  cases request with
  | limits => exact .lookedUp rfl rfl _
  | linkedBank | withdrawalFee => exact .lookedUp rfl rfl v.limitRequests
  | startTransfer => exact serves_serveTransfer ..
  | withdraw => exact serves_serveOrder ..
  | charge => exact serves_serveCharge ..

end

/-! ## What a vault keeps -/

/-- The transfers a vault has accepted. -/
def accepted (v : Vault) : List TransferRecord := v.transfers.map Prod.fst

/-- The ids a vault has given out. -/
def given (v : Vault) : List String := v.accepted.map (·.paymentId) ++ v.orders.map (·.orderId)

/-- Every id was given out once, and the next ones are still to be given out. -/
structure Apart (ids : Nat → String) (v : Vault) : Prop where
  distinct : v.given.Nodup
  issued : ∀ id ∈ v.given, ∃ k < v.issued, id = ids k

/-- The log of a vault fixes what it keeps. -/
structure Recorded (ids : Nat → String) (v₀ : Vault) (log : List Event) (v : Vault) : Prop
    extends Apart ids v where
  authoriseAfter : v.authoriseAfter = v₀.authoriseAfter
  accepted : v.accepted = log.filterMap Event.transfer?
  orders : v.orders = log.filterMap Event.order?
  /-- A charge counts the fetches since its transfer was accepted. -/
  fetches : ∀ {before since : List Event} {start : Event} {record : TransferRecord},
    log = before ++ start :: since → start.transfer? = some record →
      (record, .ofNat (since.countP (·.request = .charge record.paymentId))) ∈ v.transfers
  chargeFetches : v.chargeFetches = .ofNat (log.countP (·.request.isCharge))

/-- Nothing was moved and nothing fetched yet. -/
structure IsNew (v : Vault) : Prop where
  transfers : v.transfers = []
  orders : v.orders = []
  chargeFetches : v.chargeFetches = 0

theorem IsNew.recorded {v : Vault} (h : v.IsNew) (ids : Nat → String) : Recorded ids v [] v where
  distinct := by simp [given, accepted, h.transfers, h.orders]
  issued := by simp [given, accepted, h.transfers, h.orders]
  authoriseAfter := rfl
  accepted := by simp [accepted, h.transfers]
  orders := by simp [h.orders]
  fetches := by simp
  chargeFetches := h.chargeFetches

/-- Among elements with keys of their own, each is the only one of its key. -/
theorem filter_key_eq {α : Type} (key : α → String) {xs : List α} (h : (xs.map key).Nodup) {a : α}
    (ha : a ∈ xs) : xs.filter (key · = key a) = [a] := by
  induction xs with
  | nil => cases ha
  | cons x xs ih =>
      rw [List.map_cons, List.nodup_cons] at h
      rcases List.mem_cons.1 ha with rfl | hmem
      · rw [List.filter_cons_of_pos (by simp), List.cons.injEq]
        refine ⟨rfl, List.filter_eq_nil_iff.2 fun b hb => ?_⟩
        have hother : key b ≠ key a := fun heq => h.1 (heq ▸ List.mem_map_of_mem hb)
        simpa using hother
      · have hother : key x ≠ key a := fun heq => h.1 (heq ▸ List.mem_map_of_mem hmem)
        rw [List.filter_cons_of_neg (by simpa using hother), ih h.2 hmem]

section

variable {ids : Nat → String} {v₀ v v' : Vault} {log : List Event} {event : Event}

/-- The next id is new. -/
theorem Apart.fresh (h : Apart ids v) (hinj : Function.Injective ids) :
    ids v.issued ∉ v.given := by
  intro hmem
  obtain ⟨k, hk, heq⟩ := h.issued _ hmem
  exact Nat.ne_of_gt hk (hinj heq)

/-- To give out the next id keeps the ids apart. -/
theorem Apart.give (h : Apart ids v) (hinj : Function.Injective ids)
    (hgiven : v'.given.Perm (ids v.issued :: v.given)) (hissued : v'.issued = v.issued + 1) :
    Apart ids v' := by
  refine ⟨hgiven.nodup_iff.2 (List.nodup_cons.2 ⟨h.fresh hinj, h.distinct⟩), fun id hmem => ?_⟩
  rw [hissued]
  rcases List.mem_cons.1 (hgiven.mem_iff.1 hmem) with rfl | hold
  · exact ⟨v.issued, Nat.lt_succ_self _, rfl⟩
  · obtain ⟨k, hk, heq⟩ := h.issued id hold
    exact ⟨k, Nat.lt_succ_of_lt hk, heq⟩

/-- The entry of a transfer is found by the id of the transfer. -/
theorem Apart.find? (h : Apart ids v) {record : TransferRecord} {fetches : UInt32}
    (hmem : (record, fetches) ∈ v.transfers) :
    v.transfers.find? (·.1.paymentId == record.paymentId) = some (record, fetches) := by
  have hdistinct := (List.nodup_append.1 h.distinct).1
  rw [accepted, List.map_map] at hdistinct
  have honly :=
    filter_key_eq (fun entry : TransferRecord × UInt32 => entry.1.paymentId) hdistinct hmem
  rw [← List.head?_filter]
  exact congrArg List.head? honly

/-- Where a log with one event more is split: at that event or before it. -/
theorem split_concat {before since : List Event} {start : Event}
    (h : log ++ [event] = before ++ start :: since) :
    (before = log ∧ start = event ∧ since = []) ∨
      ∃ earlier, since = earlier ++ [event] ∧ log = before ++ start :: earlier := by
  rcases List.eq_nil_or_concat since with rfl | ⟨earlier, last, rfl⟩
  · obtain ⟨rfl, hlast⟩ := List.append_inj' h rfl
    exact .inl ⟨rfl, (List.singleton_inj.1 hlast).symm, rfl⟩
  · rw [List.concat_eq_append, ← List.cons_append, ← List.append_assoc] at h
    obtain ⟨rfl, hlast⟩ := List.append_inj' h rfl
    exact .inr ⟨earlier, by rw [List.concat_eq_append, List.singleton_inj.1 hlast], rfl⟩

/-- Charges go on counting if a new one starts from nothing and every other one counts the
fetch that is its own. -/
theorem Recorded.fetches_concat (h : Recorded ids v₀ log v)
    (hnew : ∀ record, event.transfer? = some record → (record, 0) ∈ v'.transfers)
    (hold : ∀ record fetches, (record, fetches) ∈ v.transfers →
      (record, fetches + if event.request = .charge record.paymentId then 1 else 0) ∈ v'.transfers)
    {before since : List Event} {start : Event} {record : TransferRecord}
    (hlog : log ++ [event] = before ++ start :: since) (hstart : start.transfer? = some record) :
    (record, .ofNat (since.countP (·.request = .charge record.paymentId))) ∈ v'.transfers := by
  rcases split_concat hlog with ⟨rfl, rfl, rfl⟩ | ⟨earlier, rfl, rfl⟩
  · exact hnew record hstart
  · have hcount := hold record _ (h.fetches rfl hstart)
    rw [List.countP_append, List.countP_singleton, UInt32.ofNat_add]
    simpa [apply_ite UInt32.ofNat] using hcount

/-- Whatever accepts nothing leaves the records alone. -/
theorem Recorded.keep (h : Recorded ids v₀ log v) (htransfer : event.transfer? = none)
    (horder : event.order? = none) (hauthorise : v'.authoriseAfter = v.authoriseAfter)
    (haccepted : v'.accepted = v.accepted) (horders : v'.orders = v.orders)
    (hissued : v'.issued = v.issued)
    (hfetches : ∀ record fetches, (record, fetches) ∈ v.transfers →
      (record, fetches + if event.request = .charge record.paymentId then 1 else 0) ∈ v'.transfers)
    (hcounted : v'.chargeFetches = v.chargeFetches + if event.request.isCharge then 1 else 0) :
    Recorded ids v₀ (log ++ [event]) v' := by
  have hgiven : v'.given = v.given := by rw [given, given, haccepted, horders]
  constructor
  · exact ⟨hgiven ▸ h.distinct, by rw [hgiven, hissued]; exact h.issued⟩
  · rw [hauthorise, h.authoriseAfter]
  · simp [haccepted, h.accepted, htransfer]
  · simp [horders, h.orders, horder]
  · exact h.fetches_concat (by simp [htransfer]) hfetches
  · simp [hcounted, h.chargeFetches, List.countP_singleton, apply_ite UInt32.ofNat]

/-- **Every request that is served is recorded.** -/
theorem Serves.recorded (h : Serves ids v event v') (hinj : Function.Injective ids)
    (hr : Recorded ids v₀ log v) : Recorded ids v₀ (log ++ [event]) v' := by
  cases h with
  | transferred =>
      constructor
      · refine hr.toApart.give hinj ?_ rfl
        simp [given, accepted]
      · exact hr.authoriseAfter
      · simp [accepted, ← hr.accepted, Event.transfer?]
      · simp [hr.orders, Event.order?]
      · exact hr.fetches_concat (by simp [Event.transfer?]) (by simp +contextual)
      · simp [hr.chargeFetches, Request.isCharge]
  | ordered =>
      constructor
      · refine hr.toApart.give hinj ?_ rfl
        simp only [given, accepted, List.map_append, List.map_singleton, ← List.append_assoc]
        exact List.perm_append_singleton ..
      · exact hr.authoriseAfter
      · simp [accepted, ← hr.accepted, Event.transfer?]
      · simp [hr.orders, Event.order?]
      · exact hr.fetches_concat (by simp [Event.transfer?]) (by simp +contextual)
      · simp [hr.chargeFetches, Request.isCharge]
  | @refused request cause hsubmits =>
      have hother : request.isCharge = false := Request.isCharge_of_isSubmission hsubmits
      refine hr.keep (Event.transfer?_error ..) (Event.order?_error ..) rfl rfl rfl rfl ?_ ?_
      · simp [Request.ne_charge hother]
      · simp [hother]
  | @fetched record fetches hfound =>
      refine hr.keep rfl rfl rfl ?_ rfl rfl ?_ (by simp [Request.isCharge])
      · simp only [accepted, List.map_map]
        refine List.map_congr_left fun entry _ => ?_
        simp only [Function.comp_apply]
        split <;> rfl
      · intro other count hmem
        by_cases hid : other.paymentId = record.paymentId
        · -- the ids are distinct, so it is the entry that was found
          have hother := hr.toApart.find? hmem
          rw [hid, hfound] at hother
          cases hother
          exact List.mem_map.2 ⟨_, hmem, by simp⟩
        · exact List.mem_map.2 ⟨_, hmem, by simp [hid, Ne.symm hid]⟩
  | unknown hlacks =>
      refine hr.keep rfl rfl rfl rfl rfl rfl (fun record fetches hmem => ?_)
        (by simp [Request.isCharge])
      have hother := hlacks _ hmem
      simpa [hother.symm] using hmem
  | @lookedUp request answer hquiet hother =>
      refine hr.keep (Event.transfer?_of_quiet hquiet) (Event.order?_of_quiet hquiet) rfl rfl rfl rfl
        ?_ ?_
      · simp [Request.ne_charge hother]
      · simp [hother]

/-- **A run is recorded by its log.** -/
theorem Run.recorded (h : Run ids v₀ log v) (hinj : Function.Injective ids) (hnew : v₀.IsNew) :
    Recorded ids v₀ log v := by
  induction h with
  | refl => exact hnew.recorded ids
  | serve _ request ih => exact (serves_ended ids _ request).recorded hinj ih
  | cutOff _ _ ih => exact ih

/-- What stands in the log was served when its turn came. -/
theorem Run.serves {before after : List Event} (h : Run ids v₀ (before ++ event :: after) v) :
    ∃ u u', Run ids v₀ before u ∧ Serves ids u event u' := by
  generalize hlog : before ++ event :: after = log at h
  induction h generalizing after with
  | refl => simp at hlog
  | @serve log u run request ih =>
      rcases split_concat hlog.symm with ⟨rfl, rfl, rfl⟩ | ⟨earlier, -, hearlier⟩
      · exact ⟨u, _, run, serves_ended ids u request⟩
      · exact ih hearlier.symm
  | cutOff _ _ ih => exact ih hlog

/-! ## What a caller is told -/

/-- A transfer that was accepted is in the vault. -/
theorem Recorded.mem_accepted (h : Recorded ids v₀ log v) {record : TransferRecord} :
    record ∈ v.accepted ↔ ∃ start ∈ log, start.transfer? = some record := by
  rw [h.accepted, List.mem_filterMap]

/-- The answer to a fetch of a transfer that was accepted. -/
theorem Serves.answer_of_accepted {before since : List Event} {start : Event}
    {record : TransferRecord} {answer : Except ProviderError Charge}
    (h : Serves ids v ⟨.charge record.paymentId, answer⟩ v')
    (hr : Recorded ids v₀ (before ++ start :: since) v) (hstart : start.transfer? = some record) :
    answer = .ok (record.charge v₀.authoriseAfter
      (.ofNat (since.countP (·.request = .charge record.paymentId) + 1))) := by
  have hfind := hr.toApart.find? (hr.fetches rfl hstart)
  generalize hid : record.paymentId = id at h
  cases h with
  | fetched hfound =>
      rw [hid, hfound] at hfind
      cases hfind
      rw [hr.authoriseAfter, UInt32.ofNat_add, UInt32.ofNat_one]
  | unknown hlacks => exact (hlacks _ (hr.fetches rfl hstart) hid).elim
  | lookedUp _ hother => cases hother
  | refused hsubmits => cases hsubmits

/-- A fetch that succeeds is of a transfer that was accepted. -/
theorem Serves.exists_start {id : String} {charge : Charge}
    (h : Serves ids v ⟨.charge id, .ok charge⟩ v') (hr : Recorded ids v₀ log v) :
    ∃ start ∈ log, ∃ record, start.transfer? = some record ∧ record.paymentId = id := by
  generalize hok : Except.ok charge = answer at h
  cases h with
  | @fetched record fetches hfound =>
      have hmem : record ∈ v.accepted := List.mem_map.2 ⟨_, List.mem_of_find?_eq_some hfound, rfl⟩
      obtain ⟨start, hstart, htransfer⟩ := hr.mem_accepted.1 hmem
      exact ⟨start, hstart, record, htransfer, rfl⟩
  | unknown | refused => cases hok
  | lookedUp _ hother => cases hother

/-- A fetch of an unknown id is answered by an error, and is counted. -/
theorem Recorded.serveCharge_of_unknown (h : Recorded ids v₀ log v) {id : String}
    (hunknown : ∀ start ∈ log, ∀ record, start.transfer? = some record → record.paymentId ≠ id) :
    v.serveCharge id =
      (.error (.notFound "charge" id), { v with chargeFetches := v.chargeFetches + 1 }) := by
  have hnone : v.transfers.find? (·.1.paymentId == id) = none := by
    refine List.find?_eq_none.2 fun entry hentry => ?_
    obtain ⟨start, hstart, htransfer⟩ := h.mem_accepted.1 (List.mem_map_of_mem hentry)
    simpa using hunknown start hstart _ htransfer
  simp only [serveCharge, hnone]

/-- The answer to a fetch in the log. -/
theorem Run.charge_of_accepted {before since after : List Event} {start : Event}
    {record : TransferRecord} {answer : Except ProviderError Charge}
    (h : Run ids v₀ (before ++ start :: (since ++ ⟨.charge record.paymentId, answer⟩ :: after)) v)
    (hinj : Function.Injective ids) (hnew : v₀.IsNew) (hstart : start.transfer? = some record) :
    answer = .ok (record.charge v₀.authoriseAfter
      (.ofNat (since.countP (·.request = .charge record.paymentId) + 1))) := by
  rw [← List.cons_append, ← List.append_assoc] at h
  obtain ⟨u, u', hrun, hserves⟩ := h.serves
  exact hserves.answer_of_accepted (hrun.recorded hinj hnew) hstart

/-- A page in the log stands in every later answer for the same payment, for as long as the
count of its fetches does not start over. -/
theorem Run.page_of_offered {before since after : List Event} {id url : String} {charge : Charge}
    {answer : Except ProviderError Charge}
    (h : Run ids v₀ (before ++ ⟨.charge id, .ok charge⟩ :: (since ++ ⟨.charge id, answer⟩ :: after))
      v)
    (hinj : Function.Injective ids) (hnew : v₀.IsNew)
    (hurl : charge.authorisationUrl = some url) :
    ∃ earlier start between record, before = earlier ++ start :: between ∧
      start.transfer? = some record ∧ record.paymentId = id ∧
      ∃ later : Charge, answer = .ok later ∧
        ((between ++ since).countP (·.request = .charge id) + 2 < 2 ^ 32 →
          later.authorisationUrl = some url) := by
  obtain ⟨u, u', hrun, hserves⟩ := h.serves
  obtain ⟨start, hmem, record, hstart, rfl⟩ := hserves.exists_start (hrun.recorded hinj hnew)
  obtain ⟨earlier, between, rfl⟩ := List.append_of_mem hmem
  rw [List.append_assoc, List.cons_append] at h
  have hfirst := h.charge_of_accepted hinj hnew hstart
  -- the later fetch counts what comes before the earlier one, and what comes in between
  have hbetween : between ++ ⟨.charge record.paymentId, .ok charge⟩ ::
        (since ++ ⟨.charge record.paymentId, answer⟩ :: after) =
      (between ++ ⟨.charge record.paymentId, .ok charge⟩ :: since) ++
        (⟨.charge record.paymentId, answer⟩ : Event) :: after := by simp
  rw [hbetween] at h
  have hlater := h.charge_of_accepted hinj hnew hstart
  cases hfirst
  refine ⟨_, _, _, _, rfl, hstart, rfl, _, hlater, fun hword => ?_⟩
  refine TransferRecord.authorisationUrl_charge_mono ?_ ?_ hurl <;>
    simp only [List.countP_append, List.countP_cons, decide_true, if_true] at hword ⊢ <;> omega

end

/-- What the log of a vault says of every payment, whatever else was served. -/
structure KeepsApart (ids : Nat → String) (v₀ : Vault) (log : List Event) (v : Vault) : Prop where
  /-- A transfer that was accepted is recorded once, as it was accepted. -/
  transfers : ∀ start ∈ log, ∀ record, start.transfer? = some record →
    v.accepted.filter (·.paymentId = record.paymentId) = [record]
  /-- So is an order. -/
  orders : ∀ start ∈ log, ∀ order, start.order? = some order →
    v.orders.filter (·.orderId = order.orderId) = [order]
  /-- A fetch is answered by the transfer, and by how often it was fetched. -/
  charges : ∀ before start since (answer : Except ProviderError Charge) after record,
    log = before ++ start :: (since ++ ⟨.charge record.paymentId, answer⟩ :: after) →
    start.transfer? = some record →
      let fetches := since.countP (·.request = .charge record.paymentId) + 1
      let charge := record.charge v₀.authoriseAfter (.ofNat fetches)
      answer = .ok charge ∧
        (fetches < 2 ^ 32 → (charge.authorisationUrl.isSome = true ↔
          record.callback.isSome = true ∧ v₀.authoriseAfter.toNat ≤ fetches))
  /-- A page that was offered once is offered ever after, for as long as the count of
  fetches since the transfer was accepted does not start over. -/
  pages : ∀ before id charge url since (answer : Except ProviderError Charge) after,
    log = before ++ ⟨.charge id, .ok charge⟩ :: (since ++ ⟨.charge id, answer⟩ :: after) →
    charge.authorisationUrl = some url →
      ∃ earlier start between record, before = earlier ++ start :: between ∧
        start.transfer? = some record ∧ record.paymentId = id ∧
        ∃ later : Charge, answer = .ok later ∧
          ((between ++ since).countP (·.request = .charge id) + 2 < 2 ^ 32 →
            later.authorisationUrl = some url)
  /-- A fetch of an unknown id is counted, and changes nothing else. -/
  unknown : ∀ id, (∀ start ∈ log, ∀ record, start.transfer? = some record →
      record.paymentId ≠ id) →
    (custodian ids (.charge id) v).ended =
      (.error (.notFound "charge" id), { v with chargeFetches := v.chargeFetches + 1 })
  /-- Every fetch is counted, in a word of 32 bits. -/
  chargeFetches : v.chargeFetches.toNat = log.countP (·.request.isCharge) % 2 ^ 32

/-- **Payments stay apart**: in a vault that gives out fresh ids no payment notices
another one, nor anything else that is served, whoever asks for it. -/
theorem payments_stay_apart {ids : Nat → String} (fresh : Function.Injective ids) {v₀ : Vault}
    (new : v₀.IsNew) {log : List Event} {v : Vault} (h : Run ids v₀ log v) :
    KeepsApart ids v₀ log v := by
  have hr := h.recorded fresh new
  obtain ⟨htransfers, horders, -⟩ := List.nodup_append.1 hr.distinct
  constructor
  · intro start hmem record hstart
    exact filter_key_eq _ htransfers (hr.mem_accepted.2 ⟨start, hmem, hstart⟩)
  · intro start hmem order hstart
    refine filter_key_eq _ horders ?_
    rw [hr.orders, List.mem_filterMap]
    exact ⟨start, hmem, hstart⟩
  · rintro before start since answer after record rfl hstart
    exact ⟨h.charge_of_accepted fresh new hstart, record.isSome_authorisationUrl_charge _⟩
  · rintro before id charge url since answer after rfl hurl
    exact h.page_of_offered fresh new hurl
  · exact fun id hunknown => hr.serveCharge_of_unknown hunknown
  · rw [hr.chargeFetches, UInt32.toNat_ofNat']

end Vault

namespace Sample

/-- Ids that grow with every submission. -/
def tickets (k : Nat) : String := .ofList (List.replicate (k + 1) 'i')

theorem tickets_injective : Function.Injective tickets := by
  intro j k hjk
  have hlength := congrArg List.length (String.ofList_injective hjk)
  simpa using hlength

/-- A vault that offers its pages with the second fetch. -/
def shared : Vault := { Vault.empty with authoriseAfter := 2 }

/-- The start of a payment of five euros. -/
def payment (bankId : String) (callback : Option Callback) : Request :=
  .startTransfer bankId (.ofMajor 5 ⟨"EUR", by decide⟩) "EUR" callback

/-- Where the bank sends the user. -/
def back : Callback := ⟨.yapily, .pay, "https://wallet.test/return"⟩

end Sample

namespace Vault

/-- Two callers whose requests alternate: each fetches its charge twice, and the page is
offered to the one that has asked for it. -/
theorem payments_stay_apart_two_callers :
    ∃ log v, Run Sample.tickets Sample.shared log v ∧
      log.map Event.request =
        [Sample.payment "one" (some Sample.back), Sample.payment "two" none, .charge "i",
          .charge "ii", .charge "unknown", .charge "ii", .charge "i"] ∧
      v.chargeFetches.toNat = 5 ∧
      (v.accepted.filter (·.paymentId = "i")).map (·.address) = ["one"] ∧
      ∃ charge : Charge, log.getLast? = some ⟨.charge "i", .ok charge⟩ ∧
        charge.authorisationUrl = some "https://wallet.test/return?payment_id=i" := by
  have hrun : Run Sample.tickets Sample.shared _ _ :=
    .serve (.serve (.serve (.serve (.serve (.serve (.serve .refl
      (Sample.payment "one" (some Sample.back))) (Sample.payment "two" none)) (.charge "i"))
      (.charge "ii")) (.charge "unknown")) (.charge "ii")) (.charge "i")
  have hapart := payments_stay_apart Sample.tickets_injective ⟨rfl, rfl, rfl⟩ hrun
  exact ⟨_, _, hrun, rfl, hapart.chargeFetches, by decide +kernel, _, rfl, by decide +kernel⟩

end Vault

end FiatRamp
