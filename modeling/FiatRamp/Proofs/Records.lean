import FiatRamp.Custodian.Vault
import FiatRamp.Proofs.FollowUp

/-!
# FiatRamp.Proofs.Records

What the vault has been made to move.

A submission the vault accepts adds one record under the id it gives out
(`Vault.records_of_accepted`); one it refuses, or that is cut off, and every
other request leave the records alone (`Vault.serve_of_refused`,
`Vault.keeps_records`).
-/

namespace FiatRamp

namespace Vault

/-- What was accepted, under an id of its own. -/
structure Record where
  id : String
  /-- The bank account money is pulled from or paid out to. -/
  bankId : String
  amount : Money
  deriving DecidableEq

/-- What the vault has accepted: the transfers and then the orders. -/
def records (v : Vault) : List Record :=
  v.transfers.map (fun entry => ⟨entry.1.paymentId, entry.1.address, entry.1.amount⟩) ++
    v.orders.map fun order => ⟨order.orderId, order.bankId, order.amount⟩

/-- Between two moments a vault has accepted one thing more, and it is the only one
of its id. -/
def Gains (before after : Vault) (record : Record) : Prop :=
  after.records.Perm (record :: before.records) ∧
    after.records.filter (·.id = record.id) = [record]

/-- The one record that is added under a fresh id is the only one of its id. -/
theorem Gains.of_perm {before after : Vault} {record : Record}
    (h : after.records.Perm (record :: before.records))
    (fresh : ∀ other ∈ before.records, other.id ≠ record.id) : before.Gains after record := by
  refine ⟨h, List.perm_singleton.1 ((h.filter _).trans (.of_eq ?_))⟩
  rw [List.filter_cons_of_pos (by simp), List.cons.injEq]
  refine ⟨rfl, List.filter_eq_nil_iff.2 fun other hother => ?_⟩
  simpa using fresh other hother

/-- What a submission leaves once it was accepted. -/
def recordOf (submission : Submission) (id : String) : Record :=
  ⟨id, submission.bankId, submission.amount⟩

section

variable {ids : Nat → String} {v : Vault} {submission : Submission}

/-- A submission that is accepted adds its record, and nothing else. -/
theorem records_of_accepted {id : String}
    (h : (submission.work (custodian ids) v).ended.1 = .ok id) :
    id = ids v.issued ∧
      (submission.work (custodian ids) v).ended.2.records.Perm
        (recordOf submission id :: v.records) := by
  cases submission with
  | transfer address amount code callback =>
      simp only [Submission.work, custodian, serve, serveTransfer] at h ⊢
      split at h
      · cases h
      split at h
      · cases h
      · next hrejection hcode =>
          cases h
          simp only [hrejection, if_neg hcode]
          refine ⟨trivial, ?_⟩
          simp only [records, List.map_append, List.map_singleton, List.append_assoc,
            List.singleton_append]
          exact List.perm_middle
  | order bankId amount =>
      simp only [Submission.work, custodian, serve, serveOrder] at h ⊢
      split at h
      · cases h
      split at h
      · cases h
      · next hrejection _ _ _ =>
          cases h
          simp only [hrejection]
          refine ⟨trivial, ?_⟩
          simp only [records, List.map_append, List.map_singleton]
          rw [← List.append_assoc]
          exact List.perm_append_singleton _ _

/-- A submission that is refused changes nothing. -/
theorem serve_of_refused {cause : ProviderError}
    (h : (submission.work (custodian ids) v).ended.1 = .error cause) :
    (submission.work (custodian ids) v).ended.2 = v := by
  cases submission with
  | transfer address amount code callback =>
      simp only [Submission.work, custodian, serve, serveTransfer] at h ⊢
      split
      · rfl
      split
      · rfl
      · next hrejection hcode =>
          rw [hrejection, if_neg hcode] at h
          cases h
  | order bankId amount =>
      simp only [Submission.work, custodian, serve, serveOrder] at h ⊢
      split
      · rfl
      split
      · rfl
      · next hrejection _ bank hbank =>
          rw [hrejection, hbank] at h
          cases h

/-- A submission that is not accepted in time changes nothing. -/
theorem within_of_not_accepted {limit : Duration}
    (h : ∀ id, ¬ ((submission.work (custodian ids) v).endsWithin limit = true ∧
      (submission.work (custodian ids) v).ended.1 = .ok id)) :
    ((submission.work (custodian ids) v).within limit).ended.2 = v := by
  by_cases hwithin : (submission.work (custodian ids) v).endsWithin limit = true
  · rw [Work.ended_within_of_endsWithin hwithin]
    cases hended : (submission.work (custodian ids) v).ended.1 with
    | error cause => exact serve_of_refused hended
    | ok id => exact (h id ⟨hwithin, hended⟩).elim
  · rw [Work.ended_within_of_not_endsWithin (by simpa using hwithin)]
    cases submission <;> rfl

/-- Fetching a charge counts, and leaves the records alone. -/
theorem records_serveCharge (v : Vault) (paymentId : String) :
    (v.serveCharge paymentId).2.records = v.records := by
  unfold serveCharge
  dsimp only
  split
  · rfl
  · simp only [records, List.map_map]
    congr 1
    refine List.map_congr_left fun entry _ => ?_
    simp only [Function.comp_apply]
    split <;> rfl

/-- **Requests that move no money** leave the records alone. -/
theorem keeps_records (ids : Nat → String) (kept : List Record) :
    (custodian ids).Keeps fun v _ => v.records = kept := by
  intro request hrequest v _ hv
  refine ⟨hv, ?_⟩
  cases request with
  | limits | linkedBank | withdrawalFee => exact hv
  | charge paymentId => exact (records_serveCharge v paymentId).trans hv
  | startTransfer | withdraw => simp [Request.isSubmission] at hrequest

end

end Vault

end FiatRamp
