import FiatRamp.Proofs.Step

/-!
# FiatRamp.Proofs.Submission

The requests that move money.

A `Submission` is such a request, seen as a value: what it moves, for which
bank account, and when the custodian has accepted it (`Submission.Accepted`).
-/

namespace FiatRamp

/-- A request that moves money, answered by the id of what was submitted. -/
inductive Submission where
  | transfer (address : String) (amount : Money) (currencyCode : String)
    (callback : Option Callback)
  | order (bankId : String) (amount : Money)
  deriving DecidableEq

namespace Submission

/-- The request that makes a submission. -/
def request : Submission → Request
  | .transfer address amount currencyCode callback =>
    .startTransfer address amount currencyCode callback
  | .order bankId amount => .withdraw bankId amount

/-- What a submission moves. -/
def amount : Submission → Money
  | .transfer _ amount _ _ => amount
  | .order _ amount => amount

/-- The bank account money is pulled from or paid out to. -/
def bankId : Submission → String
  | .transfer address _ _ _ => address
  | .order bankId _ => bankId

/-- What the custodian does with a submission. -/
def work (custodian : Custodian σ) (backend : σ) :
    Submission → Work σ (Except ProviderError String)
  | .transfer address amount currencyCode callback =>
    custodian (.startTransfer address amount currencyCode callback) backend
  | .order bankId amount => custodian (.withdraw bankId amount) backend

/-- The custodian answers a submission by an id, and within the deadline. -/
def Accepted (custodian : Custodian σ) (deadlines : Deadlines) (backend : σ)
    (submission : Submission) (id : String) : Prop :=
  (submission.work custodian backend).endsWithin deadlines.submission = true ∧
    (submission.work custodian backend).ended.1 = .ok id

/-- What comes of a submission within its deadline. -/
def reply (custodian : Custodian σ) (deadlines : Deadlines) (backend : σ) :
    Submission → Except EngineError String
  | .transfer address amount currencyCode callback =>
    custodian.reply deadlines (.startTransfer address amount currencyCode callback) backend
  | .order bankId amount => custodian.reply deadlines (.withdraw bankId amount) backend

@[simp] theorem isSubmission_request (s : Submission) : s.request.isSubmission = true := by
  cases s <;> rfl

theorem request_injective : Function.Injective request := by
  intro a b h
  cases a <;> cases b <;> simp_all [request]

/-- Where only the first request may move money, it is the submission. -/
theorem eq_of_request_mem {submission first : Submission} {more : List Request}
    (hquiet : ∀ request ∈ more, request.isSubmission = false)
    (h : submission.request ∈ first.request :: more) : submission = first := by
  rcases List.mem_cons.1 h with hfirst | hmore
  · exact request_injective hfirst
  · have := hquiet _ hmore
    rw [isSubmission_request] at this
    contradiction

/-- A submission is accepted under one id. -/
theorem Accepted.unique {custodian : Custodian σ} {deadlines : Deadlines} {backend : σ}
    {submission : Submission} {id other : String}
    (h : submission.Accepted custodian deadlines backend id)
    (hother : submission.Accepted custodian deadlines backend other) : id = other :=
  Except.ok.inj (h.2.symm.trans hother.2)

/-- A submission succeeds exactly if it is accepted in time. -/
theorem reply_eq_ok_iff {custodian : Custodian σ} {deadlines : Deadlines} {backend : σ}
    {submission : Submission} {id : String} :
    submission.reply custodian deadlines backend = .ok id ↔
      submission.Accepted custodian deadlines backend id := by
  cases submission <;> exact Custodian.reply_eq_ok_iff

end Submission

end FiatRamp
