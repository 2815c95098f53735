import FiatRamp.Bank
import FiatRamp.Work

/-!
# FiatRamp.Custodian

The custodian: the service that keeps the fiat balances.

It is asked six things (`Request`), each with an answer of its own type
(`Request.Answer`).  How it behaves is left open: a `Custodian` may keep any
state, answer anything, take any time and never answer at all (`Work`).
-/

namespace FiatRamp

/-- The least and the greatest amount of one transfer. -/
structure TransferLimits where
  min : Money
  max : Option Money
  deriving DecidableEq

/-- A bank transfer as the custodian reports it.  The authorisation URL appears
once the bank offers one. -/
structure Charge where
  paymentId : String
  linkedBankId : String
  amount : Money
  authorisationUrl : Option String
  deriving DecidableEq

/-- Why the custodian did not do what it was asked. -/
inductive ProviderError where
  /-- It knows no `what` of this id. -/
  | notFound (what id : String)
  /-- It could not be reached. -/
  | unavailable (reason : String)
  /-- It refused. -/
  | rejected (reason : String)
  deriving DecidableEq

/-- What the user is told. -/
def ProviderError.message : ProviderError → String
  | .notFound what id => what ++ " '" ++ id ++ "' not found"
  | .unavailable reason => "Custodial backend unavailable: " ++ reason
  | .rejected reason => "Request rejected: " ++ reason

/-! ## Requests -/

/-- What the custodian is asked. -/
inductive Request where
  /-- The limits of transfers in a currency. -/
  | limits (currency : Currency) (onlyOpenBanking : Bool)
  /-- To pull `amount` from the bank linked as `address`; answered by the
  payment's id. -/
  | startTransfer (address : String) (amount : Money) (currencyCode : String)
    (callback : Option Callback)
  /-- How a payment stands. -/
  | charge (paymentId : String)
  /-- The bank linked under an id. -/
  | linkedBank (id : String)
  /-- The fee of a withdrawal. -/
  | withdrawalFee (currency : Currency)
  /-- To pay `amount` out to a linked bank; answered by the order's id. -/
  | withdraw (bankId : String) (amount : Money)
  deriving DecidableEq

namespace Request

/-- The type of the answers to a request. -/
abbrev Answer : Request → Type
  | .limits .. => TransferLimits
  | .startTransfer .. => String
  | .charge _ => Charge
  | .linkedBank _ => LinkedBank
  | .withdrawalFee _ => Money
  | .withdraw .. => String

/-- The name of a request's operation. -/
def operation : Request → String
  | .limits .. => "get_bank_transfer_limits"
  | .startTransfer .. => "start_bank_transfer"
  | .charge _ => "get_bank_transfer_charge"
  | .linkedBank _ => "get_linked_bank"
  | .withdrawalFee _ => "get_withdrawal_fee"
  | .withdraw .. => "create_withdraw_order"

/-- The request moves money. -/
def isSubmission : Request → Bool
  | .startTransfer .. | .withdraw .. => true
  | _ => false

/-- The request fetches a charge. -/
def isCharge : Request → Bool
  | .charge _ => true
  | _ => false

/-- The request is about limits or fees. -/
def isAboutTerms : Request → Bool
  | .limits .. | .withdrawalFee _ => true
  | _ => false

theorem isCharge_of_isSubmission {request : Request} (h : request.isSubmission = true) :
    request.isCharge = false := by
  cases request <;> simp_all [isSubmission, isCharge]

theorem ne_charge {request : Request} (h : request.isCharge = false) (id : String) :
    request ≠ .charge id := by
  rintro rfl
  cases h

/-- To ask about limits and fees moves no money and fetches no charge. -/
theorem quiet_of_isAboutTerms {request : Request} (h : request.isAboutTerms = true) :
    request.isSubmission = false ∧ request.isCharge = false := by
  cases request <;> simp_all [isAboutTerms, isSubmission, isCharge]

end Request

/-! ## Deadlines -/

/-- How long the custodian may take. -/
structure Deadlines where
  /-- For naming limits and fees. -/
  limits : Duration
  /-- For accepting a transfer or an order. -/
  submission : Duration
  /-- For looking up payments and banks. -/
  lookup : Duration
  deriving DecidableEq

/-- How long a request may take. -/
def Deadlines.of (deadlines : Deadlines) : Request → Duration
  | .limits .. | .withdrawalFee _ => deadlines.limits
  | .startTransfer .. | .withdraw .. => deadlines.submission
  | .charge _ | .linkedBank _ => deadlines.lookup

/-! ## Behaviour -/

/-- A custodian with state `σ`: what it does with every request.  Nothing is
assumed about it, and it need not answer twice alike. -/
abbrev Custodian (σ : Type) :=
  (request : Request) → σ → Work σ (Except ProviderError request.Answer)

/-- A custodian that keeps its state beside something it leaves alone. -/
def Custodian.beside (custodian : Custodian σ) : Custodian (τ × σ) := fun request (kept, s) =>
  let work := custodian request s
  ⟨(kept, work.started), work.takes, (work.ended.1, (kept, work.ended.2))⟩

end FiatRamp
