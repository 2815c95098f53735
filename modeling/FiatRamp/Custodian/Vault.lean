import FiatRamp.Custodian

/-!
# FiatRamp.Custodian.Vault

A custodian that keeps everything in memory.

It answers from what it was given and remembers what it was asked to move.
A charge offers its authorisation page once it has been fetched often enough,
if the transfer came with a callback.  It can be made slow, or made to refuse
every submission.  Fetches are counted in words of 32 bits, which start over
from zero.
-/

namespace FiatRamp

/-- A transfer the vault accepted. -/
structure TransferRecord where
  paymentId : String
  address : String
  amount : Money
  callback : Option Callback
  deriving DecidableEq

/-- An order the vault accepted. -/
structure OrderRecord where
  orderId : String
  bankId : String
  amount : Money
  deriving DecidableEq

/-- The vault. -/
structure Vault where
  limits : List (Currency × TransferLimits)
  banks : List (String × LinkedBank)
  fees : List (Currency × Money)
  /-- How often a charge is fetched before it offers its authorisation page. -/
  authoriseAfter : UInt32
  /-- Why every submission is refused, if it is. -/
  rejection : Option String
  /-- How long naming limits takes. -/
  limitsLatency : Duration
  /-- How long accepting a submission takes. -/
  submissionLatency : Duration
  /-- The transfers accepted, in order, and how often each was fetched. -/
  transfers : List (TransferRecord × UInt32)
  /-- The orders accepted, in order. -/
  orders : List OrderRecord
  /-- Whether the last request for the limits of a currency was about open
  banking only. -/
  limitRequests : List (Currency × Bool)
  /-- How often any charge was fetched. -/
  chargeFetches : UInt32
  /-- How many ids were given out. -/
  issued : Nat

namespace Vault

/-- A vault that knows nothing. -/
def empty : Vault where
  limits := []
  banks := []
  fees := []
  authoriseAfter := 0
  rejection := none
  limitsLatency := 0
  submissionLatency := 0
  transfers := []
  orders := []
  limitRequests := []
  chargeFetches := 0
  issued := 0

/-! ## Setting up -/

def withLimits (v : Vault) (currency : Currency) (limits : TransferLimits) : Vault :=
  { v with limits := (currency, limits) :: v.limits }

def withBank (v : Vault) (bank : LinkedBank) : Vault :=
  { v with banks := (bank.id, bank) :: v.banks }

/-- A fee belongs to the currency it is charged in. -/
def withFee (v : Vault) (fee : Money) : Vault :=
  { v with fees := (fee.currency, fee) :: v.fees }

/-! ## Answering -/

/-- The limits of a currency. -/
def serveLimits (v : Vault) (currency : Currency) (onlyOpenBanking : Bool) :
    Except ProviderError TransferLimits × Vault :=
  (match v.limits.lookup currency with
    | some limits => .ok limits
    | none => .error (.notFound "transfer limits" currency.code),
    { v with limitRequests := (currency, onlyOpenBanking) :: v.limitRequests })

/-- Accepts a transfer under the id `id`. -/
def serveTransfer (v : Vault) (id address : String) (amount : Money) (currencyCode : String)
    (callback : Option Callback) : Except ProviderError String × Vault :=
  match v.rejection with
  | some reason => (.error (.rejected reason), v)
  | none =>
    if amount.currency.code ≠ currencyCode then
      (.error (.rejected ("amount currency " ++ amount.currency.code ++ " does not match " ++
        currencyCode)), v)
    else
      (.ok id, { v with
        transfers := v.transfers ++ [(⟨id, address, amount, callback⟩, 0)]
        issued := v.issued + 1 })

/-- Fetches the charge of a payment. -/
def serveCharge (v : Vault) (paymentId : String) : Except ProviderError Charge × Vault :=
  let v := { v with chargeFetches := v.chargeFetches + 1 }
  match v.transfers.find? (·.1.paymentId == paymentId) with
  | none => (.error (.notFound "charge" paymentId), v)
  | some (record, fetches) =>
    let fetches := fetches + 1
    let authorisationUrl := match record.callback with
      | some callback =>
        if v.authoriseAfter ≤ fetches then
          some (callback.redirectUrl ++ "?payment_id=" ++ paymentId)
        else none
      | none => none
    (.ok { paymentId, linkedBankId := record.address, amount := record.amount, authorisationUrl },
      { v with transfers := v.transfers.map fun entry =>
          if entry.1.paymentId = paymentId then (entry.1, fetches) else entry })

/-- Looks up a bank. -/
def serveBank (v : Vault) (id : String) : Except ProviderError LinkedBank :=
  match v.banks.lookup id with
  | some bank => .ok bank
  | none => .error (.notFound "linked bank" id)

/-- The fee of a withdrawal; none unless one was set. -/
def serveFee (v : Vault) (currency : Currency) : Money :=
  (v.fees.lookup currency).getD (.zero currency)

/-- Accepts an order under the id `id`. -/
def serveOrder (v : Vault) (id bankId : String) (amount : Money) :
    Except ProviderError String × Vault :=
  match v.rejection with
  | some reason => (.error (.rejected reason), v)
  | none =>
    match v.banks.lookup bankId with
    | none => (.error (.notFound "linked bank" bankId), v)
    | some _ => (.ok id, { v with
        orders := v.orders ++ [⟨id, bankId, amount⟩]
        issued := v.issued + 1 })

/-- The answer to a request.  The next id to be given out is taken from `ids`. -/
def serve (ids : Nat → String) (v : Vault) :
    (request : Request) → Except ProviderError request.Answer × Vault
  | .limits currency onlyOpenBanking => v.serveLimits currency onlyOpenBanking
  | .startTransfer address amount currencyCode callback =>
    v.serveTransfer (ids v.issued) address amount currencyCode callback
  | .charge paymentId => v.serveCharge paymentId
  | .linkedBank id => (v.serveBank id, v)
  | .withdrawalFee currency => (.ok (v.serveFee currency), v)
  | .withdraw bankId amount => v.serveOrder (ids v.issued) bankId amount

/-- How long an answer takes. -/
def latency (v : Vault) : Request → Duration
  | .limits .. => v.limitsLatency
  | .startTransfer .. | .withdraw .. => v.submissionLatency
  | _ => 0

/-- The vault as a custodian.  A request that is cut off has changed nothing. -/
def custodian (ids : Nat → String) : Custodian Vault := fun request v =>
  ⟨v, some (v.latency request), v.serve ids request⟩

end Vault

end FiatRamp
