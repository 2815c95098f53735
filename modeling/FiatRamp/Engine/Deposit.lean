import FiatRamp.Engine.Basic

/-!
# FiatRamp.Engine.Deposit

Deposits: from a linked bank into a fiat account kept by the custodian.

The custodian is asked to pull the amount from the bank.  In open-banking
currencies it is given a callback, and the bank then asks the user: the engine
waits until the charge names an authorisation page, looks up the bank and hands
both on.  In other currencies the deposit is complete once it was accepted.
-/

namespace FiatRamp

namespace Deposit

/-- The name of the engine. -/
def engineName : String := "fiat_deposit"

/-- The source, which has to be a linked bank. -/
def bank (source : Account) : Except EngineError BankAccount :=
  match source.bank? with
  | some bank => .ok bank
  | none => .error (.precondition (.sourceMustBeBank source.kind))

/-- The source is a linked bank and the target a fiat account. -/
def checkAccounts (source target : Account) : Except EngineError Unit := do
  let _ ← bank source
  match target.fiat? with
  | some _ => .ok ()
  | none => .error (.precondition (.targetMustBeFiat target.kind))

/-- The summary of a deposit. -/
def confirmations (bank : BankAccount) (target : Account) (amount : Money) :
    List Confirmation :=
  [.paymentMethod bank.label bank.accountNumber bank.accountType .deposit,
    .target target.label .deposit] ++
  Confirmation.onlyIf (!bank.currency.isOpenBanking) .estimatedCompletion ++
  [.amount amount true]

/-- The charge of a payment. -/
def fetchCharge (ctx : EngineContext σ) (paymentId : String) (w : World σ) :
    Task (World σ) (Except EngineError Charge) :=
  w.ask ctx.custodian ctx.deadlines (.charge paymentId)

/-- The authorisation page, once a charge names one, and that charge. -/
def authorised (charge : Charge) : Option (String × Charge) :=
  charge.authorisationUrl.map (·, charge)

/-- Why no authorisation page was found. -/
def pollFailure (paymentId : String) : PollError EngineError → EngineError
  | .timedOut attempts => .invalidResponse (.noAuthorisationUrl paymentId attempts)
  | .cancelled _ => .cancelled
  | .producer _ cause => cause
  | .aborted reason => .invalidResponse (.approvalPollAborted reason)

/-- Waits for the authorisation page of a payment and looks up the bank. -/
def awaitApproval (ctx : EngineContext σ) (paymentId : String) (cancel : Option Duration) :
    EngineStep σ FollowUp := do
  let session ← .poll ctx.poll ctx.draw (fetchCharge ctx paymentId) authorised cancel
  let (authorisationUrl, charge) ← .ofExcept (session.mapError (pollFailure paymentId))
  let linkedBank ← .ask ctx.custodian ctx.deadlines (.linkedBank charge.linkedBankId)
  return .needsApproval { paymentId, authorisationUrl, linkedBank, amount := charge.amount }

end Deposit

/-- The engine of deposits. -/
def Engine.deposit (ctx : EngineContext σ) (source target : Account) : Engine σ where
  name := Deposit.engineName
  source := source
  target := target
  checkAccounts := Deposit.checkAccounts source target
  onInitialise := do
    let bank ← .ofExcept (Deposit.bank source)
    let limits ← .ask ctx.custodian ctx.deadlines (.limits bank.currency true)
    return (Pending.zeroed bank.currency ctx.userFiat).withLimits limits
  onFeeLevel p _ _ := return p
  onConfirmations p := do
    let bank ← .ofExcept (Deposit.bank source)
    return { p with confirmations := Deposit.confirmations bank target p.amount }
  onValidateAmount := Engine.classifyAmount Deposit.engineName
  onValidateAll := Engine.classifyAmount Deposit.engineName
  onExecute p := do
    let receive ← .ofExcept (source.receiveAddress.mapError .account)
    let callback := if source.currency.isOpenBanking then some (ctx.callback .yapily .pay) else none
    let paymentId ← Engine.submit Deposit.engineName
      (.ask ctx.custodian ctx.deadlines
        (.startTransfer receive.address p.amount p.amount.currency.code callback))
    return .payment paymentId p.amount
  onFollowUp _ result cancel := do
    if !source.currency.isOpenBanking then return .completed
    match result with
    | .payment paymentId _ => Deposit.awaitApproval ctx paymentId cancel
    | .order id _ => throw (.precondition (.resultMustBePayment id))

end FiatRamp
