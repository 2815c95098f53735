import FiatRamp.Engine.Basic

/-!
# FiatRamp.Engine.Withdrawal

Withdrawals: from a fiat account kept by the custodian to a linked bank.

Amount and fee have to fit the balance, and both accounts have to be of one
currency.  A withdrawal is an order inside the custodian, so it is complete
once it was accepted.
-/

namespace FiatRamp

namespace Withdrawal

/-- The name of the engine. -/
def engineName : String := "fiat_withdraw"

/-- The source, which has to be a fiat account. -/
def fiat (source : Account) : Except EngineError FiatAccount :=
  match source.fiat? with
  | some fiat => .ok fiat
  | none => .error (.precondition (.sourceMustBeFiat source.kind))

/-- The target, which has to be a linked bank. -/
def bank (target : Account) : Except EngineError BankAccount :=
  match target.bank? with
  | some bank => .ok bank
  | none => .error (.precondition (.targetMustBeBank target.kind))

/-- The source is a fiat account and the target a linked bank of its currency. -/
def checkAccounts (source target : Account) : Except EngineError Unit := do
  let fiat ← fiat source
  let bank ← bank target
  if fiat.currency = bank.currency then .ok ()
  else .error (.precondition (.currenciesMustAgree fiat.currency bank.currency))

/-- A transfer of nothing from an account with a balance. -/
def opening (fiat : FiatAccount) (userFiat : Currency) (limits : TransferLimits) (fee : Money) :
    Pending :=
  { (Pending.zeroed fiat.currency userFiat).withLimits limits with
    totalBalance := fiat.balance
    availableBalance := fiat.balance
    feeForFullAvailable := fee
    feeAmount := fee }

/-- The summary of a withdrawal. -/
def confirmations (source target : Account) (fee amount total : Money) : List Confirmation :=
  [.source source.label, .target target.label .withdraw, .fee fee, .estimatedCompletion,
    .amount amount false, .total total]

/-- Holds amount and fee against the balance, once the amount has passed, and
counts the verdict if it is another one. -/
def classifyBalance (p : Pending) : EngineStep σ Pending := do
  if p.verdict ≠ .canExecute then return p
  let verdict ← .ofMoney p.classifyBalance
  if verdict ≠ .canExecute then .record (.validation engineName verdict)
  return { p with verdict }

end Withdrawal

/-- The engine of withdrawals. -/
def Engine.withdrawal (ctx : EngineContext σ) (source target : Account) : Engine σ where
  name := Withdrawal.engineName
  source := source
  target := target
  checkAccounts := Withdrawal.checkAccounts source target
  onInitialise := do
    let fiat ← .ofExcept (Withdrawal.fiat source)
    let limits ← .ask ctx.custodian ctx.deadlines (.limits fiat.currency false)
    let fee ← .ask ctx.custodian ctx.deadlines (.withdrawalFee fiat.currency)
    return Withdrawal.opening fiat ctx.userFiat limits fee
  onFeeLevel p _ _ := return p
  onConfirmations p := do
    let total ← .ofMoney p.totalOutgoing
    return { p with
      confirmations := Withdrawal.confirmations source target p.feeAmount p.amount total }
  onValidateAmount := Engine.classifyAmount Withdrawal.engineName
  onValidateAll p := do
    let p ← Engine.classifyAmount Withdrawal.engineName p
    Withdrawal.classifyBalance p
  onExecute p := do
    let bank ← .ofExcept (Withdrawal.bank target)
    let orderId ← Engine.submit Withdrawal.engineName
      (.ask ctx.custodian ctx.deadlines (.withdraw bank.id p.amount))
    return .order orderId p.amount
  onFollowUp _ _ _ := return .completed

end FiatRamp
