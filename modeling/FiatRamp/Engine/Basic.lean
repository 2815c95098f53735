import FiatRamp.Transfer.Pending
import FiatRamp.Transfer.Result
import FiatRamp.World

/-!
# FiatRamp.Engine.Basic

Engines: one way of moving money between two accounts.

An engine is bound to a source and a target.  Its hooks hold what differs from
engine to engine; the stages of a transfer (`Engine.initialise` to
`Engine.followUp`) call them, each after checking that the two accounts suit
the engine.  What fails after the submission was accepted keeps the id of what
was submitted.
-/

namespace FiatRamp

/-- A way of moving money, bound to its two accounts.  The state of the
custodian is `σ`. -/
structure Engine (σ : Type) where
  /-- The name in messages and labels. -/
  name : String
  source : Account
  target : Account
  /-- Fails unless the accounts suit the engine. -/
  checkAccounts : Except EngineError Unit
  onInitialise : EngineStep σ Pending
  onFeeLevel : Pending → FeeLevel → Option UInt64 → EngineStep σ Pending
  onConfirmations : Pending → EngineStep σ Pending
  onValidateAmount : Pending → EngineStep σ Pending
  onValidateAll : Pending → EngineStep σ Pending
  onExecute : Pending → EngineStep σ TransferResult
  /-- The last argument is the time at which the user cancels. -/
  onFollowUp : Pending → TransferResult → Option Duration → EngineStep σ FollowUp

namespace Engine

/-- Fails unless the accounts suit the engine. -/
def assertAccounts (e : Engine σ) : EngineStep σ Unit := .ofExcept e.checkAccounts

/-- A transfer of nothing, with its limits. -/
def initialise (e : Engine σ) : EngineStep σ Pending := do
  e.assertAccounts
  e.onInitialise

/-- Replaces the amount.  Nothing is validated yet. -/
def updateAmount (e : Engine σ) (p : Pending) (amount : Money) : EngineStep σ Pending := do
  e.assertAccounts
  if amount.isNegative then throw (.precondition (.amountMustNotBeNegative amount))
  return { p with amount }

/-- Chooses another fee level. -/
def updateFeeLevel (e : Engine σ) (p : Pending) (level : FeeLevel) (customFee : Option UInt64) :
    EngineStep σ Pending := do
  e.assertAccounts
  if !p.feeSelection.isAvailable level then
    throw (.precondition (.levelMustBeAvailable level e.name))
  match p.feeSelection.select level customFee with
  | some feeSelection => e.onFeeLevel { p with feeSelection } level customFee
  | none => throw (.precondition (.levelMustBeOffered level p.feeSelection.available))

/-- Replaces the summary the user confirms. -/
def buildConfirmations (e : Engine σ) (p : Pending) : EngineStep σ Pending := do
  e.assertAccounts
  e.onConfirmations p

/-- Holds the amount against the limits. -/
def validateAmount (e : Engine σ) (p : Pending) : EngineStep σ Pending := do
  e.assertAccounts
  e.onValidateAmount p

/-- Checks everything that can be checked before the submission. -/
def validateAll (e : Engine σ) (p : Pending) : EngineStep σ Pending := do
  e.assertAccounts
  e.onValidateAll p

/-- Submits the transfer to the custodian. -/
def execute (e : Engine σ) (p : Pending) : EngineStep σ TransferResult := do
  e.assertAccounts
  e.onExecute p

/-- Sees to what follows a submission the custodian accepted. -/
def followUp (e : Engine σ) (p : Pending) (result : TransferResult) (cancel : Option Duration) :
    ExceptT FollowUpError (StateM (World σ)) FollowUp :=
  ExceptT.mk fun w =>
    let (outcome, w) := (do e.assertAccounts; e.onFollowUp p result cancel : EngineStep σ _).run.run w
    (outcome.mapError fun cause => ⟨result.id, cause⟩, w)

/-! ## What engines share -/

/-- Holds the amount against the limits and counts the verdict.  A transfer
nobody has touched is left alone. -/
def classifyAmount (name : String) (p : Pending) : EngineStep σ Pending := do
  if p.isUntouched then return p
  let verdict ← .ofMoney p.classifyAmount
  .record (.validation name verdict)
  return { p with verdict }

/-- Makes the submission and counts it.  The answer is the id of what was
submitted. -/
def submit (name : String) (step : EngineStep σ String) : EngineStep σ String := do
  let answer ← step.attempt
  .record (.submission name (match answer with | .ok _ => true | .error _ => false))
  .ofExcept answer

end Engine

/-- What engines work with. -/
structure EngineContext (σ : Type) where
  custodian : Custodian σ
  /-- Where a bank sends the user after a payment. -/
  callback : BankPartner → BankAction → Callback
  deadlines : Deadlines
  /-- The bounds of waiting for a bank's authorisation page. -/
  poll : PollSettings
  /-- The random numbers of the waits in between. -/
  draw : Nat → Nat
  /-- The fiat currency the user reads amounts in. -/
  userFiat : Currency

end FiatRamp
