import FiatRamp.Account
import FiatRamp.Custodian
import FiatRamp.Transfer.Action
import FiatRamp.Transfer.Fee
import FiatRamp.Transfer.Stage

/-!
# FiatRamp.Transfer.Error

Why a transfer does not go on.

An `EngineError` comes from one step of a transfer.  After the custodian has
accepted a submission it is wrapped in a `FollowUpError`, which keeps the id of
what was submitted.  A `FlowError` is what the flow reports.
-/

namespace FiatRamp

/-- A condition of a step that does not hold. -/
inductive Precondition where
  | sourceMustBeBank (got : AccountKind)
  | sourceMustBeFiat (got : AccountKind)
  | targetMustBeBank (got : AccountKind)
  | targetMustBeFiat (got : AccountKind)
  /-- A withdrawal goes to an account of its own currency. -/
  | currenciesMustAgree (source target : Currency)
  | amountMustNotBeNegative (amount : Money)
  /-- The engine of this name does not offer the level. -/
  | levelMustBeAvailable (level : FeeLevel) (engine : String)
  /-- The level chosen is none of those on offer. -/
  | levelMustBeOffered (level : FeeLevel) (offered : List FeeLevel)
  /-- A deposit is followed up by the id of a payment, not of an order. -/
  | resultMustBePayment (id : String)
  /-- A condition in words of the caller. -/
  | stated (condition : String)
  deriving DecidableEq

/-- What the user is told. -/
def Precondition.message : Precondition → String
  | .sourceMustBeBank got => "source must be a linked bank, got " ++ got.word
  | .sourceMustBeFiat got => "source must be a custodial fiat account, got " ++ got.word
  | .targetMustBeBank got => "target must be a linked bank, got " ++ got.word
  | .targetMustBeFiat got => "target must be a custodial fiat account, got " ++ got.word
  | .currenciesMustAgree source target =>
    "cannot withdraw " ++ source.code ++ " to a " ++ target.code ++ " bank account"
  | .amountMustNotBeNegative amount => "amount " ++ amount.toText ++ " is negative"
  | .levelMustBeAvailable level engine =>
    "fee level " ++ level.name ++ " is not available for " ++ engine
  | .levelMustBeOffered level offered =>
    "fee level " ++ level.name ++ " is not one of [" ++
      ", ".intercalate (offered.map FeeLevel.name) ++ "]"
  | .resultMustBePayment id => "deposit result " ++ id ++ " has no payment id"
  | .stated condition => condition

/-- An answer from outside that makes no sense. -/
inductive InvalidResponse where
  /-- The bank never offered a page to authorise the payment. -/
  | noAuthorisationUrl (paymentId : String) (attempts : Nat)
  /-- Waiting for that page broke down. -/
  | approvalPollAborted (reason : String)
  /-- In words of the caller. -/
  | stated (text : String)
  deriving DecidableEq

/-- What the user is told. -/
def InvalidResponse.message : InvalidResponse → String
  | .noAuthorisationUrl id attempts =>
    "no authorisation url returned for payment " ++ id ++ " after " ++ toString attempts ++
      " attempts"
  | .approvalPollAborted reason => "approval poll aborted: " ++ reason
  | .stated text => text

/-- Why a step of a transfer failed. -/
inductive EngineError where
  | precondition (condition : Precondition)
  /-- No engine does this between accounts of these kinds. -/
  | unsupported (source target : AccountKind) (action : TransferAction)
  | provider (cause : ProviderError)
  /-- The custodian did not answer in time. -/
  | timeout (operation : String) (limit : Duration)
  | invalidResponse (response : InvalidResponse)
  | money (cause : MoneyError)
  | account (cause : AccountError)
  /-- The user cancelled. -/
  | cancelled
  deriving DecidableEq

/-- What the user is told. -/
def EngineError.message : EngineError → String
  | .precondition condition => "Precondition failed: " ++ condition.message
  | .unsupported source target action =>
    "No engine for " ++ action.word ++ " from " ++ source.word ++ " to " ++ target.word
  | .provider cause => "Provider error: " ++ cause.message
  | .timeout operation limit => operation ++ " timed out after " ++ limit.toText
  | .invalidResponse response => "Invalid external response: " ++ response.message
  | .money cause => cause.message
  | .account cause => cause.message
  | .cancelled => "Cancelled"

/-- A failure after the custodian has accepted the submission. -/
structure FollowUpError where
  /-- The id of the payment or order that was submitted. -/
  transferId : String
  cause : EngineError
  deriving DecidableEq

/-- What the user is told. -/
def FollowUpError.message (e : FollowUpError) : String :=
  "Transfer " ++ e.transferId ++ " was submitted but post-execute failed: " ++ e.cause.message

/-- What a flow can be asked to do. -/
inductive FlowOperation where
  | updateAmount
  | updateFeeLevel
  | validate
  | buildConfirmations
  | execute
  deriving DecidableEq

/-- The words for an operation. -/
def FlowOperation.words : FlowOperation → String
  | .updateAmount => "update amount"
  | .updateFeeLevel => "update fee level"
  | .validate => "validate"
  | .buildConfirmations => "build confirmations"
  | .execute => "execute"

/-- Why a flow did not do what it was asked. -/
inductive FlowError where
  /-- The flow has ended. -/
  | finished (stage : Stage)
  /-- The operation has no place at this stage. -/
  | illegalTransition (stage : Stage) (operation : FlowOperation)
  /-- The last validation before the submission did not pass. -/
  | notExecutable (verdict : Verdict)
  /-- A failure before anything was submitted. -/
  | engine (cause : EngineError)
  /-- A failure after the submission was accepted. -/
  | postSubmission (failure : FollowUpError)
  deriving DecidableEq

/-- What the user is told. -/
def FlowError.message : FlowError → String
  | .finished stage => "Flow already ended in " ++ stage.word
  | .illegalTransition stage operation =>
    "Cannot " ++ operation.words ++ " while " ++ stage.word
  | .notExecutable verdict => "Transaction is not executable: " ++ verdict.name
  | .engine cause => cause.message
  | .postSubmission failure => failure.message

end FiatRamp
