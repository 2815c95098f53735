/-!
# FiatRamp.Transfer.Stage

Where a transfer stands: the stage of its flow and the verdict of its last
validation.

A flow runs from `amountEntry` over `feeSelected`, `validated` and `confirmed`
to `executing`, and ends in one of three terminal stages.
-/

namespace FiatRamp

/-- The stage of a flow. -/
inductive Stage where
  | uninitialised
  | amountEntry
  | feeSelected
  | validated
  | confirmed
  | executing
  | succeeded
  | awaitingApproval
  | failed
  deriving DecidableEq

namespace Stage

/-- The word for a stage. -/
def word : Stage → String
  | .uninitialised => "uninitialised"
  | .amountEntry => "amount_entry"
  | .feeSelected => "fee_selected"
  | .validated => "validated"
  | .confirmed => "confirmed"
  | .executing => "executing"
  | .succeeded => "succeeded"
  | .awaitingApproval => "awaiting_approval"
  | .failed => "failed"

/-- Every stage, in the order of the flow. -/
def all : List Stage :=
  [.uninitialised, .amountEntry, .feeSelected, .validated, .confirmed, .executing, .succeeded,
    .awaitingApproval, .failed]

/-- The flow has ended. -/
def isTerminal : Stage → Bool
  | .succeeded | .awaitingApproval | .failed => true
  | _ => false

end Stage

/-- What the last validation found. -/
inductive Verdict where
  /-- Nothing was validated yet. -/
  | uninitialised
  | canExecute
  | invalidAmount
  | underMinLimit
  | overMaxLimit
  | insufficientFunds
  /-- The limits are not known, so the amount could not be checked. -/
  | unknownError
  deriving DecidableEq

namespace Verdict

/-- The word for a verdict in labels. -/
def word : Verdict → String
  | .uninitialised => "uninitialised"
  | .canExecute => "can_execute"
  | .invalidAmount => "invalid_amount"
  | .underMinLimit => "under_min_limit"
  | .overMaxLimit => "over_max_limit"
  | .insufficientFunds => "insufficient_funds"
  | .unknownError => "unknown_error"

/-- The word for a verdict in exchanged data. -/
def dataWord : Verdict → String
  | .uninitialised => "UNINITIALISED"
  | .canExecute => "CAN_EXECUTE"
  | .invalidAmount => "INVALID_AMOUNT"
  | .underMinLimit => "UNDER_MIN_LIMIT"
  | .overMaxLimit => "OVER_MAX_LIMIT"
  | .insufficientFunds => "INSUFFICIENT_FUNDS"
  | .unknownError => "UNKNOWN_ERROR"

/-- The name of a verdict in messages. -/
def name : Verdict → String
  | .uninitialised => "Uninitialised"
  | .canExecute => "CanExecute"
  | .invalidAmount => "InvalidAmount"
  | .underMinLimit => "UnderMinLimit"
  | .overMaxLimit => "OverMaxLimit"
  | .insufficientFunds => "InsufficientFunds"
  | .unknownError => "UnknownError"

/-- Every verdict. -/
def all : List Verdict :=
  [.uninitialised, .canExecute, .invalidAmount, .underMinLimit, .overMaxLimit, .insufficientFunds,
    .unknownError]

end Verdict

end FiatRamp
