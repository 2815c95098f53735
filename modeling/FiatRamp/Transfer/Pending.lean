import FiatRamp.Transfer.Confirmation
import FiatRamp.Transfer.Fee
import FiatRamp.Transfer.Limit
import FiatRamp.Transfer.Stage

/-!
# FiatRamp.Transfer.Pending

A transfer in progress, and the rules its amount is checked by.

`Pending.classifyAmount` holds the amount against the limits and
`Pending.classifyBalance` holds amount and fee against the balance.  Both fail
only where money of two currencies meets, the second also where the total has
no decimal.
-/

namespace FiatRamp

/-- A transfer in progress. -/
structure Pending where
  /-- What the user wants to move. -/
  amount : Money
  totalBalance : Money
  availableBalance : Money
  /-- The fee for moving the whole available balance. -/
  feeForFullAvailable : Money
  feeAmount : Money
  /-- The fiat currency the user reads amounts in. -/
  selectedFiat : Currency
  minLimit : Limit
  maxLimit : Limit
  feeSelection : FeeSelection
  verdict : Verdict
  confirmations : List Confirmation
  stage : Stage
  deriving DecidableEq

namespace Pending

/-- A transfer of nothing in `currency`, its limits unknown. -/
def zeroed (currency selectedFiat : Currency) : Pending where
  amount := .zero currency
  totalBalance := .zero currency
  availableBalance := .zero currency
  feeForFullAvailable := .zero currency
  feeAmount := .zero currency
  selectedFiat := selectedFiat
  minLimit := .unknown
  maxLimit := .unknown
  feeSelection := .noFee
  verdict := .uninitialised
  confirmations := []
  stage := .uninitialised

/-- The same transfer within the limits the custodian names. -/
def withLimits (p : Pending) (limits : TransferLimits) : Pending :=
  { p with minLimit := .lower limits, maxLimit := .upper limits }

/-- What leaves the account: amount and fee. -/
def totalOutgoing (p : Pending) : Except MoneyError Money := p.amount.add p.feeAmount

/-- No amount was entered and nothing was validated. -/
def isUntouched (p : Pending) : Bool := p.verdict == .uninitialised && p.amount.isZero

/-! ## Classification -/

/-- The amount lies below a lower bound. -/
def isBelow (amount : Money) : Limit → Except MoneyError Bool
  | .limited bound => amount.isLess bound
  | _ => .ok false

/-- The amount lies above an upper bound. -/
def isAbove (amount : Money) : Limit → Except MoneyError Bool
  | .limited bound => amount.isGreater bound
  | _ => .ok false

/-- Holds the amount against the limits.  The lower limit is looked at first. -/
def classifyAmount (p : Pending) : Except MoneyError Verdict := do
  if !p.minLimit.isKnown || !p.maxLimit.isKnown then return .unknownError
  if p.amount.isZero then return .invalidAmount
  if ← isBelow p.amount p.minLimit then return .underMinLimit
  if ← isAbove p.amount p.maxLimit then return .overMaxLimit
  return .canExecute

/-- Holds amount and fee against the available balance. -/
def classifyBalance (p : Pending) : Except MoneyError Verdict := do
  let total ← p.totalOutgoing
  if ← total.isGreater p.availableBalance then return .insufficientFunds
  return .canExecute

end Pending

end FiatRamp
