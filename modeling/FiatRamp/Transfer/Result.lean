import FiatRamp.Bank

/-!
# FiatRamp.Transfer.Result

What a transfer gives once the custodian has accepted it, and what the user
still has to do.
-/

namespace FiatRamp

/-- A submission the custodian accepted. -/
inductive TransferResult where
  /-- A payment, known by an id of its own. -/
  | payment (paymentId : String) (amount : Money)
  /-- An order inside the custodian. -/
  | order (orderId : String) (amount : Money)
  deriving DecidableEq

namespace TransferResult

/-- The id of the payment or order. -/
def id : TransferResult → String
  | .payment id _ => id
  | .order id _ => id

def amount : TransferResult → Money
  | .payment _ amount => amount
  | .order _ amount => amount

end TransferResult

/-- What follows an accepted submission. -/
inductive FollowUp where
  /-- Nothing; the transfer is complete. -/
  | completed
  /-- The user has to authorise the payment at their bank. -/
  | needsApproval (approval : Approval)
  deriving DecidableEq

end FiatRamp
