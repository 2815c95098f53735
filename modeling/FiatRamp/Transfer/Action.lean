/-!
# FiatRamp.Transfer.Action

What the user is doing with the two accounts of a transfer.
-/

namespace FiatRamp

/-- What the user is doing. -/
inductive TransferAction where
  | send
  | deposit
  | withdraw
  deriving DecidableEq

namespace TransferAction

/-- The word for an action. -/
def word : TransferAction → String
  | .send => "send"
  | .deposit => "fiat_deposit"
  | .withdraw => "withdraw"

/-- Every action. -/
def all : List TransferAction := [.send, .deposit, .withdraw]

end TransferAction

end FiatRamp
