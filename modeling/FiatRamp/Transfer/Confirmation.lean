import FiatRamp.Money
import FiatRamp.Transfer.Action

/-!
# FiatRamp.Transfer.Confirmation

What the user is shown before a transfer is submitted, line by line.
-/

namespace FiatRamp

/-- A line of the summary. -/
inductive Confirmation where
  /-- The bank account that pays. -/
  | paymentMethod (label accountNumber accountType : String) (action : TransferAction)
  | source (label : String)
  | target (label : String) (action : TransferAction)
  /-- The money arrives after the usual settlement, not at once. -/
  | estimatedCompletion
  | fee (fee : Money)
  | amount (amount : Money) (isImportant : Bool)
  | total (total : Money)
  deriving DecidableEq

/-- A line that is shown only under a condition. -/
def Confirmation.onlyIf (condition : Bool) (line : Confirmation) : List Confirmation :=
  if condition then [line] else []

end FiatRamp
