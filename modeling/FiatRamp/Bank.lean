import FiatRamp.Money

/-!
# FiatRamp.Bank

Linked banks, and what authorising a payment at one of them takes.

In open-banking currencies the user approves a payment at their bank: the
custodian is given a callback that leads the user back, and offers a page
where the payment is authorised.
-/

namespace FiatRamp

/-- The companies that connect to banks. -/
inductive BankPartner where
  | yapily
  deriving DecidableEq

/-- The word for a partner. -/
def BankPartner.word : BankPartner → String
  | .yapily => "yapily"

/-- What a bank is asked to do. -/
inductive BankAction where
  | pay
  deriving DecidableEq

/-- The word for an action. -/
def BankAction.word : BankAction → String
  | .pay => "pay"

/-- Where a bank sends the user once a payment was authorised. -/
structure Callback where
  partner : BankPartner
  action : BankAction
  redirectUrl : String
  deriving DecidableEq

/-- A bank as the custodian knows it. -/
structure LinkedBank where
  id : String
  name : String
  accountNumber : String
  accountType : String
  currency : Currency
  partner : BankPartner
  deriving DecidableEq

/-- A payment that waits for the user to authorise it at their bank. -/
structure Approval where
  paymentId : String
  authorisationUrl : String
  linkedBank : LinkedBank
  amount : Money
  deriving DecidableEq

end FiatRamp
