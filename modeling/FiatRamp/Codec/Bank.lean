import FiatRamp.Bank
import FiatRamp.Codec.Money

/-!
# FiatRamp.Codec.Bank

The exchange form of banks, callbacks and approvals.
-/

namespace FiatRamp

open Json

def BankPartner.toJson (p : BankPartner) : Json := .text p.word

def BankPartner.ofJson? (dialect : Dialect) : Json → Option BankPartner :=
  asWord? dialect [.yapily] BankPartner.word

def BankAction.toJson (a : BankAction) : Json := .text a.word

def BankAction.ofJson? : Json → Option BankAction := asWord? .json [.pay] BankAction.word

def Callback.toJson (c : Callback) : Json :=
  .record [("partner", c.partner.toJson), ("action", c.action.toJson),
    ("redirect_url", .text c.redirectUrl)]

def Callback.ofJson? : Json → Option Callback :=
  asRecord? .json do
    let partner ← required "partner" (BankPartner.ofJson? .json)
    let action ← required "action" BankAction.ofJson?
    let redirectUrl ← required "redirect_url" asText?
    return { partner, action, redirectUrl }

def LinkedBank.toJson (b : LinkedBank) : Json :=
  .record [("id", .text b.id), ("name", .text b.name), ("account_number", .text b.accountNumber),
    ("account_type", .text b.accountType), ("currency", b.currency.toJson),
    ("partner", b.partner.toJson)]

def LinkedBank.ofJson? (dialect : Dialect) : Json → Option LinkedBank :=
  asRecord? dialect do
    let id ← required "id" asText?
    let name ← required "name" asText?
    let accountNumber ← required "account_number" asText?
    let accountType ← required "account_type" asText?
    let currency ← required "currency" Currency.ofJson?
    let partner ← required "partner" (BankPartner.ofJson? dialect)
    return { id, name, accountNumber, accountType, currency, partner }

def Approval.fields (a : Approval) : List (String × Json) :=
  [("payment_id", .text a.paymentId), ("authorisation_url", .text a.authorisationUrl),
    ("linked_bank", a.linkedBank.toJson), ("amount", a.amount.toJson)]

def Approval.toJson (a : Approval) : Json := .record a.fields

def Approval.ofJson? (dialect : Dialect) : Json → Option Approval :=
  asRecord? dialect do
    let paymentId ← required "payment_id" asText?
    let authorisationUrl ← required "authorisation_url" asText?
    let linkedBank ← required "linked_bank" (LinkedBank.ofJson? dialect)
    let amount ← required "amount" Money.ofJson?
    return { paymentId, authorisationUrl, linkedBank, amount }

end FiatRamp
