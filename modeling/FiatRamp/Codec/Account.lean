import FiatRamp.Account
import FiatRamp.Codec.Money

/-!
# FiatRamp.Codec.Account

The exchange form of accounts.  The field `kind` names the kind of an account.
-/

namespace FiatRamp

open Json

def AccountKind.toJson (k : AccountKind) : Json := .text k.word

def AccountKind.ofJson? : Json → Option AccountKind := asWord? .json AccountKind.all AccountKind.word

def Wallet.fields (a : Wallet) : List (String × Json) :=
  [("label", .text a.label), ("asset", a.asset.toJson), ("address", ofOption .text a.address),
    ("balance", a.balance.toJson)]

def Wallet.ofJson? : Json → Option Wallet :=
  asRecord? .json do
    let label ← required "label" asText?
    let asset ← required "asset" Currency.ofJson?
    let address ← optional "address" asText?
    let balance ← required "balance" Money.ofJson?
    return { label, asset, address, balance }

def BankAccount.fields (a : BankAccount) : List (String × Json) :=
  [("id", .text a.id), ("label", .text a.label), ("account_number", .text a.accountNumber),
    ("account_type", .text a.accountType), ("currency", a.currency.toJson)]

def BankAccount.ofJson? : Json → Option BankAccount :=
  asRecord? .json do
    let id ← required "id" asText?
    let label ← required "label" asText?
    let accountNumber ← required "account_number" asText?
    let accountType ← required "account_type" asText?
    let currency ← required "currency" Currency.ofJson?
    return { id, label, accountNumber, accountType, currency }

def FiatAccount.fields (a : FiatAccount) : List (String × Json) :=
  [("label", .text a.label), ("currency", a.currency.toJson), ("balance", a.balance.toJson)]

def FiatAccount.ofJson? : Json → Option FiatAccount :=
  asRecord? .json do
    let label ← required "label" asText?
    let currency ← required "currency" Currency.ofJson?
    let balance ← required "balance" Money.ofJson?
    return { label, currency, balance }

def Account.toJson : Account → Json
  | .wallet a => .record (("kind", .text "wallet") :: a.fields)
  | .bank a => .record (("kind", .text "linked_bank") :: a.fields)
  | .fiat a => .record (("kind", .text "fiat") :: a.fields)

def Account.ofJson? : Json → Option Account :=
  asTagged? "kind" fun
    | "wallet", rest => (Wallet.ofJson? rest).map .wallet
    | "linked_bank", rest => (BankAccount.ofJson? rest).map .bank
    | "fiat", rest => (FiatAccount.ofJson? rest).map .fiat
    | _, _ => none

end FiatRamp
