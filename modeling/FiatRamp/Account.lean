import FiatRamp.Money

/-!
# FiatRamp.Account

The accounts money moves between: crypto wallets, bank accounts the user has
linked, and fiat accounts kept by the custodian.
-/

namespace FiatRamp

/-- The kinds of accounts. -/
inductive AccountKind where
  | cryptoWallet
  | linkedBank
  | custodialFiat
  deriving DecidableEq

namespace AccountKind

/-- The word for a kind. -/
def word : AccountKind → String
  | .cryptoWallet => "crypto_wallet"
  | .linkedBank => "linked_bank"
  | .custodialFiat => "custodial_fiat"

/-- Every kind. -/
def all : List AccountKind := [.cryptoWallet, .linkedBank, .custodialFiat]

end AccountKind

/-- A crypto wallet.  Without an address it can only send. -/
structure Wallet where
  label : String
  asset : Currency
  address : Option String
  balance : Money
  deriving DecidableEq

/-- A bank account, linked under an id. -/
structure BankAccount where
  id : String
  label : String
  accountNumber : String
  accountType : String
  currency : Currency
  deriving DecidableEq

/-- A fiat account kept by the custodian. -/
structure FiatAccount where
  label : String
  currency : Currency
  balance : Money
  deriving DecidableEq

/-- An account of any kind. -/
inductive Account where
  | wallet (account : Wallet)
  | bank (account : BankAccount)
  | fiat (account : FiatAccount)
  deriving DecidableEq

/-- Where money for an account is sent. -/
structure ReceiveAddress where
  address : String
  label : String
  deriving DecidableEq

/-- Why an account cannot be used. -/
inductive AccountError where
  /-- The wallet of this label has no address. -/
  | noReceiveAddress (label : String)
  deriving DecidableEq

/-- What the user is told. -/
def AccountError.message : AccountError → String
  | .noReceiveAddress label => "Account '" ++ label ++ "' has no receive address"

namespace Account

def kind : Account → AccountKind
  | .wallet _ => .cryptoWallet
  | .bank _ => .linkedBank
  | .fiat _ => .custodialFiat

def label : Account → String
  | .wallet a => a.label
  | .bank a => a.label
  | .fiat a => a.label

/-- The currency, or the asset of a wallet. -/
def currency : Account → Currency
  | .wallet a => a.asset
  | .bank a => a.currency
  | .fiat a => a.currency

/-- Money can come from here; of wallets, only from those that hold some. -/
def isFundingSource : Account → Bool
  | .wallet a => !a.balance.isZero
  | .bank _ | .fiat _ => true

/-- Money can go here. -/
def isReceiveTarget : Account → Bool
  | .wallet a => a.address.isSome
  | .bank _ | .fiat _ => true

/-- The balance, where it is known. -/
def balance? : Account → Option Money
  | .wallet a => some a.balance
  | .fiat a => some a.balance
  | .bank _ => none

/-- The address to send money to: a wallet's own, the id of a linked bank, the
currency code of a fiat account. -/
def receiveAddress : Account → Except AccountError ReceiveAddress
  | .wallet a =>
    match a.address with
    | some address => .ok ⟨address, a.label⟩
    | none => .error (.noReceiveAddress a.label)
  | .bank a => .ok ⟨a.id, a.label⟩
  | .fiat a => .ok ⟨a.currency.code, a.label⟩

def bank? : Account → Option BankAccount
  | .bank a => some a
  | _ => none

def fiat? : Account → Option FiatAccount
  | .fiat a => some a
  | _ => none

end Account

end FiatRamp
