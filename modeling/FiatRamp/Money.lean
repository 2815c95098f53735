import FiatRamp.Currency
import FiatRamp.Decimal.Reader

/-!
# FiatRamp.Money

Amounts of money: a decimal and the currency it counts.

Amounts of different currencies are never compared or added; the operations
on two amounts say so before anything else (`Money.mismatch`).
-/

namespace FiatRamp

/-- An amount of money. -/
structure Money where
  value : Decimal
  currency : Currency
  deriving DecidableEq

/-- Why an operation on money failed. -/
inductive MoneyError where
  /-- Two amounts are of different currencies. -/
  | currencyMismatch (left right : Currency)
  /-- A sum is too large for a decimal. -/
  | overflow (left right : Money)
  /-- A text, here without the blanks around it, names no currency. -/
  | invalidCurrency (code : String)
  /-- A text is no decimal. -/
  | invalidAmount (amount : String)
  deriving DecidableEq

namespace Money

/-- Nothing, in a currency. -/
def zero (currency : Currency) : Money := ⟨.zero, currency⟩

/-- Whole units of a currency. -/
def ofMajor (units : Int64) (currency : Currency) : Money := ⟨.ofInt64 units, currency⟩

def isZero (m : Money) : Bool := m.value.isZero

def isNegative (m : Money) : Bool := m.value.isNegative

/-- An amount as text, `10.50 GBP`. -/
def toText (m : Money) : String := m.value.toText ++ " " ++ m.currency.code

/-- The same value in the same currency; the scale does not matter. -/
def same (a b : Money) : Bool := a.value.sameValue b.value && a.currency == b.currency

/-! ## Two amounts of one currency -/

/-- Fails unless both amounts are of one currency. -/
def mismatch (a b : Money) : Except MoneyError Unit :=
  if a.currency = b.currency then .ok () else .error (.currencyMismatch a.currency b.currency)

/-- Orders two amounts by value. -/
def compare (a b : Money) : Except MoneyError Ordering :=
  (a.mismatch b).map fun _ => a.value.compare b.value

/-- The first amount is less than the second. -/
def isLess (a b : Money) : Except MoneyError Bool := (a.compare b).map (· == .lt)

/-- The first amount is more than the second. -/
def isGreater (a b : Money) : Except MoneyError Bool := (a.compare b).map (· == .gt)

/-- The sum of two amounts. -/
def add (a b : Money) : Except MoneyError Money := do
  a.mismatch b
  match a.value.add? b.value with
  | some value => .ok ⟨value, a.currency⟩
  | none => .error (.overflow a b)

/-! ## From text -/

/-- An amount from the text of a decimal, blanks around it aside. -/
def parse (amount : String) (currency : Currency) : Except MoneyError Money :=
  match Decimal.ofText? (trim amount) with
  | some value => .ok ⟨value, currency⟩
  | none => .error (.invalidAmount amount)

end Money

/-- The currency a text names, or the code that is refused. -/
def Currency.parse (s : String) : Except MoneyError Currency :=
  match Currency.ofText? s with
  | some currency => .ok currency
  | none => .error (.invalidCurrency (trim s))

/-- What a failed operation tells the user. -/
def MoneyError.message : MoneyError → String
  | .currencyMismatch left right => "Currency mismatch: " ++ left.code ++ " vs " ++ right.code
  | .overflow left right =>
    "Arithmetic overflow adding " ++ left.toText ++ " and " ++ right.toText
  | .invalidCurrency code => "Invalid currency code '" ++ code ++ "'"
  | .invalidAmount amount => "Invalid amount '" ++ amount ++ "'"

end FiatRamp
