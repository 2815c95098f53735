import FiatRamp.Json.Decode
import FiatRamp.Money

/-!
# FiatRamp.Codec.Money

The exchange form of money and currencies.

A decimal is written as text, so that its scale is kept; it may be read from a
number as well.
-/

namespace FiatRamp

def Currency.toJson (c : Currency) : Json := .text c.code

def Currency.ofJson? : Json → Option Currency
  | .text s => Currency.ofText? s
  | _ => none

/-- A whole number as a decimal. -/
def Decimal.ofWhole? (n : Int) : Option Decimal := Decimal.ofUnits? n 0

def Decimal.toJson (d : Decimal) : Json := .text d.toText

def Decimal.ofJson? : Json → Option Decimal
  | .text s => Decimal.ofText? s
  | .integer n => Decimal.ofWhole? n
  | .real r => Decimal.ofChars? r.toChars
  | _ => none

def Money.toJson (m : Money) : Json :=
  .record [("value", m.value.toJson), ("currency", m.currency.toJson)]

def Money.ofJson? : Json → Option Money :=
  Json.asRecord? .json do
    let value ← Json.required "value" Decimal.ofJson?
    let currency ← Json.required "currency" Currency.ofJson?
    return { value, currency }

end FiatRamp
