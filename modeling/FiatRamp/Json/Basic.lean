/-!
# FiatRamp.Json.Basic

Values of JSON, as the data of a payment is exchanged and configured.

Whole numbers of 64 bits are kept exactly.  Any other number is a double in
the exchange format; it is kept as the shortest decimal that stands for that
double (`Real`).
-/

namespace FiatRamp

/-- A number `± digits * 10 ^ exponent`. -/
structure Real where
  negative : Bool
  digits : Nat
  exponent : Int
  deriving DecidableEq, Inhabited

/-- A value of JSON. -/
inductive Json where
  | null
  | bool (b : Bool)
  /-- A whole number of 64 bits, with a sign or without. -/
  | integer (n : Int)
  | real (r : Real)
  | text (s : String)
  | list (items : List Json)
  /-- Named values.  No name occurs twice. -/
  | record (fields : List (String × Json))
  deriving Inhabited

namespace Real

/-- The number in positional notation, without an exponent. -/
def toChars (r : Real) : List Char :=
  let digits := Nat.toDigits 10 r.digits
  let body :=
    if r.digits = 0 then ['0']
    else match r.exponent with
      | .ofNat zeros => digits ++ List.replicate zeros '0'
      | .negSucc n =>
        let places := n + 1
        if places < digits.length then
          digits.take (digits.length - places) ++ '.' :: digits.drop (digits.length - places)
        else '0' :: '.' :: List.replicate (places - digits.length) '0' ++ digits
  (if r.negative then ['-'] else []) ++ body

end Real

namespace Json

/-- The value under a name. -/
def field? (name : String) : Json → Option Json
  | .record fields => fields.lookup name
  | _ => none

/-- Puts a value under a name, in place of what stood there. -/
def putField (fields : List (String × Json)) (name : String) (value : Json) :
    List (String × Json) :=
  if fields.any (·.1 == name) then
    fields.map fun field => if field.1 == name then (name, value) else field
  else fields ++ [(name, value)]

end Json

end FiatRamp
