import FiatRamp.Json.Token

/-!
# FiatRamp.Json.Reader

Reading JSON text.

A value is read from the tokens of the text.  Lists and records may be nested
at most 127 deep.  Of two values under one name the later stays.
-/

namespace FiatRamp.Json

/-- How many brackets may be open at once, plus one. -/
def depthBound : Nat := 128

mutual

/-- Reads a value and gives the tokens behind it. -/
def readValue (depth : Nat) : (fuel : Nat) → List Token → Option (Json × List Token)
  | 0, _ => none
  | _ + 1, .scalar value :: rest => some (value, rest)
  | fuel + 1, .listOpen :: rest =>
    if depth ≤ 1 then none
    else match rest with
      | .listClose :: rest => some (.list [], rest)
      | _ => readItems (depth - 1) [] fuel rest
  | fuel + 1, .recordOpen :: rest =>
    if depth ≤ 1 then none
    else match rest with
      | .recordClose :: rest => some (.record [], rest)
      | _ => readFields (depth - 1) [] fuel rest
  | _ + 1, _ => none

/-- Reads the items of a list up to its end; `acc` holds those read, last one
first. -/
def readItems (depth : Nat) (acc : List Json) : (fuel : Nat) → List Token →
    Option (Json × List Token)
  | 0, _ => none
  | fuel + 1, tokens =>
    match readValue depth fuel tokens with
    | some (value, .comma :: rest) => readItems depth (value :: acc) fuel rest
    | some (value, .listClose :: rest) => some (.list (value :: acc).reverse, rest)
    | _ => none

/-- Reads the fields of a record up to its end. -/
def readFields (depth : Nat) (acc : List (String × Json)) : (fuel : Nat) → List Token →
    Option (Json × List Token)
  | 0, _ => none
  | fuel + 1, .scalar (.text name) :: .colon :: tokens =>
    match readValue depth fuel tokens with
    | some (value, .comma :: rest) => readFields depth (putField acc name value) fuel rest
    | some (value, .recordClose :: rest) => some (.record (putField acc name value), rest)
    | _ => none
  | _ + 1, _ => none

end

/-- The value a text stands for. -/
def ofText? (s : String) : Option Json := do
  let tokens ← tokens? s.toList
  match readValue depthBound (2 * tokens.length + 1) tokens with
  | some (value, []) => some value
  | _ => none

end FiatRamp.Json
