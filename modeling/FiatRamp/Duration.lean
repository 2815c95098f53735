/-!
# FiatRamp.Duration

Spans of time, counted in nanoseconds.

A duration is a natural number, so the arithmetic of deadlines is that of
numbers.  `Duration.toText` writes one in the largest unit of which it has at
least one, with as many digits after the point as it needs.
-/

namespace FiatRamp

/-- A span of time in nanoseconds. -/
abbrev Duration := Nat

namespace Duration

/-- A number of milliseconds. -/
def ofMillis (n : Nat) : Duration := n * 1000000

/-- A number of seconds. -/
def ofSecs (n : Nat) : Duration := n * 1000000000

/-- The whole milliseconds of a duration. -/
def toMillis (d : Duration) : Nat := d / 1000000

/-- The digits of `rest` units of `10 ^ -places`, without zeros at the end. -/
def fractionDigits (rest places : Nat) : List Char :=
  let digits := Nat.toDigits 10 rest
  let padded := List.replicate (places - digits.length) '0' ++ digits
  (padded.reverse.dropWhile (· == '0')).reverse

/-- `d` in units of `10 ^ places` nanoseconds. -/
def inUnit (d : Duration) (places : Nat) (unit : String) : String :=
  let whole := Nat.toDigits 10 (d / Nat.pow 10 places)
  let fraction := if d % Nat.pow 10 places = 0 then []
    else '.' :: fractionDigits (d % Nat.pow 10 places) places
  String.ofList (whole ++ fraction) ++ unit

/-- A duration as text, such as `10s`, `1.5ms` or `0ns`. -/
def toText (d : Duration) : String :=
  if 1000000000 ≤ d then inUnit d 9 "s"
  else if 1000000 ≤ d then inUnit d 6 "ms"
  else if 1000 ≤ d then inUnit d 3 "µs"
  else inUnit d 0 "ns"

end Duration

end FiatRamp
