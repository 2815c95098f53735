import FiatRamp.Duration

/-!
# FiatRamp.Delay

How long to wait between two attempts.

The exponential schedule doubles a base up to a cap, and adds a random part of
up to a tenth so that many waiting callers spread out.  All of it is arithmetic
on 64-bit milliseconds that stops at the largest one.
-/

namespace FiatRamp

/-- The largest number of 64 bits. -/
def maxWord : Nat := Nat.pow 2 64 - 1

/-- `n`, or the largest number of 64 bits if it is more. -/
def saturate (n : Nat) : Nat := min n maxWord

/-- `2 ^ n`, or the largest number of 64 bits if that is more. -/
def saturatedPower (n : Nat) : Nat := if 64 ≤ n then maxWord else Nat.pow 2 n

/-- The wait between attempts. -/
inductive Delay where
  | fixed (wait : Duration)
  | exponential (baseMillis maxMillis : UInt64)
  deriving DecidableEq

namespace Delay

/-- The milliseconds an exponential schedule waits at least after an attempt:
the base, doubled for every attempt before, up to the cap. -/
def leastMillis (attempt : Nat) (baseMillis maxMillis : UInt64) : Nat :=
  if attempt = 0 then 0
  else min (saturate (baseMillis.toNat * saturatedPower (attempt - 1))) maxMillis.toNat

/-- The random part of a wait: below a tenth of the least wait, and none where
that is no whole millisecond.  `draw` is the random number it is taken from. -/
def jitterMillis (least draw : Nat) : Nat := if 0 < least / 10 then draw % (least / 10) else 0

/-- The milliseconds an exponential schedule waits after an attempt. -/
def backoffMillis (attempt : Nat) (baseMillis maxMillis : UInt64) (draw : Nat) : Nat :=
  let least := leastMillis attempt baseMillis maxMillis
  saturate (least + jitterMillis least draw)

/-- The longest that an exponential schedule waits after an attempt. -/
def mostMillis (attempt : Nat) (baseMillis maxMillis : UInt64) : Nat :=
  let least := leastMillis attempt baseMillis maxMillis
  saturate (least + (least / 10 - 1))

/-- The wait after an attempt, the first of which is 1. -/
def after (delay : Delay) (attempt draw : Nat) : Duration :=
  match delay with
  | .fixed wait => wait
  | .exponential base cap => .ofMillis (backoffMillis attempt base cap draw)

end Delay

end FiatRamp
