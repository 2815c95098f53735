import FiatRamp.Custodian

/-!
# FiatRamp.Transfer.Limit

Bounds on the amount of a transfer, which may not have been fetched yet.
-/

namespace FiatRamp

/-- A bound on an amount. -/
inductive Limit where
  /-- Not fetched, so amounts cannot be checked. -/
  | unknown
  /-- Fetched, and there is no bound. -/
  | unbounded
  | limited (bound : Money)
  deriving DecidableEq

namespace Limit

/-- The bound was fetched. -/
def isKnown : Limit → Bool
  | .unknown => false
  | _ => true

/-- The lower bound among the limits the custodian names. -/
def lower (limits : TransferLimits) : Limit := .limited limits.min

/-- The upper bound among the limits the custodian names. -/
def upper (limits : TransferLimits) : Limit :=
  match limits.max with
  | some max => .limited max
  | none => .unbounded

end Limit

end FiatRamp
