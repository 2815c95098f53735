import FiatRamp.Custodian

/-!
# FiatRamp.Custodian.Script

A custodian that answers from a script, to rehearse how a transfer copes with
a backend.

Each request takes the next reply of its kind.  A reply may wait, and then
answers, fails, or leaves the answer to another custodian; that one also
answers once the replies are used up.
-/

namespace FiatRamp

/-- A reply to a request. -/
structure Reply (α : Type) where
  delay : Duration
  /-- The answer, unless it is left to the other custodian. -/
  answer : Option (Except ProviderError α)

/-- The replies of each kind, the next one first. -/
structure Script where
  limits : List (Reply TransferLimits)
  startTransfer : List (Reply String)
  charge : List (Reply Charge)
  linkedBank : List (Reply LinkedBank)
  withdrawalFee : List (Reply Money)
  withdraw : List (Reply String)

namespace Script

/-- A script without replies. -/
def empty : Script := ⟨[], [], [], [], [], []⟩

/-- The next reply to a request, and the script without it. -/
def next (s : Script) : (request : Request) → Option (Reply request.Answer) × Script
  | .limits .. => (s.limits.head?, { s with limits := s.limits.tail })
  | .startTransfer .. =>
    (s.startTransfer.head?, { s with startTransfer := s.startTransfer.tail })
  | .charge _ => (s.charge.head?, { s with charge := s.charge.tail })
  | .linkedBank _ => (s.linkedBank.head?, { s with linkedBank := s.linkedBank.tail })
  | .withdrawalFee _ =>
    (s.withdrawalFee.head?, { s with withdrawalFee := s.withdrawalFee.tail })
  | .withdraw .. => (s.withdraw.head?, { s with withdraw := s.withdraw.tail })

/-- The custodian that follows the script beside it and leaves the rest to
`other`.  A reply is used up even if its request is cut off. -/
def custodian (other : Custodian σ) : Custodian (Script × σ) := fun request (script, s) =>
  let (reply, script) := script.next request
  let deferred : Work (Script × σ) _ :=
    let work := other request s
    ⟨(script, work.started), work.takes, (work.ended.1, (script, work.ended.2))⟩
  match reply with
  | none => deferred
  | some reply =>
    match reply.answer with
    | some answer => ⟨(script, s), some reply.delay, (answer, (script, s))⟩
    | none =>
      { deferred with
        started := if reply.delay = 0 then deferred.started else (script, s)
        takes := deferred.takes.map (reply.delay + ·) }

end Script

end FiatRamp
