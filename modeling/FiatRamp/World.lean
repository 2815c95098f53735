import FiatRamp.Custodian
import FiatRamp.Metric
import FiatRamp.Transfer.Error

/-!
# FiatRamp.World

What the steps of a transfer act on, and how they ask the custodian.

A `World` holds the custodian's state, the clock, and a record of every
request made and every metric counted.  A step is an `EngineStep`: it changes the
world and gives a value or an error.  Every request is bounded by a deadline
(`World.ask`), so every step ends.
-/

namespace FiatRamp

/-- Everything a step can change or be seen by. -/
structure World (σ : Type) where
  /-- The state of the custodian. -/
  backend : σ
  /-- The time on the clock. -/
  now : Duration
  /-- The requests made so far, in order. -/
  requests : List Request
  /-- What was counted so far, in order. -/
  metrics : List Metric

namespace World

/-- A world in which nothing has happened. -/
def start (backend : σ) : World σ := ⟨backend, 0, [], []⟩

/-- Counts something. -/
def record (w : World σ) (m : Metric) : World σ := { w with metrics := w.metrics ++ [m] }

/-- Asks the custodian and waits for its answer no longer than the deadline of
the request. -/
def ask (custodian : Custodian σ) (deadlines : Deadlines) (request : Request) (w : World σ) :
    Task (World σ) (Except EngineError request.Answer) :=
  let limit := deadlines.of request
  let w := { w with requests := w.requests ++ [request] }
  let answer := (custodian request w.backend).within limit
  { started := { w with backend := answer.started }
    takes := answer.takes
    ended :=
      (match answer.ended.1 with
        | some (.ok value) => .ok value
        | some (.error e) => .error (.provider e)
        | none => .error (.timeout request.operation limit),
        { w with backend := answer.ended.2 }) }

end World

/-- A step of a transfer. -/
abbrev EngineStep (σ α : Type) := ExceptT EngineError (StateM (World σ)) α

namespace EngineStep

/-- A step that changes nothing. -/
def ofExcept (result : Except EngineError α) : EngineStep σ α := ExceptT.mk (pure result)

/-- A calculation with money. -/
def ofMoney (result : Except MoneyError α) : EngineStep σ α := ofExcept (result.mapError .money)

/-- Counts something. -/
def record (m : Metric) : EngineStep σ Unit := modify (·.record m)

/-- Runs a task to its end while the clock goes on. -/
def ofTask (task : World σ → Task (World σ) (Except EngineError α)) : EngineStep σ α :=
  ExceptT.mk fun w =>
    let done := task w
    (done.ended.1, { done.ended.2 with now := w.now + done.takes })

/-- Asks the custodian and waits for its answer no longer than the deadline of
the request. -/
def ask (custodian : Custodian σ) (deadlines : Deadlines) (request : Request) :
    EngineStep σ request.Answer :=
  ofTask (World.ask custodian deadlines request)

/-- The result of a step, which itself does not fail. -/
def attempt (step : EngineStep σ α) : EngineStep σ (Except EngineError α) :=
  ExceptT.mk fun w =>
    let (result, w) := step.run.run w
    (.ok result, w)

/-- Runs a poll session to its end while the clock goes on, and counts it.
`cancel` is the time at which its token is cancelled. -/
def poll (settings : PollSettings) (draw : Nat → Nat)
    (task : World σ → Task (World σ) (Except EngineError α)) (extract : α → Option β)
    (cancel : Option Duration) : EngineStep σ (Except (PollError EngineError) β) :=
  ExceptT.mk fun w =>
    let session := Poll.runTasks settings draw task extract (cancel.map (· - w.now)) w
    let after := { session.state with now := w.now + session.time }
    (.ok session.result,
      match session.outcome? with
      | some outcome => after.record (.pollSession outcome session.attempts)
      | none => after)

end EngineStep

end FiatRamp
