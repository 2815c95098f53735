import FiatRamp.Delay
import FiatRamp.Work

/-!
# FiatRamp.Poll

Asking again and again until an answer is ready.

A session calls a producer, one call at a time, until its value is ready.  It
is bounded by a number of attempts and, if wished, by an overall timeout, and
a token can cancel it.  `Poll.run` follows a session along its timeline: at
each instant at which something ends, a timer fires or the token is cancelled,
it says what happens.

Work wins a tie against the timeout.  A token cancelled beforehand wins against
everything.
-/

namespace FiatRamp

/-- The bounds of a session. -/
structure PollSettings where
  /-- How many attempts there are at most; there is always one. -/
  maxAttempts : Nat
  delay : Delay
  timeout : Option Duration
  deriving DecidableEq

/-- Why a session ended without a ready value. -/
inductive PollError (ε : Type) where
  /-- No value was ready within the attempts or the time. -/
  | timedOut (attempts : Nat)
  /-- The token was cancelled. -/
  | cancelled (attempts : Nat)
  /-- The producer failed. -/
  | producer (attempt : Nat) (cause : ε)
  /-- The task that ran the session broke down. -/
  | aborted (reason : String)
  deriving DecidableEq

/-- What the user is told. -/
def PollError.message (cause : ε → String) : PollError ε → String
  | .timedOut attempts => "Poll timed out after " ++ toString attempts ++ " attempts"
  | .cancelled attempts => "Poll cancelled after " ++ toString attempts ++ " attempts"
  | .producer attempt e =>
    "Poll producer failed on attempt " ++ toString attempt ++ ": " ++ cause e
  | .aborted reason => "Poll task aborted: " ++ reason

/-- How a session ended, for the count of sessions. -/
inductive PollOutcome where
  | ready
  | timedOut
  | cancelled
  | failed
  deriving DecidableEq

/-- The word for an outcome in labels. -/
def PollOutcome.word : PollOutcome → String
  | .ready => "ready"
  | .timedOut => "timed_out"
  | .cancelled => "cancelled"
  | .failed => "failed"

namespace Poll

/-! ## Producers -/

/-- What a call of a producer gives. -/
inductive Produced (ε α : Type) where
  | value (a : α)
  | failed (cause : ε)
  /-- The call broke down, and the session with it. -/
  | crashed (reason : String)

/-- Whether a call itself cancels the token of its session. -/
inductive SelfCancel where
  | never
  /-- While it is being made. -/
  | whenMade
  /-- As the first thing it does. -/
  | whenStarted
  deriving DecidableEq

/-- A call of a producer. -/
structure Call (σ ε α : Type) where
  work : Work σ (Produced ε α)
  selfCancel : SelfCancel

/-- A call that leaves the token alone. -/
def Call.ofTask (task : Task σ (Except ε α)) : Call σ ε α where
  work := (task.map fun
    | .ok a => Produced.value a
    | .error e => .failed e).toWork
  selfCancel := .never

/-! ## Sessions -/

/-- How a session ended. -/
structure End (σ ε β : Type) where
  result : Except (PollError ε) β
  /-- How many attempts were started. -/
  attempts : Nat
  /-- When it ended, counted from its start. -/
  time : Duration
  state : σ

/-- The outcome that is counted; a session that broke down is not counted. -/
def End.outcome? (e : End σ ε β) : Option PollOutcome :=
  match e.result with
  | .ok _ => some .ready
  | .error (.timedOut _) => some .timedOut
  | .error (.cancelled _) => some .cancelled
  | .error (.producer ..) => some .failed
  | .error (.aborted _) => none

/-- What interrupts a session. -/
inductive Interruption where
  | cancel (time : Duration)
  | timeout (time : Duration)

/-- What interrupts a span of time that starts at `now` and would last until
`until?`, if anything does.  The timeout has to come strictly before the end of
the span; the token may be cancelled at its end. -/
def interruption? (now : Duration) (until? timeout cancel : Option Duration) :
    Option Interruption :=
  let timer := timeout.filter fun t => until?.all (t < ·)
  match cancel with
  | some c =>
    if until?.all (c ≤ ·) && timer.all (c ≤ ·) then some (.cancel (max c now))
    else timer.map .timeout
  | none => timer.map .timeout

/-- The end of a session that is interrupted during its `attempt`-th attempt or
the wait after it. -/
def Interruption.toEnd (attempt : Nat) (s : σ) : Interruption → End σ ε β
  | .cancel time => ⟨.error (.cancelled attempt), attempt, time, s⟩
  | .timeout time => ⟨.error (.timedOut attempt), attempt, time, s⟩

/-- What an attempt comes to. -/
inductive Attempt (σ ε β : Type) where
  /-- The session ends with it. -/
  | ended (e : End σ ε β)
  /-- It never ends. -/
  | endless
  /-- Its value, at the instant `time`, was not ready. -/
  | notReady (time : Duration) (cancel : Option Duration) (s : σ)

variable {σ ε α β : Type}

/-- The `attempt`-th attempt of a session, started at `now`.  A call that cancels
the token as the first thing it does may still end at once, and if it does not, a
timeout that is due by then comes first. -/
def attemptAt (timeout : Option Duration) (produce : σ → Call σ ε α) (extract : α → Option β)
    (attempt : Nat) (now : Duration) (cancel : Option Duration) (s : σ) : Attempt σ ε β :=
  let call := produce s
  let finish := call.work.takes.map (now + ·)
  let cancel := if call.selfCancel = .never then cancel else some now
  let cut :=
    if call.selfCancel = .whenStarted ∧ finish = some now then none
    else if call.selfCancel = .whenStarted ∧ timeout = some now then some (.timeout now)
    else interruption? now finish timeout cancel
  match cut, finish with
  | some cut, _ => .ended (cut.toEnd attempt call.work.started)
  | none, none => .endless
  | none, some time =>
    match call.work.ended with
    | (.crashed reason, s) => .ended ⟨.error (.aborted reason), attempt, time, s⟩
    | (.failed e, s) => .ended ⟨.error (.producer attempt e), attempt, time, s⟩
    | (.value a, s) =>
      match extract a with
      | some b => .ended ⟨.ok b, attempt, time, s⟩
      | none => .notReady time cancel s

/-- A session from the instant `now` on, after `attempts` attempts, where `left`
more may follow the next one.  `none` means that it never ends. -/
def runFrom (settings : PollSettings) (draw : Nat → Nat) (produce : σ → Call σ ε α)
    (extract : α → Option β) : (left attempts : Nat) → (now : Duration) →
    (cancel : Option Duration) → σ → Option (End σ ε β)
  | left, attempts, now, cancel, s =>
    if cancel.any (· ≤ now) then some ⟨.error (.cancelled attempts), attempts, now, s⟩
    else
      let attempt := attempts + 1
      match attemptAt settings.timeout produce extract attempt now cancel s with
      | .ended e => some e
      | .endless => none
      | .notReady time cancel s =>
        match left with
        | 0 => some ⟨.error (.timedOut attempt), attempt, time, s⟩
        | left + 1 =>
          let next := time + settings.delay.after attempt (draw attempt)
          match interruption? time (some next) settings.timeout cancel with
          | some cut => some (cut.toEnd attempt s)
          | none => runFrom settings draw produce extract left attempt next cancel s
termination_by structural left => left

/-- A session from its start.  `draw` gives the random number for the wait after
each attempt, `cancel` the instant at which its token is cancelled. -/
def run (settings : PollSettings) (draw : Nat → Nat) (produce : σ → Call σ ε α)
    (extract : α → Option β) (cancel : Option Duration) (s : σ) : Option (End σ ε β) :=
  runFrom settings draw produce extract (settings.maxAttempts - 1) 0 0 cancel s

/-! ## Sessions that always end -/

/-- A call that ends makes for an attempt that ends. -/
theorem attemptAt_ne_endless (timeout : Option Duration) (task : σ → Task σ (Except ε α))
    (extract : α → Option β) (attempt : Nat) (now : Duration) (cancel : Option Duration) (s : σ) :
    attemptAt timeout (fun s => Call.ofTask (task s)) extract attempt now cancel s ≠
      .endless := by
  unfold attemptAt
  simp only
  split
  · simp
  · rename_i h
    simp [Call.ofTask, Task.toWork] at h
  · split
    · simp
    · simp
    · split <;> simp

/-- A session whose calls all end comes to an end itself. -/
theorem isSome_runFrom (settings : PollSettings) (draw : Nat → Nat)
    (task : σ → Task σ (Except ε α)) (extract : α → Option β) (left attempts : Nat)
    (now : Duration) (cancel : Option Duration) (s : σ) :
    (runFrom settings draw (fun s => Call.ofTask (task s)) extract left attempts now cancel
      s).isSome = true := by
  induction left generalizing attempts now cancel s with
  | zero =>
    unfold runFrom
    split
    · rfl
    · simp only
      split
      · rfl
      · rename_i endless
        exact (attemptAt_ne_endless _ _ _ _ _ _ _ endless).elim
      · rfl
  | succ left ih =>
    unfold runFrom
    split
    · rfl
    · simp only
      split
      · rfl
      · rename_i endless
        exact (attemptAt_ne_endless _ _ _ _ _ _ _ endless).elim
      · split
        · rfl
        · exact ih ..

/-- A session whose calls all end, from its start. -/
def runTasks (settings : PollSettings) (draw : Nat → Nat) (task : σ → Task σ (Except ε α))
    (extract : α → Option β) (cancel : Option Duration) (s : σ) : End σ ε β :=
  (run settings draw (fun s => Call.ofTask (task s)) extract cancel s).get
    (isSome_runFrom ..)

end Poll

end FiatRamp
