import FiatRamp.Poll
import FiatRamp.Transfer.Stage

/-!
# FiatRamp.Metric

What is counted while transfers run.

A metric is recorded as an event.  `Metric.name` and `Metric.labels` give the
counter an event belongs to; poll sessions also record how many attempts they
took.
-/

namespace FiatRamp

/-- Something that is counted. -/
inductive Metric where
  /-- A flow on an engine entered a stage. -/
  | stage (engine : String) (stage : Stage)
  /-- A validation on an engine came to a verdict. -/
  | validation (engine : String) (verdict : Verdict)
  /-- A submission was made. -/
  | submission (engine : String) (accepted : Bool)
  /-- A poll session ended. -/
  | pollSession (outcome : PollOutcome) (attempts : Nat)
  deriving DecidableEq

namespace Metric

/-- The name of the counter. -/
def name : Metric → String
  | .stage .. => "txengine_stage_transitions_total"
  | .validation .. => "txengine_validations_total"
  | .submission .. => "txengine_submissions_total"
  | .pollSession .. => "txengine_poll_sessions_total"

/-- The name of the histogram of poll attempts. -/
def attemptsName : String := "txengine_poll_attempts"

/-- The labels of the counter, sorted by name. -/
def labels : Metric → List (String × String)
  | .stage engine entered => [("engine", engine), ("stage", entered.word)]
  | .validation engine verdict => [("engine", engine), ("state", verdict.word)]
  | .submission engine accepted =>
    [("engine", engine), ("outcome", if accepted then "accepted" else "failed")]
  | .pollSession outcome _ => [("outcome", outcome.word)]

/-- The counter an event adds one to, `name{label=value,…}`. -/
def key (m : Metric) : String :=
  m.name ++ "\x7b" ++ ",".intercalate (m.labels.map fun (label, value) => label ++ "=" ++ value)
    ++ "\x7d"

/-- The histogram of poll attempts, which has no labels. -/
def attemptsKey : String := attemptsName ++ "\x7b\x7d"

/-- The attempts an event records in the histogram. -/
def attempts? : Metric → Option Nat
  | .pollSession _ attempts => some attempts
  | _ => none

/-- How often each counter was added to, in the order of first use. -/
def counts (events : List Metric) : List (String × Nat) :=
  let keys := events.map key
  keys.eraseDups.map fun k => (k, keys.count k)

/-- The recorded attempts, in order. -/
def pollAttempts (events : List Metric) : List Nat := events.filterMap attempts?

end Metric

end FiatRamp
