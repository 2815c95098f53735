import FiatRamp.Custodian
import FiatRamp.Poll

/-!
# FiatRamp.Config.Basic

The configuration, and the settings transfers run with.

Every setting has a default.  `PollConfig.settings` and
`TimeoutConfig.deadlines` turn the configuration into what the engines use.
-/

namespace FiatRamp

/-- How the wait between two attempts grows. -/
inductive DelayStrategy where
  | fixed
  | exponential
  deriving DecidableEq

/-- The word for a strategy. -/
def DelayStrategy.word : DelayStrategy → String
  | .fixed => "fixed"
  | .exponential => "exponential"

/-- How to wait for a bank's authorisation page. -/
structure PollConfig where
  /-- How many attempts there are at most. -/
  maxAttempts : UInt32 := 20
  /-- The wait between attempts, in milliseconds; for the exponential strategy
  the first one. -/
  intervalMs : UInt64 := 5000
  strategy : DelayStrategy := .fixed
  /-- The longest wait of the exponential strategy, jitter apart. -/
  maxIntervalMs : UInt64 := 60000
  /-- How long a session may take overall. -/
  timeoutSecs : Option UInt64 := some 150
  deriving DecidableEq

/-- How long the custodian may take, in seconds. -/
structure TimeoutConfig where
  limitsSecs : UInt64 := 10
  submissionSecs : UInt64 := 30
  lookupSecs : UInt64 := 10
  deriving DecidableEq

/-- What banks are told. -/
structure BankingConfig where
  /-- The URL that callbacks extend. -/
  callbackBaseUrl : String := "https://wallet.example.com/open-banking"
  deriving DecidableEq

/-- What is logged. -/
structure ObservabilityConfig where
  logLevel : String := "info"
  /-- Log lines name the part of the program they come from. -/
  withTarget : Bool := false
  deriving DecidableEq

/-- The configuration. -/
structure Config where
  poll : PollConfig := {}
  timeouts : TimeoutConfig := {}
  banking : BankingConfig := {}
  observability : ObservabilityConfig := {}
  deriving DecidableEq

/-- The wait between attempts. -/
def PollConfig.delay (c : PollConfig) : Delay :=
  match c.strategy with
  | .fixed => .fixed (.ofMillis c.intervalMs.toNat)
  | .exponential => .exponential c.intervalMs c.maxIntervalMs

/-- The bounds of a session.  There is always an attempt. -/
def PollConfig.settings (c : PollConfig) : PollSettings where
  maxAttempts := max c.maxAttempts.toNat 1
  delay := c.delay
  timeout := c.timeoutSecs.map fun secs => .ofSecs secs.toNat

/-- The deadlines of requests. -/
def TimeoutConfig.deadlines (c : TimeoutConfig) : Deadlines where
  limits := .ofSecs c.limitsSecs.toNat
  submission := .ofSecs c.submissionSecs.toNat
  lookup := .ofSecs c.lookupSecs.toNat

end FiatRamp
