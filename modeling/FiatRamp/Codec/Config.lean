import FiatRamp.Config.Basic
import FiatRamp.Json.Decode

/-!
# FiatRamp.Codec.Config

The form in which configurations are written.  A setting that is missing has
its default.
-/

namespace FiatRamp

open Json

def DelayStrategy.toJson (s : DelayStrategy) : Json := .text s.word

def DelayStrategy.ofJson? (dialect : Dialect) : Json → Option DelayStrategy :=
  asWord? dialect [.fixed, .exponential] DelayStrategy.word

def PollConfig.toJson (c : PollConfig) : Json :=
  .record [("max_attempts", ofUInt32 c.maxAttempts), ("interval_ms", ofUInt64 c.intervalMs),
    ("strategy", c.strategy.toJson), ("max_interval_ms", ofUInt64 c.maxIntervalMs),
    ("timeout_secs", ofOption ofUInt64 c.timeoutSecs)]

def PollConfig.ofJson? (dialect : Dialect) : Json → Option PollConfig :=
  let fallback : PollConfig := {}
  asRecord? dialect do
    let maxAttempts ← defaulted "max_attempts" fallback.maxAttempts asUInt32?
    let intervalMs ← defaulted "interval_ms" fallback.intervalMs asUInt64?
    let strategy ← defaulted "strategy" fallback.strategy (DelayStrategy.ofJson? dialect)
    let maxIntervalMs ← defaulted "max_interval_ms" fallback.maxIntervalMs asUInt64?
    let timeoutSecs ← defaulted "timeout_secs" fallback.timeoutSecs (asOption? asUInt64?)
    return { maxAttempts, intervalMs, strategy, maxIntervalMs, timeoutSecs }

def TimeoutConfig.toJson (c : TimeoutConfig) : Json :=
  .record [("limits_secs", ofUInt64 c.limitsSecs), ("submission_secs", ofUInt64 c.submissionSecs),
    ("lookup_secs", ofUInt64 c.lookupSecs)]

def TimeoutConfig.ofJson? (dialect : Dialect) : Json → Option TimeoutConfig :=
  let fallback : TimeoutConfig := {}
  asRecord? dialect do
    let limitsSecs ← defaulted "limits_secs" fallback.limitsSecs asUInt64?
    let submissionSecs ← defaulted "submission_secs" fallback.submissionSecs asUInt64?
    let lookupSecs ← defaulted "lookup_secs" fallback.lookupSecs asUInt64?
    return { limitsSecs, submissionSecs, lookupSecs }

def BankingConfig.toJson (c : BankingConfig) : Json :=
  .record [("callback_base_url", .text c.callbackBaseUrl)]

def BankingConfig.ofJson? (dialect : Dialect) : Json → Option BankingConfig :=
  let fallback : BankingConfig := {}
  asRecord? dialect do
    let callbackBaseUrl ← defaulted "callback_base_url" fallback.callbackBaseUrl asText?
    return { callbackBaseUrl }

def ObservabilityConfig.toJson (c : ObservabilityConfig) : Json :=
  .record [("log_level", .text c.logLevel), ("with_target", .bool c.withTarget)]

def ObservabilityConfig.ofJson? (dialect : Dialect) : Json → Option ObservabilityConfig :=
  let fallback : ObservabilityConfig := {}
  asRecord? dialect do
    let logLevel ← defaulted "log_level" fallback.logLevel asText?
    let withTarget ← defaulted "with_target" fallback.withTarget asBool?
    return { logLevel, withTarget }

def Config.toJson (c : Config) : Json :=
  .record [("poll", c.poll.toJson), ("timeouts", c.timeouts.toJson),
    ("banking", c.banking.toJson), ("observability", c.observability.toJson)]

def Config.ofJson? (dialect : Dialect) : Json → Option Config :=
  asRecord? dialect do
    let poll ← defaulted "poll" {} (PollConfig.ofJson? dialect)
    let timeouts ← defaulted "timeouts" {} (TimeoutConfig.ofJson? dialect)
    let banking ← defaulted "banking" {} (BankingConfig.ofJson? dialect)
    let observability ← defaulted "observability" {} (ObservabilityConfig.ofJson? dialect)
    return { poll, timeouts, banking, observability }

end FiatRamp
