import FiatRamp.Config.Basic
import FiatRamp.Redirect

/-!
# FiatRamp.Config.Validation

What is wrong with a configuration.

Every setting is looked at, so all that is wrong is found at once, in the order
of the settings.
-/

namespace FiatRamp

/-- Something wrong with a configuration. -/
inductive ConfigIssue where
  | noAttempts
  /-- The longest wait is below the first one. -/
  | capBelowInterval
  /-- A session may take no time at all. -/
  | zeroPollTimeout
  | zeroLimitsDeadline
  | zeroSubmissionDeadline
  | zeroLookupDeadline
  | baseNotHttp (raw : String)
  | baseWithoutHost (raw : String)
  | baseInvalid (raw : String) (cause : UrlError)
  | unknownLevel (level : String)
  deriving DecidableEq

namespace ConfigIssue

/-- The setting that is wrong. -/
def field : ConfigIssue → String
  | .noAttempts => "poll.max_attempts"
  | .capBelowInterval => "poll.max_interval_ms"
  | .zeroPollTimeout => "poll.timeout_secs"
  | .zeroLimitsDeadline => "timeouts.limits_secs"
  | .zeroSubmissionDeadline => "timeouts.submission_secs"
  | .zeroLookupDeadline => "timeouts.lookup_secs"
  | .baseNotHttp _ | .baseWithoutHost _ | .baseInvalid .. => "banking.callback_base_url"
  | .unknownLevel _ => "observability.log_level"

/-- What is wrong with it. -/
def message : ConfigIssue → String
  | .noAttempts => "must be at least 1"
  | .capBelowInterval => "must not be smaller than poll.interval_ms"
  | .zeroPollTimeout => "must be greater than 0 when set"
  | .zeroLimitsDeadline | .zeroSubmissionDeadline | .zeroLookupDeadline => "must be greater than 0"
  | .baseNotHttp raw => "'" ++ raw ++ "' is not an http(s) URL"
  | .baseWithoutHost raw => "'" ++ raw ++ "' has no host"
  | .baseInvalid raw cause => "'" ++ raw ++ "' is not a valid URL: " ++ cause.message
  | .unknownLevel level => "unknown level '" ++ level ++ "'"

/-- Setting and message together. -/
def toText (issue : ConfigIssue) : String := issue.field ++ ": " ++ issue.message

/-- Several issues as one message. -/
def report (issues : List ConfigIssue) : String :=
  "Validation failed: " ++ ", ".intercalate (issues.map toText)

end ConfigIssue

/-- The words for log levels. -/
def logLevels : List String := ["trace", "debug", "info", "warn", "error"]

/-- The issue, under a condition. -/
def ConfigIssue.onlyIf (condition : Bool) (issue : ConfigIssue) : List ConfigIssue :=
  if condition then [issue] else []

/-- What is wrong with waiting. -/
def PollConfig.issues (c : PollConfig) : List ConfigIssue :=
  ConfigIssue.onlyIf (c.maxAttempts == 0) .noAttempts ++
  ConfigIssue.onlyIf (c.strategy == .exponential && c.maxIntervalMs < c.intervalMs) .capBelowInterval ++
  ConfigIssue.onlyIf (c.timeoutSecs == some 0) .zeroPollTimeout

/-- What is wrong with the deadlines. -/
def TimeoutConfig.issues (c : TimeoutConfig) : List ConfigIssue :=
  ConfigIssue.onlyIf (c.limitsSecs == 0) .zeroLimitsDeadline ++
  ConfigIssue.onlyIf (c.submissionSecs == 0) .zeroSubmissionDeadline ++
  ConfigIssue.onlyIf (c.lookupSecs == 0) .zeroLookupDeadline

/-- What is wrong with the base of callbacks. -/
def BankingConfig.issues (c : BankingConfig) : List ConfigIssue :=
  match Url.ofText c.callbackBaseUrl with
  | .error cause => [.baseInvalid c.callbackBaseUrl cause]
  | .ok url =>
    if !url.isHttp then [.baseNotHttp c.callbackBaseUrl]
    else if !url.hasHost then [.baseWithoutHost c.callbackBaseUrl]
    else []

/-- What is wrong with logging. -/
def ObservabilityConfig.issues (c : ObservabilityConfig) : List ConfigIssue :=
  ConfigIssue.onlyIf (!logLevels.contains c.logLevel.toLower) (.unknownLevel c.logLevel)

/-- All that is wrong with a configuration. -/
def Config.issues (c : Config) : List ConfigIssue :=
  c.poll.issues ++ c.timeouts.issues ++ c.banking.issues ++ c.observability.issues

/-- Nothing is wrong with a configuration. -/
def Config.isValid (c : Config) : Bool := c.issues.isEmpty

end FiatRamp
