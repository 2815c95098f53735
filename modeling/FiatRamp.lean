import FiatRamp.Account
import FiatRamp.Bank
import FiatRamp.Cancellation
import FiatRamp.Codec.Account
import FiatRamp.Codec.Bank
import FiatRamp.Codec.Config
import FiatRamp.Codec.Money
import FiatRamp.Codec.Transfer
import FiatRamp.Config.Basic
import FiatRamp.Config.File
import FiatRamp.Config.Validation
import FiatRamp.Currency
import FiatRamp.Custodian
import FiatRamp.Custodian.Script
import FiatRamp.Custodian.Vault
import FiatRamp.Decimal.Basic
import FiatRamp.Decimal.Reader
import FiatRamp.Delay
import FiatRamp.Duration
import FiatRamp.Engine.Basic
import FiatRamp.Engine.Deposit
import FiatRamp.Engine.Registry
import FiatRamp.Engine.Rehearsal
import FiatRamp.Engine.Withdrawal
import FiatRamp.Flow
import FiatRamp.Json.Basic
import FiatRamp.Json.Binary64
import FiatRamp.Json.Decode
import FiatRamp.Json.Reader
import FiatRamp.Json.Token
import FiatRamp.Json.Writer
import FiatRamp.LogFilter
import FiatRamp.Main
import FiatRamp.Metric
import FiatRamp.Money
import FiatRamp.Poll
import FiatRamp.Proofs.Rounding
import FiatRamp.Proofs.Step
import FiatRamp.Proofs.Worth
import FiatRamp.Redirect
import FiatRamp.Simulator.Command
import FiatRamp.Simulator.Report
import FiatRamp.Text.Blank
import FiatRamp.Text.Utf8
import FiatRamp.Toml.Basic
import FiatRamp.Toml.Quoted
import FiatRamp.Toml.Reader
import FiatRamp.Toml.Table
import FiatRamp.Toml.Word
import FiatRamp.Transfer.Action
import FiatRamp.Transfer.Confirmation
import FiatRamp.Transfer.Error
import FiatRamp.Transfer.Fee
import FiatRamp.Transfer.Limit
import FiatRamp.Transfer.Pending
import FiatRamp.Transfer.Result
import FiatRamp.Transfer.Stage
import FiatRamp.Unicode.CombiningClass
import FiatRamp.Unicode.Composition
import FiatRamp.Unicode.Direction
import FiatRamp.Unicode.Joining
import FiatRamp.Unicode.Mark
import FiatRamp.Unicode.Normalization
import FiatRamp.Unicode.Table
import FiatRamp.Url.Address
import FiatRamp.Url.Basic
import FiatRamp.Url.Domain
import FiatRamp.Url.Domain.Label
import FiatRamp.Url.Domain.Mapping
import FiatRamp.Url.Percent
import FiatRamp.Url.Punycode
import FiatRamp.Url.Reader
import FiatRamp.Work
import FiatRamp.World
import FiatRamp.Proofs.Route
import FiatRamp.Proofs.Call
import FiatRamp.Proofs.FollowUp
import FiatRamp.Proofs.History
import FiatRamp.Proofs.Classification
import FiatRamp.Proofs.Verdict
import FiatRamp.Proofs.Safety
import FiatRamp.Proofs.Answer
import FiatRamp.Proofs.Overspend
import FiatRamp.Proofs.Stages
import FiatRamp.Proofs.Conclusion
import FiatRamp.Proofs.Failure
import FiatRamp.Proofs.Vetting
import FiatRamp.Proofs.Revalidation
import FiatRamp.Proofs.Canonical
import FiatRamp.Proofs.Pipeline
import FiatRamp.Proofs.Overflow
import FiatRamp.Proofs.Attempts
import FiatRamp.Proofs.Staleness
import FiatRamp.Proofs.Frame
import FiatRamp.Proofs.Timeline
import FiatRamp.Proofs.Approval
import FiatRamp.Proofs.Cancelling
import FiatRamp.Proofs.Payments
import FiatRamp.Proofs.Conservation
import FiatRamp.Proofs.Errors
import FiatRamp.Proofs.Crossing
import FiatRamp.Proofs.Numeral
import FiatRamp.Proofs.RoundTrip
import FiatRamp.Proofs.OpenBanking
import FiatRamp.Proofs.Deadlines
import FiatRamp.Proofs.Order
import FiatRamp.Proofs.Simulation
import FiatRamp.Proofs.Readiness
import FiatRamp.Proofs.Monotone
import FiatRamp.Proofs.Interval
import FiatRamp.Proofs.Fetching
import FiatRamp.Proofs.Passes
import FiatRamp.Proofs.Selection
import FiatRamp.Proofs.Backoff
import FiatRamp.Proofs.Encoding
import FiatRamp.Proofs.Hosts
import FiatRamp.Proofs.Rereading
import FiatRamp.Proofs.EndSlash
import FiatRamp.Proofs.Extension
import FiatRamp.Proofs.Authorisation
import FiatRamp.Proofs.FileText
import FiatRamp.Proofs.Expressible
import FiatRamp.Proofs.Excuse
import FiatRamp.Proofs.Spelling
import FiatRamp.Proofs.Family
