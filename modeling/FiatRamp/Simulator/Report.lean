import FiatRamp.Codec.Transfer
import FiatRamp.Config.File
import FiatRamp.Custodian.Vault
import FiatRamp.Engine.Registry
import FiatRamp.Flow
import FiatRamp.Simulator.Command

/-!
# FiatRamp.Simulator.Report

A transfer from its first step to its end, against a custodian in memory.

The simulated user has one linked bank and one fiat account.  The report says
how the flow ended: with a verdict that stops it, with a result, or with the
error of the submission.
-/

namespace FiatRamp.Simulator

/-- Why there is no report. -/
inductive Failure where
  | config (cause : ConfigError)
  /-- One of the arguments is no amount or no currency. -/
  | argument (cause : MoneyError)
  | redirect (cause : RedirectError)
  /-- No engine suits the two accounts. -/
  | binding (cause : EngineError)
  /-- The flow failed before the submission. -/
  | flow (cause : FlowError)
  deriving DecidableEq

/-- What the user is told. -/
def Failure.message : Failure → String
  | .config .unreadable => "IO error"
  | .config .malformed => "Parse error"
  | .config (.invalid issues) => ConfigIssue.report issues
  | .argument cause => cause.message
  | .redirect cause => cause.message
  | .binding cause => cause.message
  | .flow cause => cause.message

/-! ## The simulated user -/

/-- The id of the linked bank. -/
def bankId : String := "sim-bank"

/-- The name of the bank, to the custodian as to the user. -/
def bankName : String := "Simulated Bank"

def accountNumber : String := "****0001"

def accountType : String := "Checking"

/-- The bank as the custodian knows it. -/
def linkedBank (currency : Currency) : LinkedBank where
  id := bankId
  name := bankName
  accountNumber := accountNumber
  accountType := accountType
  currency := currency
  partner := .yapily

/-- The account at the bank. -/
def bankAccount (currency : Currency) : Account :=
  .bank { id := bankId, label := bankName, accountNumber, accountType, currency }

/-- The account the custodian keeps. -/
def fiatAccount (currency : Currency) (balance : Money) : Account :=
  .fiat { label := currency.code ++ " Account", currency, balance }

/-- What a command asks for, its texts understood. -/
structure Setting where
  vault : Vault
  source : Account
  target : Account
  action : TransferAction
  currency : Currency

namespace Setting

/-- A vault that knows the bank and the limits. -/
def furnish (vault : Vault) (currency : Currency) (limits : TransferLimits) : Vault :=
  (vault.withLimits currency limits).withBank (linkedBank currency)

/-- The limits of a transfer. -/
def limits (args : TransferArgs) (currency : Currency) : Except MoneyError TransferLimits := do
  let min ← Money.parse args.min currency
  let max ← args.max.mapM (Money.parse · currency)
  return { min, max }

/-- Understands the texts of a command, all but the amount. -/
def ofCommand (command : Command) : Except MoneyError Setting := do
  let currency ← Currency.parse command.args.currency
  match command.scenario with
  | .deposit authoriseAfter =>
    let limits ← limits command.args currency
    return {
      vault := furnish { Vault.empty with authoriseAfter } currency limits
      source := bankAccount currency
      target := fiatAccount currency (.zero currency)
      action := .deposit
      currency }
  | .withdraw balance fee =>
    let fee ← Money.parse fee currency
    let balance ← Money.parse balance currency
    let limits ← limits command.args currency
    return {
      vault := furnish (Vault.empty.withFee fee) currency limits
      source := fiatAccount currency balance
      target := bankAccount currency
      action := .withdraw
      currency }

end Setting

/-! ## Running -/

/-- What is random about a run. -/
structure Chance where
  /-- The ids the custodian gives out, in order. -/
  ids : Nat → String
  /-- The random numbers of the waits between attempts. -/
  draw : Nat → Nat

/-- The fields of a report on a flow that submitted its transfer. -/
def outcomeFields (p : Pending) : Except FlowError FlowOutcome → List (String × Json)
  | .ok (.succeeded result) =>
    [("confirmations", .list (p.confirmations.map Confirmation.toJson)),
      ("result", result.toJson)]
  | .ok (.awaitingApproval result approval) =>
    [("confirmations", .list (p.confirmations.map Confirmation.toJson)),
      ("result", result.toJson), ("approval", approval.toJson)]
  | .error cause => [("error", .text cause.message)]

/-- The flow of a command from the amount to the end, and its report. -/
def drive (engine : Engine σ) (amount : String) (currency : Currency) :
    ExceptT Failure (StateM (FlowState σ)) Json := do
  let amount ← ExceptT.mk (pure ((Money.parse amount currency).mapError .argument))
  let step {α : Type} (operation : FlowStep σ α) : ExceptT Failure (StateM (FlowState σ)) α :=
    operation.adapt .flow
  step (Flow.updateAmount engine amount)
  let verdict ← step (Flow.validate engine)
  if verdict ≠ .canExecute then
    return .record [("stage", (← get).pending.stage.toJson), ("validation_state", verdict.toJson)]
  step (Flow.buildConfirmations engine)
  let outcome ← ExceptT.mk fun s => let (outcome, s) := (Flow.execute engine none).run.run s
    (.ok outcome, s)
  let p := (← get).pending
  return .record (("stage", p.stage.toJson) :: outcomeFields p outcome)

/-- Runs a command under a configuration.  Gives the report and the time it took. -/
def run (chance : Chance) (config : Config) (command : Command) :
    Except Failure (Json × Duration) := do
  let setting ← (Setting.ofCommand command).mapError .argument
  let base ← (RedirectBase.ofText config.banking.callbackBaseUrl).mapError .redirect
  let ctx : EngineContext Vault := {
    custodian := Vault.custodian chance.ids
    callback := base.callback
    deadlines := config.timeouts.deadlines
    poll := config.poll.settings
    draw := chance.draw
    userFiat := setting.currency }
  let engine ← ((Registry.standard ctx).bind setting.source setting.target
    setting.action).mapError .binding
  let (started, world) := Flow.start engine (World.start setting.vault)
  let pending ← started.mapError .flow
  let (report, state) := (drive engine command.args.amount setting.currency).run.run
    { pending, world }
  return (← report, state.world.now)

/-- Runs a command.  `file` is what its configuration file holds, if it names one
that is there. -/
def perform (chance : Chance) (file : Option (List Nat)) (command : Command) :
    Except Failure (Json × Duration) := do
  let config ← match command.config with
    | none => pure {}
    | some _ => (Config.load file).mapError .config
  run chance config command

/-- The exit code of a run: 0 if there is a report, and 1 if it failed. -/
def exitCode : Except Failure α → UInt32
  | .ok _ => 0
  | .error _ => 1

end FiatRamp.Simulator
