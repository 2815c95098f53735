import FiatRamp.Engine.Basic

/-!
# FiatRamp.Flow

A flow: one transfer on one engine, from entering the amount to its end.

The flow holds the pending transfer and lets an operation through only at the
stages where it has a place.  Before the submission everything is checked once
more, so what the custodian is asked to move has passed validation; once the
submission was made the flow ends, whatever its outcome.  An operation that
fails leaves the transfer as it was, except that `Flow.execute` then names the
stage the flow has come to.
-/

namespace FiatRamp

/-- How a flow ended well. -/
inductive FlowOutcome where
  | succeeded (result : TransferResult)
  | awaitingApproval (result : TransferResult) (approval : Approval)
  deriving DecidableEq

/-- What a flow and the world around it have come to. -/
structure FlowState (σ : Type) where
  pending : Pending
  world : World σ

/-- An operation of a flow. -/
abbrev FlowStep (σ α : Type) := ExceptT FlowError (StateM (FlowState σ)) α

namespace Flow

/-- The stages before the submission. -/
def beforeSubmission : List Stage := [.amountEntry, .feeSelected, .validated, .confirmed]

/-- Runs a step of the engine on the pending transfer. -/
def run (step : Pending → EngineStep σ α) : FlowStep σ (Except EngineError α) :=
  ExceptT.mk fun s =>
    let (result, world) := (step s.pending).run.run s.world
    (.ok result, { s with world })

/-- Runs a step of the engine and fails with it. -/
def runOrFail (step : Pending → EngineStep σ α) : FlowStep σ α := do
  match ← run step with
  | .ok value => return value
  | .error e => throw (.engine e)

/-- Fails unless the flow is at one of the stages. -/
def require (operation : FlowOperation) (stages : List Stage) : FlowStep σ Unit := do
  let stage := (← get).pending.stage
  if stage.isTerminal then throw (.finished stage)
  if !stages.contains stage then throw (.illegalTransition stage operation)

/-- Puts another pending transfer in place. -/
def setPending (p : Pending) : FlowStep σ Unit := modify fun s => { s with pending := p }

/-- Enters a stage and counts that. -/
def enter (engine : String) (stage : Stage) : FlowStep σ Unit :=
  modify fun s =>
    { pending := { s.pending with stage }, world := s.world.record (.stage engine stage) }

/-- Starts a flow on an engine. -/
def start (e : Engine σ) (w : World σ) : Except FlowError Pending × World σ :=
  match e.initialise.run.run w with
  | (.ok p, w) => (.ok { p with stage := .amountEntry }, w.record (.stage e.name .amountEntry))
  | (.error cause, w) => (.error (.engine cause), w)

/-- Replaces the amount.  Earlier confirmations are dropped. -/
def updateAmount (e : Engine σ) (amount : Money) : FlowStep σ Unit := do
  require .updateAmount beforeSubmission
  let p ← runOrFail (e.updateAmount · amount)
  setPending { p with confirmations := [] }
  enter e.name .amountEntry

/-- Chooses another fee level.  Earlier confirmations are dropped. -/
def updateFeeLevel (e : Engine σ) (level : FeeLevel) (customFee : Option UInt64) :
    FlowStep σ Unit := do
  require .updateFeeLevel beforeSubmission
  let p ← runOrFail (e.updateFeeLevel · level customFee)
  setPending { p with confirmations := [] }
  enter e.name .feeSelected

/-- Validates everything and gives the verdict. -/
def validate (e : Engine σ) : FlowStep σ Verdict := do
  require .validate beforeSubmission
  let p ← runOrFail e.validateAll
  setPending p
  enter e.name (if p.verdict = .canExecute then .validated else .amountEntry)
  return p.verdict

/-- Builds the summary the user confirms. -/
def buildConfirmations (e : Engine σ) : FlowStep σ Unit := do
  require .buildConfirmations [.validated, .confirmed]
  let p ← runOrFail e.buildConfirmations
  setPending p
  enter e.name .confirmed

/-- Runs what follows a submission. -/
def runFollowUp (e : Engine σ) (result : TransferResult) (cancel : Option Duration) :
    FlowStep σ (Except FollowUpError FollowUp) :=
  ExceptT.mk fun s =>
    let (outcome, world) := (e.followUp s.pending result cancel).run.run s.world
    (.ok outcome, { s with world })

/-- Checks everything once more before the submission.  After that the flow is
executing, and its pending transfer is the one the custodian is asked to move. -/
def prepare (e : Engine σ) : FlowStep σ Unit := do
  require .execute [.confirmed]
  let p ← runOrFail e.validateAll
  setPending p
  if p.verdict ≠ .canExecute then
    enter e.name .amountEntry
    throw (.notExecutable p.verdict)
  enter e.name .executing

/-- Submits the transfer, sees to what follows, and ends the flow. -/
def settle (e : Engine σ) (cancel : Option Duration) : FlowStep σ FlowOutcome := do
  match ← run e.execute with
  | .error cause =>
    enter e.name .failed
    throw (.engine cause)
  | .ok result =>
    match ← runFollowUp e result cancel with
    | .ok .completed =>
      enter e.name .succeeded
      return .succeeded result
    | .ok (.needsApproval approval) =>
      enter e.name .awaitingApproval
      return .awaitingApproval result approval
    | .error failure =>
      enter e.name .failed
      throw (.postSubmission failure)

/-- Submits the transfer and sees to what follows.  `cancel` is the time at which
the user cancels; it has no effect on the submission. -/
def execute (e : Engine σ) (cancel : Option Duration) : FlowStep σ FlowOutcome := do
  prepare e
  settle e cancel

end Flow

end FiatRamp
