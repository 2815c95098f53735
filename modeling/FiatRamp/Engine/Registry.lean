import FiatRamp.Engine.Deposit
import FiatRamp.Engine.Withdrawal

/-!
# FiatRamp.Engine.Registry

Which engine moves money between two accounts.

Engines are registered under the kinds of the two accounts and the action; a
later registration replaces an earlier one.  Binding finds the engine and
checks that it suits the accounts.
-/

namespace FiatRamp

/-- What an engine is registered under. -/
structure EngineKey where
  source : AccountKind
  target : AccountKind
  action : TransferAction
  deriving DecidableEq

/-- The engines there are. -/
structure Registry (σ : Type) where
  /-- How to make the engine of each key; the first entry of a key counts. -/
  entries : List (EngineKey × (Account → Account → Engine σ))

namespace Registry

/-- A registry without engines. -/
def empty : Registry σ := ⟨[]⟩

/-- Adds an engine, in place of an earlier one of its key. -/
def register (r : Registry σ) (key : EngineKey) (make : Account → Account → Engine σ) :
    Registry σ := ⟨(key, make) :: r.entries⟩

/-- How to make the engine of a key. -/
def find? (r : Registry σ) (key : EngineKey) : Option (Account → Account → Engine σ) :=
  r.entries.lookup key

/-- There is an engine of this key. -/
def supports (r : Registry σ) (key : EngineKey) : Bool := (r.find? key).isSome

/-- The key of deposits. -/
def depositKey : EngineKey := ⟨.linkedBank, .custodialFiat, .deposit⟩

/-- The key of withdrawals. -/
def withdrawalKey : EngineKey := ⟨.custodialFiat, .linkedBank, .withdraw⟩

/-- The registry of deposits and withdrawals. -/
def standard (ctx : EngineContext σ) : Registry σ :=
  (empty.register depositKey (.deposit ctx)).register withdrawalKey (.withdrawal ctx)

/-- The engine for two accounts and an action. -/
def bind (r : Registry σ) (source target : Account) (action : TransferAction) :
    Except EngineError (Engine σ) :=
  match r.find? ⟨source.kind, target.kind, action⟩ with
  | none => .error (.unsupported source.kind target.kind action)
  | some make =>
    let engine := make source target
    engine.checkAccounts.map fun _ => engine

end Registry

end FiatRamp
