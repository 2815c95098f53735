import FiatRamp.Engine.Basic

/-!
# FiatRamp.Engine.Rehearsal

Engines that are made to go through situations that are hard to bring about.

`Engine.withFees` opens every transfer with other fee levels on offer.
`Engine.withVerdicts` replaces the verdicts of validations by prepared ones.
All else is left to the engine itself.
-/

namespace FiatRamp

/-- The verdicts prepared for each engine, the next one first; `none` leaves a
verdict as it is. -/
abbrev PreparedVerdicts := List (List (Option Verdict))

namespace PreparedVerdicts

/-- The next verdict for an engine, if one is prepared. -/
def next (prepared : PreparedVerdicts) (engine : Nat) : Option Verdict :=
  (prepared[engine]?.bind List.head?).join

/-- Uses up the next verdict for an engine. -/
def advance (prepared : PreparedVerdicts) (engine : Nat) : PreparedVerdicts :=
  prepared.modify engine List.tail

end PreparedVerdicts

namespace Engine

/-- The engine with other fee levels on offer. -/
def withFees (e : Engine σ) (feeSelection : FeeSelection) : Engine σ :=
  { e with onInitialise := do return { ← e.onInitialise with feeSelection } }

/-- The engine with the verdicts prepared for engine number `number`. -/
def withVerdicts (e : Engine (PreparedVerdicts × σ)) (number : Nat) :
    Engine (PreparedVerdicts × σ) :=
  { e with
    onValidateAll := fun p => do
      let p ← e.onValidateAll p
      let (prepared, rest) := (← get).backend
      modify fun w => { w with backend := (prepared.advance number, rest) }
      return { p with verdict := (prepared.next number).getD p.verdict } }

end Engine

end FiatRamp
