/-!
# FiatRamp.Transfer.Fee

Fee levels, and the choice of one among those an engine offers.

`FeeSelection.ofLevels` and `FeeSelection.select` give only choices that are
on offer.  A custom amount stands beside the custom level alone.
-/

namespace FiatRamp

/-- How urgent a transfer is, and so how dear. -/
inductive FeeLevel where
  | none
  | regular
  | priority
  | custom
  deriving DecidableEq

namespace FeeLevel

/-- The word for a level in exchanged data. -/
def word : FeeLevel → String
  | .none => "none"
  | .regular => "regular"
  | .priority => "priority"
  | .custom => "custom"

/-- The name of a level in messages. -/
def name : FeeLevel → String
  | .none => "None"
  | .regular => "Regular"
  | .priority => "Priority"
  | .custom => "Custom"

/-- Every level. -/
def all : List FeeLevel := [.none, .regular, .priority, .custom]

end FeeLevel

/-- The level chosen and the levels on offer. -/
structure FeeSelection where
  selected : FeeLevel
  available : List FeeLevel
  customAmount : Option UInt64
  deriving DecidableEq

namespace FeeSelection

/-- The one level of a transfer without a choice of fees. -/
def noFee : FeeSelection := ⟨.none, [.none], .none⟩

/-- The level is on offer. -/
def isAvailable (selection : FeeSelection) (level : FeeLevel) : Bool :=
  selection.available.contains level

/-- The choice of a level on offer. -/
def ofLevels (selected : FeeLevel) (available : List FeeLevel) : Option FeeSelection :=
  if available.contains selected then some ⟨selected, available, .none⟩ else .none

/-- Chooses another level on offer.  The amount counts for the custom level
only. -/
def select (selection : FeeSelection) (level : FeeLevel) (customAmount : Option UInt64) :
    Option FeeSelection :=
  (ofLevels level selection.available).map fun next =>
    { next with customAmount := if level = .custom then customAmount else .none }

/-! ## Laws -/

theorem isAvailable_of_ofLevels {level : FeeLevel} {levels : List FeeLevel}
    {selection : FeeSelection} (h : ofLevels level levels = some selection) :
    selection.isAvailable selection.selected = true := by
  unfold ofLevels at h
  split at h
  · cases h; assumption
  · cases h

end FeeSelection

end FiatRamp
