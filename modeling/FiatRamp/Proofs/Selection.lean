import FiatRamp.Proofs.RoundTrip
import FiatRamp.Proofs.Safety

/-!
# FiatRamp.Proofs.Selection

When the fee level that is chosen is one on offer.

A choice that is made is always well-formed: its level is on offer, and a custom
amount stands beside the custom level alone (`FeeSelection.isWellFormed_of_make`).  A
choice that is read is not held against this, so any choice whatever can be had
by reading it, alone or in a pending transfer.  An engine takes the chosen level
once more exactly if it is on offer (`FeeSelection.wellFormed_unless_read`).
-/

namespace FiatRamp

namespace FeeSelection

theorem isAvailable_iff {s : FeeSelection} {level : FeeLevel} :
    s.isAvailable level = true ↔ level ∈ s.available :=
  List.contains_iff_mem

/-- A choice as it should be. -/
structure IsWellFormed (s : FeeSelection) : Prop where
  onOffer : s.selected ∈ s.available
  custom : s.customAmount.isSome = true → s.selected = .custom

theorem isWellFormed_noFee : noFee.IsWellFormed := ⟨by decide, by decide⟩

theorem isWellFormed_of_ofLevels {level : FeeLevel} {levels : List FeeLevel} {s : FeeSelection}
    (h : ofLevels level levels = some s) : s.IsWellFormed := by
  have hoffered := isAvailable_of_ofLevels h
  unfold ofLevels at h
  split at h
  · cases h
    exact ⟨isAvailable_iff.1 hoffered, by simp⟩
  · cases h

/-- Another level that is chosen is on offer, whatever was chosen before. -/
theorem isWellFormed_of_select {s t : FeeSelection} {level : FeeLevel}
    {customAmount : Option UInt64} (h : s.select level customAmount = some t) :
    t.IsWellFormed := by
  obtain ⟨next, hnext, rfl⟩ := Option.map_eq_some_iff.1 h
  have hselected : next.selected = level := by
    unfold ofLevels at hnext
    split at hnext <;> cases hnext
    rfl
  refine ⟨(isWellFormed_of_ofLevels hnext).onOffer, fun hsome => ?_⟩
  dsimp only at hsome ⊢
  split at hsome
  · next hcustom => exact hselected.trans hcustom
  · cases hsome

/-! ## Ways to a choice -/

/-- A way to come to a choice: to make one or to read one. -/
inductive Source where
  | noFee
  | levels (level : FeeLevel) (offered : List FeeLevel)
  | select (level : FeeLevel) (customAmount : Option UInt64)
  | read (json : Json)
  /-- The choice of a pending transfer that is read. -/
  | readPending (json : Json)

namespace Source

/-- The choice that a source gives after another one, if it gives any. -/
def next? (current : FeeSelection) : Source → Option FeeSelection
  | .noFee => some .noFee
  | .levels level offered => ofLevels level offered
  | .select level customAmount => current.select level customAmount
  | .read json => FeeSelection.ofJson? json
  | .readPending json => (Pending.ofJson? json).map (·.feeSelection)

/-- The choice is read and not made. -/
def reads : Source → Bool
  | .read _ | .readPending _ => true
  | .noFee | .levels .. | .select .. => false

end Source

/-- **Choices that are made are well-formed**, whatever the one before. -/
theorem isWellFormed_of_make {s t : FeeSelection} {source : Source}
    (h : source.next? s = some t) (makes : source.reads = false) : t.IsWellFormed := by
  cases source with
  | noFee =>
      cases h
      exact isWellFormed_noFee
  | levels => exact isWellFormed_of_ofLevels h
  | select => exact isWellFormed_of_select h
  | read | readPending => cases makes

/-- A choice that was come to by several sources one after the other, from the one level of
a transfer without a choice on. -/
inductive Obtained : List Source → FeeSelection → Prop where
  | start : Obtained [] noFee
  | next {sources : List Source} {s t : FeeSelection} (obtained : Obtained sources s)
      {source : Source} (given : source.next? s = some t) : Obtained (sources ++ [source]) t

/-- A choice is well-formed unless the last thing that was done was to read it. -/
theorem Obtained.isWellFormed_or_reads {sources : List Source} {s : FeeSelection}
    (h : Obtained sources s) :
    s.IsWellFormed ∨ ∃ before source, sources = before ++ [source] ∧ source.reads = true := by
  cases h with
  | start => exact .inl isWellFormed_noFee
  | @next before _ _ _ source given =>
      cases hreads : source.reads with
      | true => exact .inr ⟨before, source, rfl, hreads⟩
      | false => exact .inl (isWellFormed_of_make given hreads)

/-- Every choice can be read. -/
theorem obtained_read (s : FeeSelection) : Obtained [.read s.toJson] s :=
  .next .start s.ofJson?_toJson

/-- Every choice can be read in a pending transfer. -/
theorem obtained_readPending (p : Pending) : Obtained [.readPending p.toJson] p.feeSelection :=
  .next .start (by rw [Source.next?, p.ofJson?_toJson]; rfl)

/-! ## Choices that an engine takes -/

section

variable (ctx : EngineContext σ) (route : Route) (p : Pending) {level : FeeLevel}
  (customFee : Option UInt64) (w : World σ)

/-- An engine takes a level that is on offer. -/
theorem updateFeeLevel_of_mem (h : level ∈ p.feeSelection.available) :
    ∃ q, ((route.engine ctx).updateFeeLevel p level customFee).run.run w = (.ok q, w) ∧
      q.feeSelection.IsWellFormed := by
  rw [Route.run_updateFeeLevel, if_pos (isAvailable_iff.2 h)]
  refine ⟨_, rfl, h, fun hsome => ?_⟩
  dsimp only at hsome ⊢
  split at hsome
  · assumption
  · cases hsome

/-- An engine refuses a level that is not on offer. -/
theorem updateFeeLevel_of_not_mem (h : level ∉ p.feeSelection.available) :
    ((route.engine ctx).updateFeeLevel p level customFee).run.run w =
      (.error (.precondition (.levelMustBeAvailable level (route.engine ctx).name)), w) := by
  rw [Route.run_updateFeeLevel, if_neg (mt isAvailable_iff.1 h), Route.name_engine]

end

/-- **Choices are well-formed unless they are read**: whatever was made and read before, a
choice that is made has its level on offer, while each choice there is can be had by
reading it, alone or in a pending transfer.  An engine takes the chosen level of a
transfer once more exactly if it is on offer, and refuses it by a precondition
otherwise. -/
theorem wellFormed_unless_read {ctx : EngineContext σ} {e : Engine σ} (builtIn : e.IsBuiltIn ctx)
    (suits : e.checkAccounts = .ok ()) :
    (∀ sources s, Obtained sources s →
      s.IsWellFormed ∨ ∃ before source, sources = before ++ [source] ∧ source.reads = true) ∧
    (∀ s, ∃ json json', Obtained [.read json] s ∧ Obtained [.readPending json'] s) ∧
    ∀ (p : Pending) (customFee : Option UInt64) (w : World σ),
      (p.feeSelection.selected ∈ p.feeSelection.available →
        ∃ q, (e.updateFeeLevel p p.feeSelection.selected customFee).run.run w = (.ok q, w) ∧
          q.feeSelection.IsWellFormed) ∧
      (p.feeSelection.selected ∉ p.feeSelection.available →
        (e.updateFeeLevel p p.feeSelection.selected customFee).run.run w =
          (.error (.precondition (.levelMustBeAvailable p.feeSelection.selected e.name)), w)) := by
  obtain ⟨route, rfl⟩ := builtIn.exists_route suits
  refine ⟨fun _ _ => Obtained.isWellFormed_or_reads, fun s => ?_, fun p customFee w => ?_⟩
  · let p : Pending := { Pending.zeroed Sample.sterling Sample.sterling with feeSelection := s }
    exact ⟨s.toJson, p.toJson, obtained_read s, obtained_readPending p⟩
  · exact ⟨updateFeeLevel_of_mem ctx route p customFee w,
      updateFeeLevel_of_not_mem ctx route p customFee w⟩

namespace Sample

/-- A choice of the custom level where none but the level without a fee is on offer. -/
def misread : Json :=
  .record [("selected", .text "custom"), ("available", .list [.text "none"]),
    ("custom_amount", .null)]

/-- A custom amount beside a level that has none. -/
def stray : Json :=
  .record [("selected", .text "none"), ("available", .list [.text "none"]),
    ("custom_amount", Json.ofUInt64 42)]

end Sample

/-- An engine takes the one level of a transfer it opens, and refuses a level that was read and
is not on offer. -/
theorem wellFormed_unless_read_withdrawal :
    let p : Pending := .zeroed Sample.sterling Sample.sterling
    let q : Pending := { p with feeSelection := ⟨.custom, [.none], none⟩ }
    (∃ next, (Sample.withdrawal.updateFeeLevel p .none none).run.run (.start ()) =
        (.ok next, .start ()) ∧ next.feeSelection.IsWellFormed) ∧
      (Sample.withdrawal.updateFeeLevel q .custom none).run.run (.start ()) =
        (.error (.precondition (.levelMustBeAvailable .custom "fiat_withdraw")), .start ()) := by
  intro p q
  obtain ⟨-, -, hlevel⟩ := wellFormed_unless_read Sample.isBuiltIn_withdrawal rfl
  exact ⟨(hlevel p none (.start ())).1 (by decide), (hlevel q none (.start ())).2 (by decide)⟩

/-- **Choices that should not be**: a level is read that is not on offer, which the engine
then refuses, and an amount beside a level that has none. -/
theorem reads_malformed :
    (∃ s, Obtained [.read Sample.misread] s ∧ s.selected ∉ s.available ∧
      ∃ w, (Sample.withdrawal.updateFeeLevel
          { Pending.zeroed Sample.sterling Sample.sterling with feeSelection := s } s.selected
          none).run.run (.start ()) =
        (.error (.precondition (.levelMustBeAvailable .custom "fiat_withdraw")), w)) ∧
    ∃ s, Obtained [.read Sample.stray] s ∧ s.customAmount = some 42 ∧ s.selected ≠ .custom :=
  ⟨⟨⟨.custom, [.none], none⟩, .next .start rfl, by decide, _, rfl⟩,
    ⟨⟨.none, [.none], some 42⟩, .next .start rfl, rfl, by decide⟩⟩

end FeeSelection

end FiatRamp
