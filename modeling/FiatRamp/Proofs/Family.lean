import FiatRamp.Cancellation
import Mathlib.Data.List.Basic
import Mathlib.Logic.Relation
import Mathlib.Tactic.Common

/-!
# FiatRamp.Proofs.Family

Families of tokens.

Two tokens are of one family if clones lead from one to the other (`SameFamily`).
Whatever is done with tokens, in one of a few ways (`TokenSet.Does`), keeps the families
apart (`TokenSet.Kin`), has the channel of a family tell whether one of its tokens was
cancelled (`TokenSet.Flags`), and has every waiter notified that has to look again
(`TokenSet.Attended`).  So a token and those who wait for it learn of the cancellations
of its family and of no others (`TokenSet.cancellation_is_shared`).
-/

namespace FiatRamp

variable {watch : Watch}

/-! ## Histories -/

/-- What is done with tokens and those who wait. -/
inductive TokenCall where
  | create
  | clone (i : Nat)
  | cancel (i : Nat)
  /-- Somebody starts to wait for token `i`. -/
  | wait (i : Nat)
  /-- Waiter `k` has its turn. -/
  | turn (k : Nat)

namespace TokenCall

def apply (tokens : TokenSet watch) : TokenCall → TokenSet watch
  | create => tokens.create
  | clone i => tokens.clone i
  | cancel i => tokens.cancel i
  | wait i => tokens.wait i
  | turn k => tokens.turn k

/-- The token or the waiter is there. -/
def IsPossible (tokens : TokenSet watch) : TokenCall → Prop
  | create => True
  | clone i | cancel i | wait i => i < tokens.size
  | turn k => k < tokens.waiters.length

instance (tokens : TokenSet watch) : (call : TokenCall) → Decidable (call.IsPossible tokens)
  | create => .isTrue trivial
  | clone i | cancel i | wait i => inferInstanceAs (Decidable (i < tokens.size))
  | turn k => inferInstanceAs (Decidable (k < tokens.waiters.length))

/-- Where the token that is made comes from: the token it is a clone of, if it is one. -/
def origin? : TokenCall → Option (Option Nat)
  | create => some none
  | clone i => some (some i)
  | _ => none

/-- The token that somebody starts to wait for. -/
def waited? : TokenCall → Option Nat
  | wait i => some i
  | _ => none

end TokenCall

/-- Token `i` was made as a clone of token `j`. -/
def ClonedFrom (calls : List TokenCall) (i j : Nat) : Prop :=
  (calls.filterMap TokenCall.origin?)[i]? = some (some j)

/-- Clones lead from one token to the other, in whatever direction. -/
def SameFamily (calls : List TokenCall) : Nat → Nat → Prop := Relation.EqvGen (ClonedFrom calls)

/-- A token of the family of token `i` was cancelled. -/
def WasCancelled (calls : List TokenCall) (i : Nat) : Prop :=
  ∃ j, .cancel j ∈ calls ∧ SameFamily calls i j

/-- Waiter `k` waits for token `i`. -/
def WaitsFor (calls : List TokenCall) (k i : Nat) : Prop :=
  (calls.filterMap TokenCall.waited?)[k]? = some i

/-- What was done later comes after what was done before. -/
theorem getElem?_filterMap_append {f : α → Option β} {xs : List α} {i : Nat} {b : β}
    (h : (xs.filterMap f)[i]? = some b) (ys : List α) :
    ((xs ++ ys).filterMap f)[i]? = some b := by
  rw [List.filterMap_append, List.getElem?_append_left (List.getElem?_eq_some_iff.1 h).1, h]

section

variable {calls : List TokenCall} {i j : Nat}

theorem SameFamily.append (h : SameFamily calls i j) (later : List TokenCall) :
    SameFamily (calls ++ later) i j :=
  Relation.EqvGen.mono (fun _ _ hcloned => getElem?_filterMap_append hcloned later) i j h

theorem WaitsFor.append {k : Nat} (h : WaitsFor calls k i) (later : List TokenCall) :
    WaitsFor (calls ++ later) k i :=
  getElem?_filterMap_append h later

/-- A family that was cancelled stays so. -/
theorem WasCancelled.append (h : WasCancelled calls i) (later : List TokenCall) :
    WasCancelled (calls ++ later) i := by
  obtain ⟨j, hcancel, hsame⟩ := h
  exact ⟨j, List.mem_append_left _ hcancel, hsame.append later⟩

end

namespace TokenSet

/-- What was done since there was no token, and the tokens it led to. -/
inductive Run : List TokenCall → TokenSet watch → Prop
  | refl : Run [] .empty
  | call {calls : List TokenCall} {tokens : TokenSet watch} (run : Run calls tokens)
      (call : TokenCall) (possible : call.IsPossible tokens) :
      Run (calls ++ [call]) (call.apply tokens)

/-- The ways in which something can be done. -/
inductive Does (tokens : TokenSet watch) : TokenCall → TokenSet watch → Prop
  | created : Does tokens .create
      { tokens with families := tokens.families ++ [tokens.fresh], fresh := tokens.fresh + 1 }
  | cloned {i family : Nat} (own : tokens.families[i]? = some family) :
      Does tokens (.clone i) { tokens with families := tokens.families ++ [family] }
  | cancelled {i family : Nat} (own : tokens.families[i]? = some family) :
      Does tokens (.cancel i) { tokens with
        channels := fun other =>
          if other = family then watch.replace (tokens.channels other) true
          else tokens.channels other }
  | waited {i family : Nat} (own : tokens.families[i]? = some family) :
      Does tokens (.wait i)
        { tokens with waiters := tokens.waiters ++ [.start family (tokens.channels family)] }
  | turned {k : Nat} : Does tokens (.turn k)
      { tokens with waiters := tokens.waiters.modify k fun waiter =>
          waiter.turn (tokens.channels waiter.family) }

/-- **Everything possible is done in one of the ways listed.** -/
theorem does_apply {tokens : TokenSet watch} {call : TokenCall} (h : call.IsPossible tokens) :
    Does tokens call (call.apply tokens) := by
  have own : ∀ {i : Nat}, i < tokens.size → ∃ family, tokens.families[i]? = some family :=
    fun hi => ⟨_, List.getElem?_eq_getElem hi⟩
  cases call with
  | create => exact .created
  | turn => exact .turned
  | clone =>
      obtain ⟨family, hown⟩ := own h
      simpa [TokenCall.apply, clone, hown] using Does.cloned hown
  | cancel =>
      obtain ⟨family, hown⟩ := own h
      simpa [TokenCall.apply, cancel, hown] using Does.cancelled hown
  | wait =>
      obtain ⟨family, hown⟩ := own h
      simpa [TokenCall.apply, wait, hown] using Does.waited hown

/-! ## Families -/

theorem getElem?_concat_eq_some_iff {xs : List α} {x y : α} {i : Nat} :
    (xs ++ [x])[i]? = some y ↔ xs[i]? = some y ∨ (i = xs.length ∧ x = y) := by
  rcases Nat.lt_trichotomy i xs.length with hlt | rfl | hgt
  · simp [List.getElem?_append_left hlt, Nat.ne_of_lt hlt]
  · simp
  · simp [List.getElem?_append_right (Nat.le_of_lt hgt), Nat.ne_of_gt hgt, Nat.le_of_lt hgt,
      Nat.sub_ne_zero_of_lt hgt]

/-- The family of a token, as kept, is its family along clones. -/
structure Kin (calls : List TokenCall) (tokens : TokenSet watch) : Prop where
  size : tokens.size = (calls.filterMap TokenCall.origin?).length
  fresh : ∀ {i family : Nat}, tokens.families[i]? = some family → family < tokens.fresh
  inherited : ∀ {i j : Nat}, ClonedFrom calls i j →
    ∃ family, tokens.families[i]? = some family ∧ tokens.families[j]? = some family
  related : ∀ {i j family : Nat}, tokens.families[i]? = some family →
    tokens.families[j]? = some family → SameFamily calls i j

section

variable {calls : List TokenCall} {call : TokenCall} {tokens tokens' : TokenSet watch}

/-- Tokens of one family are kept as such. -/
theorem Kin.families_eq (h : Kin calls tokens) {i j : Nat} (hsame : SameFamily calls i j) :
    tokens.families[i]? = tokens.families[j]? := by
  induction hsame with
  | rel i j hcloned =>
      obtain ⟨family, hi, hj⟩ := h.inherited hcloned
      rw [hi, hj]
  | refl => rfl
  | symm _ _ _ ih => exact ih.symm
  | trans _ _ _ _ _ ih₁ ih₂ => exact ih₁.trans ih₂

theorem Kin.sameFamily_iff (h : Kin calls tokens) {i j family : Nat}
    (hi : tokens.families[i]? = some family) :
    SameFamily calls i j ↔ tokens.families[j]? = some family :=
  ⟨fun hsame => (h.families_eq hsame).symm.trans hi, h.related hi⟩

/-- What makes no token leaves the families alone. -/
theorem Kin.keep (h : Kin calls tokens) (hcall : call.origin? = none)
    (hfamilies : tokens'.families = tokens.families) (hfresh : tokens'.fresh = tokens.fresh) :
    Kin (calls ++ [call]) tokens' := by
  have horigins : (calls ++ [call]).filterMap TokenCall.origin? =
      calls.filterMap TokenCall.origin? := by simp [hcall]
  have hcloned : ClonedFrom (calls ++ [call]) = ClonedFrom calls := by
    unfold ClonedFrom
    rw [horigins]
  constructor
  · rw [TokenSet.size, hfamilies, horigins]
    exact h.size
  · rw [hfamilies, hfresh]
    exact h.fresh
  · rw [hfamilies, hcloned]
    exact h.inherited
  · rw [hfamilies, SameFamily, hcloned]
    exact h.related

/-- A new token belongs to the family of its origin, or to one of its own. -/
theorem Kin.add (h : Kin calls tokens) {origin : Option Nat} {family : Nat}
    (hcall : call.origin? = some origin)
    (hfamilies : tokens'.families = tokens.families ++ [family])
    (hfresh : tokens.fresh ≤ tokens'.fresh) (hfamily : family < tokens'.fresh)
    (horigin : ∀ p : Nat, origin = some p → tokens.families[p]? = some family)
    (hkin : ∀ j : Nat, tokens.families[j]? = some family →
      ∃ p : Nat, origin = some p ∧ tokens.families[p]? = some family) :
    Kin (calls ++ [call]) tokens' := by
  have horigins : (calls ++ [call]).filterMap TokenCall.origin? =
      calls.filterMap TokenCall.origin? ++ [origin] := by simp [hcall]
  have hsize : tokens.families.length = (calls.filterMap TokenCall.origin?).length := h.size
  have hnew : ∀ j : Nat, tokens.families[j]? = some family →
      SameFamily (calls ++ [call]) tokens.families.length j := by
    intro j hj
    obtain ⟨p, rfl, hp⟩ := hkin j hj
    refine .trans _ p _ (.rel _ _ ?_) ((h.related hp hj).append _)
    rw [ClonedFrom, horigins, hsize]
    simp
  constructor
  · simp [TokenSet.size, hfamilies, horigins, hsize]
  · intro i other hi
    rw [hfamilies, getElem?_concat_eq_some_iff] at hi
    rcases hi with hold | ⟨-, rfl⟩
    · exact Nat.lt_of_lt_of_le (h.fresh hold) hfresh
    · exact hfamily
  · intro i j hcloned
    rw [ClonedFrom, horigins, getElem?_concat_eq_some_iff] at hcloned
    simp only [hfamilies, getElem?_concat_eq_some_iff]
    rcases hcloned with hold | ⟨rfl, rfl⟩
    · obtain ⟨other, hi, hj⟩ := h.inherited hold
      exact ⟨other, .inl hi, .inl hj⟩
    · exact ⟨family, .inr ⟨hsize.symm, rfl⟩, .inl (horigin j rfl)⟩
  · intro i j other hi hj
    rw [hfamilies, getElem?_concat_eq_some_iff] at hi hj
    rcases hi with hi | ⟨rfl, rfl⟩ <;> rcases hj with hj | ⟨rfl, hother⟩
    · exact (h.related hi hj).append _
    · exact .symm _ _ (hnew i (hother ▸ hi))
    · exact hnew j hj
    · exact .refl _

/-- **Everything that is done keeps the families apart.** -/
theorem Does.kin (h : Does tokens call tokens') (hkin : Kin calls tokens) :
    Kin (calls ++ [call]) tokens' := by
  cases h with
  | created =>
      refine hkin.add rfl rfl (Nat.le_succ _) (Nat.lt_succ_self _) (by simp) fun j hj => ?_
      exact absurd (hkin.fresh hj) (Nat.lt_irrefl _)
  | @cloned i family hown =>
      refine hkin.add rfl rfl (Nat.le_refl _) (hkin.fresh hown) ?_ fun _ _ => ⟨i, rfl, hown⟩
      rintro p ⟨⟩
      exact hown
  | cancelled | waited | turned => exact hkin.keep rfl rfl rfl

/-- What is done leaves the tokens in their families. -/
theorem Does.getElem?_families (h : Does tokens call tokens') {i : Nat} (hi : i < tokens.size) :
    tokens'.families[i]? = tokens.families[i]? := by
  cases h with
  | created | cloned => exact List.getElem?_append_left hi
  | cancelled | waited | turned => rfl

/-! ## Channels -/

/-- The channel of a family tells whether a token of the family was cancelled. -/
structure Flags (calls : List TokenCall) (tokens : TokenSet watch) : Prop where
  known : ∀ {j : Nat}, .cancel j ∈ calls → j < tokens.size
  value : ∀ family, watch.value (tokens.channels family) = true ↔
    ∃ j, .cancel j ∈ calls ∧ tokens.families[j]? = some family

/-- What cancels nothing leaves the channels alone. -/
theorem Flags.keep (h : Flags calls tokens) (hdoes : Does tokens call tokens')
    (hcall : ∀ j, call ≠ .cancel j) (hchannels : tokens'.channels = tokens.channels)
    (hsize : tokens.size ≤ tokens'.size) : Flags (calls ++ [call]) tokens' := by
  have hmem : ∀ j, .cancel j ∈ calls ++ [call] ↔ .cancel j ∈ calls := by
    simp [fun j => (hcall j).symm]
  constructor
  · intro j hj
    exact Nat.lt_of_lt_of_le (h.known ((hmem j).1 hj)) hsize
  · intro family
    rw [hchannels, h.value]
    refine exists_congr fun j => ?_
    rw [hmem]
    refine and_congr_right fun hj => ?_
    rw [hdoes.getElem?_families (h.known hj)]

/-- **Everything that is done leaves the channels telling of the cancellations.** -/
theorem Does.flags (lawful : watch.Lawful) (h : Does tokens call tokens')
    (hflags : Flags calls tokens) : Flags (calls ++ [call]) tokens' := by
  cases h with
  | created => exact hflags.keep .created (by simp) rfl (by simp [TokenSet.size])
  | cloned hown => exact hflags.keep (.cloned hown) (by simp) rfl (by simp [TokenSet.size])
  | waited hown => exact hflags.keep (.waited hown) (by simp) rfl (Nat.le_refl _)
  | turned => exact hflags.keep .turned (by simp) rfl (Nat.le_refl _)
  | @cancelled i family hown =>
      constructor
      · intro j hj
        simp only [List.mem_append, List.mem_singleton, TokenCall.cancel.injEq] at hj
        rcases hj with hold | rfl
        · exact hflags.known hold
        · exact (List.getElem?_eq_some_iff.1 hown).1
      · intro other
        simp only [List.mem_append, List.mem_singleton, TokenCall.cancel.injEq]
        by_cases hother : other = family
        · subst hother
          rw [if_pos rfl, lawful.value_replace]
          exact ⟨fun _ => ⟨i, .inr rfl, hown⟩, fun _ => rfl⟩
        · rw [if_neg hother, hflags.value]
          refine exists_congr fun j => and_congr_left fun hj => ?_
          refine ⟨.inl, fun hcancel => hcancel.resolve_right ?_⟩
          rintro rfl
          exact hother (Option.some.inj (hj.symm.trans hown))

end

end TokenSet

/-! ## Waiters -/

/-- A waiter whose wait could be over, but is not yet, is notified. -/
structure Waiter.Attends (waiter : Waiter watch) (channel : watch.Channel) : Prop where
  value : waiter.resolved = true → watch.value channel = true
  notified : waiter.resolved = false → watch.value channel = true →
    watch.hasChanged channel waiter.receiver = true
  receiver : waiter.receiver = watch.seen channel ∨
    watch.hasChanged channel waiter.receiver = true

namespace Waiter

variable {waiter : Waiter watch} {channel : watch.Channel}

theorem attends_start (family : Nat) (channel : watch.Channel) :
    (start family channel : Waiter watch).Attends channel where
  value h := h
  notified hresolved hvalue := Bool.noConfusion (hvalue.symm.trans hresolved)
  receiver := .inl rfl

/-- No notification is lost: whatever the waiter has seen, it is told of the cancellation. -/
theorem Attends.replace (h : waiter.Attends channel) (lawful : watch.Lawful) :
    waiter.Attends (watch.replace channel true) := by
  have hchanged : watch.hasChanged (watch.replace channel true) waiter.receiver = true := by
    rcases h.receiver with hseen | hchanged
    · rw [hseen]
      exact lawful.hasChanged_replace channel true
    · exact lawful.hasChanged_mono channel true _ hchanged
  exact ⟨fun _ => lawful.value_replace channel true, fun _ _ => hchanged, .inr hchanged⟩

theorem Attends.turn (h : waiter.Attends channel) : (waiter.turn channel).Attends channel := by
  unfold Waiter.turn
  split
  · exact h
  · split
    · exact attends_start ..
    · exact h

/-- At its turn a waiter learns what the channel holds. -/
theorem Attends.resolved_turn (h : waiter.Attends channel) :
    (waiter.turn channel).resolved = watch.value channel := by
  unfold Waiter.turn
  split
  · next hresolved => rw [hresolved, h.value hresolved]
  · next hresolved =>
      rw [Bool.not_eq_true] at hresolved
      split
      · rfl
      · next hsleeps =>
          rw [hresolved]
          by_contra hvalue
          exact hsleeps (h.notified hresolved (by simpa using Ne.symm hvalue))

@[simp] theorem family_turn (waiter : Waiter watch) (channel : watch.Channel) :
    (waiter.turn channel).family = waiter.family := by
  unfold Waiter.turn
  split
  · rfl
  · split <;> rfl

end Waiter

namespace TokenSet

/-- Every waiter watches the channel of the token it waits for. -/
structure Attended (calls : List TokenCall) (tokens : TokenSet watch) : Prop where
  length : tokens.waiters.length = (calls.filterMap TokenCall.waited?).length
  family : ∀ {k i : Nat}, WaitsFor calls k i →
    ∃ waiter, tokens.waiters[k]? = some waiter ∧ tokens.families[i]? = some waiter.family
  attends : ∀ {k : Nat} {waiter : Waiter watch}, tokens.waiters[k]? = some waiter →
    waiter.Attends (tokens.channels waiter.family)

section

variable {calls : List TokenCall} {call : TokenCall} {tokens tokens' : TokenSet watch}

/-- A token that was there stays in its family. -/
theorem Does.mono (h : Does tokens call tokens') {i family : Nat}
    (hi : tokens.families[i]? = some family) : tokens'.families[i]? = some family := by
  rw [h.getElem?_families (List.getElem?_eq_some_iff.1 hi).1, hi]

theorem waitsFor_concat_iff {k i : Nat} (hcall : call.waited? = none) :
    WaitsFor (calls ++ [call]) k i ↔ WaitsFor calls k i := by
  simp [WaitsFor, hcall]

/-- Those who wait stay up to date if nobody starts to wait or has a turn, and each is told
of what happens to its channel. -/
theorem Attended.keep (h : Attended calls tokens) (hdoes : Does tokens call tokens')
    (hcall : call.waited? = none) (hwaiters : tokens'.waiters = tokens.waiters)
    (hattends : ∀ waiter : Waiter watch, waiter.Attends (tokens.channels waiter.family) →
      waiter.Attends (tokens'.channels waiter.family)) :
    Attended (calls ++ [call]) tokens' := by
  constructor
  · simp [hwaiters, hcall, h.length]
  · intro k i hwaits
    obtain ⟨waiter, hk, hfamily⟩ := h.family ((waitsFor_concat_iff hcall).1 hwaits)
    exact ⟨waiter, hwaiters ▸ hk, hdoes.mono hfamily⟩
  · intro k waiter hk
    exact hattends waiter (h.attends (hwaiters ▸ hk))

/-- **Everything that is done keeps those who wait up to date.** -/
theorem Does.attended (lawful : watch.Lawful) (h : Does tokens call tokens')
    (hattended : Attended calls tokens) : Attended (calls ++ [call]) tokens' := by
  cases h with
  | created => exact hattended.keep .created rfl rfl fun _ => id
  | cloned hown => exact hattended.keep (.cloned hown) rfl rfl fun _ => id
  | @cancelled i family hown =>
      refine hattended.keep (.cancelled hown) rfl rfl fun waiter hwaiter => ?_
      dsimp only
      split
      · exact hwaiter.replace lawful
      · exact hwaiter
  | @turned k =>
      constructor
      · simp [TokenCall.waited?, hattended.length]
      · intro j i hwaits
        obtain ⟨waiter, hj, hfamily⟩ := hattended.family ((waitsFor_concat_iff rfl).1 hwaits)
        rw [List.getElem?_modify, hj]
        refine ⟨_, rfl, ?_⟩
        dsimp only
        split <;> simp [hfamily]
      · intro j waiter hj
        rw [List.getElem?_modify, Option.map_eq_map, Option.map_eq_some_iff] at hj
        obtain ⟨old, hj, rfl⟩ := hj
        split
        · rw [Waiter.family_turn]
          exact (hattended.attends hj).turn
        · exact hattended.attends hj
  | @waited i family hown =>
      have hwaited : (calls ++ [TokenCall.wait i]).filterMap TokenCall.waited? =
          calls.filterMap TokenCall.waited? ++ [i] := by simp [TokenCall.waited?]
      constructor
      · rw [hwaited, List.length_append, List.length_append, hattended.length]
        rfl
      · intro k j hwaits
        rw [WaitsFor, hwaited, getElem?_concat_eq_some_iff] at hwaits
        simp only [getElem?_concat_eq_some_iff]
        rcases hwaits with hold | ⟨rfl, rfl⟩
        · obtain ⟨waiter, hk, hfamily⟩ := hattended.family hold
          exact ⟨waiter, .inl hk, hfamily⟩
        · exact ⟨_, .inr ⟨hattended.length.symm, rfl⟩, hown⟩
      · intro k waiter hk
        rw [getElem?_concat_eq_some_iff] at hk
        rcases hk with hold | ⟨-, rfl⟩
        · exact hattended.attends hold
        · exact Waiter.attends_start ..

/-! ## Reports -/

/-- A history fixes the families, what the channels hold and who waits. -/
structure Recorded (calls : List TokenCall) (tokens : TokenSet watch) : Prop where
  kin : Kin calls tokens
  flags : Flags calls tokens
  attended : Attended calls tokens

/-- **What was done is on record.** -/
theorem Run.recorded (lawful : watch.Lawful) (h : Run calls tokens) : Recorded calls tokens := by
  induction h with
  | refl =>
      constructor
      · exact ⟨rfl, by simp [empty], by simp [ClonedFrom], by simp [empty]⟩
      · exact ⟨by simp, by simp [empty, lawful.value_hold]⟩
      · exact ⟨rfl, by simp [WaitsFor], by simp [empty]⟩
  | call _ call hpossible ih =>
      have hdoes := does_apply hpossible
      exact ⟨hdoes.kin ih.kin, hdoes.flags lawful ih.flags, hdoes.attended lawful ih.attended⟩

theorem Recorded.value_iff (h : Recorded calls tokens) {i family : Nat}
    (hi : tokens.families[i]? = some family) :
    watch.value (tokens.channels family) = true ↔ WasCancelled calls i := by
  rw [h.flags.value, WasCancelled]
  exact exists_congr fun j => and_congr_right fun _ => (h.kin.sameFamily_iff hi).symm

/-- A token tells whether its family was cancelled. -/
theorem Recorded.isCancelled_iff (h : Recorded calls tokens) {i : Nat} (hi : i < tokens.size) :
    tokens.isCancelled i = true ↔ WasCancelled calls i := by
  have hown : tokens.families[i]? = some _ := List.getElem?_eq_getElem hi
  rw [isCancelled, hown]
  exact h.value_iff hown

/-- The wait for a token is over once its family was cancelled. -/
theorem Recorded.resolves_iff (h : Recorded calls tokens) {k i : Nat}
    (hwaits : WaitsFor calls k i) : tokens.resolves k = true ↔ WasCancelled calls i := by
  obtain ⟨waiter, hk, hfamily⟩ := h.attended.family hwaits
  rw [← h.value_iff hfamily, ← (h.attended.attends hk).resolved_turn]
  simp [resolves, turn, hk]

/-- Both tell the same of every token and end the same waits. -/
structure ReportsAlike (tokens tokens' : TokenSet watch) : Prop where
  size : tokens.size = tokens'.size
  waiters : tokens.waiters.length = tokens'.waiters.length
  isCancelled : ∀ i < tokens.size, tokens.isCancelled i = tokens'.isCancelled i
  resolves : ∀ k < tokens.waiters.length, tokens.resolves k = tokens'.resolves k

/-- Histories of the same tokens and waiters are told apart by the cancellations alone. -/
theorem Recorded.reportsAlike {calls' : List TokenCall} (h : Recorded calls tokens)
    (h' : Recorded calls' tokens')
    (horigins : calls.filterMap TokenCall.origin? = calls'.filterMap TokenCall.origin?)
    (hwaited : calls.filterMap TokenCall.waited? = calls'.filterMap TokenCall.waited?)
    (hcancelled : ∀ i, WasCancelled calls i ↔ WasCancelled calls' i) :
    ReportsAlike tokens tokens' := by
  have hsize : tokens.size = tokens'.size := by rw [h.kin.size, h'.kin.size, horigins]
  refine ⟨hsize, ?_, fun i hi => ?_, fun k hk => ?_⟩
  · rw [h.attended.length, h'.attended.length, hwaited]
  · rw [Bool.eq_iff_iff, h.isCancelled_iff hi, h'.isCancelled_iff (hsize ▸ hi), hcancelled]
  · rw [h.attended.length] at hk
    have hwaits : WaitsFor calls k _ := List.getElem?_eq_getElem hk
    have hwaits' : WaitsFor calls' k _ := (congrArg (·[k]?) hwaited).symm.trans hwaits
    rw [Bool.eq_iff_iff, h.resolves_iff hwaits, h'.resolves_iff hwaits', hcancelled]

/-- To cancel a family again makes no difference, whatever is done later. -/
theorem wasCancelled_again_iff {later : List TokenCall} {i j : Nat} (h : WasCancelled calls i) :
    WasCancelled (calls ++ .cancel i :: later) j ↔ WasCancelled (calls ++ later) j := by
  have hcloned : ClonedFrom (calls ++ .cancel i :: later) = ClonedFrom (calls ++ later) := by
    unfold ClonedFrom
    rw [List.filterMap_append, List.filterMap_append, List.filterMap_cons_none rfl]
  simp only [WasCancelled, SameFamily, hcloned]
  constructor
  · rintro ⟨other, hcancel, hsame⟩
    simp only [List.mem_append, List.mem_cons, TokenCall.cancel.injEq] at hcancel
    rcases hcancel with hbefore | rfl | hlater
    · exact ⟨other, List.mem_append_left _ hbefore, hsame⟩
    · obtain ⟨first, hcancel, hfirst⟩ := h.append later
      exact ⟨first, hcancel, .trans _ _ _ hsame hfirst⟩
    · exact ⟨other, List.mem_append_right _ hlater, hsame⟩
  · rintro ⟨other, hcancel, hsame⟩
    rw [List.mem_append] at hcancel
    refine ⟨other, List.mem_append.2 ?_, hsame⟩
    exact hcancel.imp_right (List.mem_cons_of_mem _)

/-- Whatever does not cancel the family of a token is nothing to the token. -/
theorem Recorded.wasCancelled_concat_iff (h : Recorded calls tokens)
    (h' : Recorded (calls ++ [call]) (call.apply tokens)) (hpossible : call.IsPossible tokens)
    {j : Nat} (hj : j < tokens.size) (hother : ∀ i, call = .cancel i → ¬ SameFamily calls i j) :
    WasCancelled (calls ++ [call]) j ↔ WasCancelled calls j := by
  refine ⟨?_, fun hcancelled => hcancelled.append _⟩
  rintro ⟨i, hcancel, hsame⟩
  have hdoes := does_apply hpossible
  have hown : tokens.families[j]? = some _ := List.getElem?_eq_getElem hj
  -- the token that was cancelled is not a new one, so it was of the family before
  have hsame_of_lt : i < tokens.size → SameFamily calls j i := by
    intro hi
    rw [h.kin.sameFamily_iff hown, ← hdoes.getElem?_families hi]
    exact (h'.kin.sameFamily_iff (hdoes.mono hown)).1 hsame
  rw [List.mem_append, List.mem_singleton] at hcancel
  rcases hcancel with hbefore | rfl
  · exact ⟨i, hbefore, hsame_of_lt (h.flags.known hbefore)⟩
  · exact absurd (.symm _ _ (hsame_of_lt hpossible)) (hother i rfl)

end

/-- **Cancellation is shared by clones, permanent and private.**  After any history a token
is cancelled, and the wait of whoever waits for it is over, exactly if a token of its
family was cancelled, no matter when the wait began.  It stays so whatever is done later; to
cancel a cancelled token again makes no difference then or later; and whatever does not
cancel a token of its family makes no difference to a token and those who wait for it. -/
theorem cancellation_is_shared (lawful : watch.Lawful) {calls : List TokenCall}
    {tokens : TokenSet watch} (run : Run calls tokens) :
    (∀ i < tokens.size, tokens.isCancelled i = true ↔ WasCancelled calls i) ∧
      (∀ k i, WaitsFor calls k i → (tokens.resolves k = true ↔ WasCancelled calls i)) ∧
      (∀ later (after : TokenSet watch), Run (calls ++ later) after → ∀ i < tokens.size,
        tokens.isCancelled i = true →
          after.isCancelled i = true ∧
            ∀ k, WaitsFor (calls ++ later) k i → after.resolves k = true) ∧
      (∀ i later (again once : TokenSet watch), i < tokens.size → tokens.isCancelled i = true →
        Run (calls ++ .cancel i :: later) again → Run (calls ++ later) once →
          ReportsAlike again once) ∧
      ∀ (call : TokenCall) (j : Nat), call.IsPossible tokens → j < tokens.size →
        (∀ i, call = .cancel i → ¬ SameFamily calls i j) →
          (call.apply tokens).isCancelled j = tokens.isCancelled j ∧
            ∀ k, WaitsFor calls k j → (call.apply tokens).resolves k = tokens.resolves k := by
  have h := run.recorded lawful
  refine ⟨fun i hi => h.isCancelled_iff hi, fun k i hwaits => h.resolves_iff hwaits, ?_, ?_, ?_⟩
  · intro later after hafter i hi hcancelled
    have hlater := hafter.recorded lawful
    have hwas := ((h.isCancelled_iff hi).1 hcancelled).append later
    refine ⟨(hlater.isCancelled_iff ?_).2 hwas, fun k hwaits => (hlater.resolves_iff hwaits).2 hwas⟩
    rw [hlater.kin.size, List.filterMap_append, List.length_append, ← h.kin.size]
    exact Nat.lt_add_right _ hi
  · intro i later again once hi hcancelled hagain honce
    have hwas := (h.isCancelled_iff hi).1 hcancelled
    refine (hagain.recorded lawful).reportsAlike (honce.recorded lawful) ?_ ?_
      fun j => wasCancelled_again_iff hwas
    · rw [List.filterMap_append, List.filterMap_append, List.filterMap_cons_none rfl]
    · rw [List.filterMap_append, List.filterMap_append, List.filterMap_cons_none rfl]
  · intro call j hpossible hj hother
    have h' := (run.call call hpossible).recorded lawful
    have hsame := h.wasCancelled_concat_iff h' hpossible hj hother
    have hown : tokens.families[j]? = some _ := List.getElem?_eq_getElem hj
    have hj' := (List.getElem?_eq_some_iff.1 ((does_apply hpossible).mono hown)).1
    refine ⟨?_, fun k hwaits => ?_⟩
    · rw [Bool.eq_iff_iff, h'.isCancelled_iff hj', h.isCancelled_iff hj, hsame]
    · rw [Bool.eq_iff_iff, h'.resolves_iff (hwaits.append [call]), h.resolves_iff hwaits, hsame]

end TokenSet

/-- The clone of a clone is cancelled.  Two wait for the first token, one before that and
one after, and one for a token of another family. -/
def Sample.tokenCalls : List TokenCall :=
  [.create, .wait 0, .clone 0, .create, .clone 1, .cancel 3, .wait 0, .wait 2]

namespace TokenSet

/-- The clone of a clone cancels the first token and ends the waits for it, whenever they
began; another family is left alone. -/
theorem cancellation_is_shared_grandchild :
    ∃ tokens : Tokens, Run Sample.tokenCalls tokens ∧
      tokens.isCancelled 0 = true ∧ tokens.resolves 0 = true ∧ tokens.resolves 1 = true ∧
      tokens.isCancelled 2 = false ∧ tokens.resolves 2 = false := by
  have hstart : Run [] (.empty : Tokens) := .refl
  have hrun := hstart.call .create trivial |>.call (.wait 0) (by decide)
    |>.call (.clone 0) (by decide) |>.call .create trivial |>.call (.clone 1) (by decide)
    |>.call (.cancel 3) (by decide) |>.call (.wait 0) (by decide) |>.call (.wait 2) (by decide)
  obtain ⟨htokens, hwaiters, -⟩ := cancellation_is_shared Watch.lawful_counting hrun
  have hwas : WasCancelled Sample.tokenCalls 0 := by
    refine ⟨3, by simp [Sample.tokenCalls], .trans 0 1 3 ?_ ?_⟩
    · exact .symm 1 0 (.rel 1 0 rfl)
    · exact .symm 3 1 (.rel 3 1 rfl)
  exact ⟨_, hrun, (htokens 0 (by decide)).2 hwas, (hwaiters 0 0 rfl).2 hwas,
    (hwaiters 1 0 rfl).2 hwas, rfl, rfl⟩

end TokenSet

end FiatRamp
