import FiatRamp.Poll
import Mathlib.Tactic
import Mathlib.Data.ENat.Basic
import Mathlib.Data.Nat.Count

/-!
# FiatRamp.Proofs.Attempts

A poll session as one call of its producer after another.

A `Poll.Plan` fixes what a session is made of, and from it alone follows when
each call starts and ends if nothing interrupts it (`Plan.starts`,
`Plan.finishes`).  `Plan.Makes` traces the calls that `Poll.run` really makes,
and `Plan.Makes.stops_or_makes` says once what can come of a call: the session stops
with it or in the wait after it, or the next call is made.
-/

namespace FiatRamp

namespace Poll

/-! ## Instants that may never come -/

/-- When something happens; what never happens does so at `⊤`. -/
def instant : Option Duration → ℕ∞
  | some time => time
  | none => ⊤

@[simp] theorem instant_some (time : Duration) : instant (some time) = time := rfl

@[simp] theorem instant_none : instant none = ⊤ := rfl

theorem instant_eq_coe_iff {time? : Option Duration} {time : Duration} :
    instant time? = time ↔ time? = some time := by
  cases time? <;> simp

theorem coe_le_instant_iff {time : Duration} {time? : Option Duration} :
    (time : ℕ∞) ≤ instant time? ↔ ∀ limit ∈ time?, time ≤ limit := by
  cases time? <;> simp

theorem instant_map_add (now : Duration) (time? : Option Duration) :
    instant (time?.map (now + ·)) = now + instant time? := by
  cases time? <;> simp

theorem all_le_iff {time : Duration} {time? : Option Duration} :
    time?.all (time ≤ ·) = true ↔ (time : ℕ∞) ≤ instant time? := by
  cases time? <;> simp

theorem any_le_iff {now : Duration} {time? : Option Duration} :
    time?.any (· ≤ now) = true ↔ instant time? ≤ now := by
  cases time? <;> simp

theorem filter_before_eq_some_iff {timeout until? : Option Duration} {time : Duration} :
    (timeout.filter fun t => until?.all (t < ·)) = some time ↔
      timeout = some time ∧ (time : ℕ∞) < instant until? := by
  cases timeout <;> cases until? <;> simp [Option.filter_eq_some_iff]

theorem filter_before_eq_none_iff {timeout until? : Option Duration} :
    (timeout.filter fun t => until?.all (t < ·)) = none ↔ instant until? ≤ instant timeout := by
  cases timeout <;> cases until? <;> simp [Option.filter_eq_none_iff]

/-- What interrupts a span of time that would last until `finish`, if anything does. -/
inductive Cut (finish deadline cancelled : ℕ∞) : Option Interruption → Prop
  | none (hdeadline : finish ≤ deadline) (hcancelled : finish < cancelled ∨ cancelled = ⊤) :
      Cut finish deadline cancelled none
  | cancel {time : Duration} (heq : cancelled = time) (hfinish : cancelled ≤ finish)
      (hdeadline : cancelled ≤ deadline) : Cut finish deadline cancelled (some (.cancel time))
  | timeout {time : Duration} (heq : deadline = time) (hfinish : deadline < finish)
      (hcancelled : deadline < cancelled) : Cut finish deadline cancelled (some (.timeout time))

/-- An instant that comes precedes one that never does. -/
theorem coe_lt_of_lt_or_eq_top {time : Duration} {other : ℕ∞} (h : time < other ∨ other = ⊤) :
    time < other := by
  rcases h with hlt | rfl
  · exact hlt
  · exact ENat.natCast_lt_top time

/-- Whichever comes first interrupts a span of time that no cancellation precedes. -/
theorem cut_interruption? {now : Duration} {cancel : Option Duration}
    (until? timeout : Option Duration) (hnow : now ≤ instant cancel) :
    Cut (instant until?) (instant timeout) (instant cancel)
      (interruption? now until? timeout cancel) := by
  unfold interruption?
  cases cancel with
  | none =>
      cases htimer : timeout.filter fun t => until?.all (t < ·) with
      | none => exact .none (filter_before_eq_none_iff.mp htimer) (.inr rfl)
      | some t =>
          obtain ⟨rfl, hfinish⟩ := filter_before_eq_some_iff.mp htimer
          exact .timeout rfl hfinish (ENat.natCast_lt_top t)
  | some c =>
      rw [instant_some, Nat.cast_le] at hnow
      simp only [Bool.and_eq_true, all_le_iff, max_eq_left hnow]
      cases htimer : timeout.filter fun t => until?.all (t < ·) with
      | none =>
          have hdeadline := filter_before_eq_none_iff.mp htimer
          split
          · next hc => exact .cancel rfl hc.1 (hc.1.trans hdeadline)
          · next hc => exact .none hdeadline (.inl (by simpa using hc))
      | some t =>
          obtain ⟨rfl, hfinish⟩ := filter_before_eq_some_iff.mp htimer
          split
          · next hc => exact .cancel rfl hc.1 hc.2
          · next hc =>
              have hlt : (t : ℕ∞) < c := not_le.mp fun hle => hc ⟨hle.trans hfinish.le, hle⟩
              exact .timeout rfl hfinish hlt

/-! ## Plans -/

/-- A call that neither breaks down nor touches the token of its session. -/
def Call.ofWork (work : Work σ (Except ε α)) : Call σ ε α where
  work :=
    { started := work.started
      takes := work.takes
      ended :=
        (match work.ended.1 with
          | .ok a => .value a
          | .error e => .failed e,
          work.ended.2) }
  selfCancel := .never

/-- What a session is made of. -/
structure Plan (σ ε α β : Type) where
  settings : PollSettings
  /-- The random number for the wait after each attempt. -/
  draw : Nat → Nat
  /-- What a call of the producer does. -/
  ask : σ → Work σ (Except ε α)
  extract : α → Option β
  /-- When the token is cancelled. -/
  cancel : Option Duration
  /-- The state at the start. -/
  first : σ

namespace Plan

section

variable {ε α β : Type} (plan : Plan σ ε α β)

/-- The producer of the session. -/
def produce (s : σ) : Call σ ε α := Call.ofWork (plan.ask s)

/-- The session. -/
def session : Option (End σ ε β) :=
  run plan.settings plan.draw plan.produce plan.extract plan.cancel plan.first

/-- The rest of the session from call `i` on, which is made at `now` in the state `s`. -/
def rest (i : Nat) (now : Duration) (s : σ) : Option (End σ ε β) :=
  runFrom plan.settings plan.draw plan.produce plan.extract (plan.settings.maxAttempts - 1 - i) i
    now plan.cancel s

/-- What comes of the attempt that makes call `i` at `now` in the state `s`. -/
def attempt (i : Nat) (now : Duration) (s : σ) : Attempt σ ε β :=
  attemptAt plan.settings.timeout plan.produce plan.extract (i + 1) now plan.cancel s

/-- How many calls there are at most. -/
def bound : Nat := max 1 plan.settings.maxAttempts

/-- The wait after call `i`, the first of which is 0. -/
def wait (i : Nat) : Duration := plan.settings.delay.after (i + 1) (plan.draw (i + 1))

/-- The state in which call `i` is made. -/
def stateAt : Nat → σ
  | 0 => plan.first
  | i + 1 => (plan.ask (stateAt i)).ended.2

/-- What call `i` does. -/
def call (i : Nat) : Work σ (Except ε α) := plan.ask (plan.stateAt i)

/-- When call `i` starts if nothing comes in between. -/
def starts : Nat → ℕ∞
  | 0 => 0
  | i + 1 => starts i + instant (plan.call i).takes + plan.wait i

/-- When call `i` ends if nothing comes in between. -/
def finishes (i : Nat) : ℕ∞ := plan.starts i + instant (plan.call i).takes

/-- Call `i` gives a ready value or fails. -/
def settles (i : Nat) : Bool :=
  match (plan.call i).ended.1 with
  | .ok a => (plan.extract a).isSome
  | .error _ => true

theorem exists_last : ∃ i, plan.settles i = true ∨ plan.bound ≤ i + 1 :=
  ⟨plan.bound, .inr (Nat.le_succ _)⟩

/-- The call with which the session is over if nothing comes in between. -/
def last : Nat := Nat.find plan.exists_last

/-- When the session is over if nothing comes in between. -/
def ending : ℕ∞ := plan.finishes plan.last

/-- When the time for the session is up. -/
def deadline : ℕ∞ := instant plan.settings.timeout

/-- When the token is cancelled. -/
def cancelled : ℕ∞ := instant plan.cancel

/-- What the session comes to with call `i` if that is the last one. -/
def answer (i : Nat) : Except (PollError ε) β :=
  match (plan.call i).ended.1 with
  | .error e => .error (.producer (i + 1) e)
  | .ok a =>
    match plan.extract a with
    | some b => .ok b
    | none => .error (.timedOut plan.bound)

/-! ### The timeline -/

theorem bound_pos : 0 < plan.bound := Nat.lt_of_lt_of_le Nat.one_pos (Nat.le_max_left ..)

theorem last_lt_bound : plan.last < plan.bound := by
  refine Nat.lt_of_not_le fun h => ?_
  -- the call before would be the last one already
  have hbefore : plan.last - 1 < plan.last := by have := plan.bound_pos; omega
  refine Nat.find_min plan.exists_last hbefore (.inr ?_)
  have := plan.bound_pos
  omega

theorem not_settles_of_lt_last {i : Nat} (h : i < plan.last) :
    plan.settles i = false ∧ i + 1 < plan.bound := by
  simpa using Nat.find_min plan.exists_last h

theorem lt_last {i : Nat} (hi : i ≤ plan.last) (hsettles : plan.settles i = false)
    (hleft : i + 1 < plan.bound) : i < plan.last := by
  refine hi.lt_of_ne fun heq => ?_
  rcases Nat.find_spec plan.exists_last with h | h
  · rw [← last, ← heq, hsettles] at h
    exact Bool.false_ne_true h
  · rw [← last, ← heq] at h
    omega

theorem eq_last {i : Nat} (hi : i ≤ plan.last) (h : plan.settles i = true ∨ plan.bound ≤ i + 1) :
    i = plan.last := Nat.le_antisymm hi (Nat.find_min' _ h)

theorem answer_of_not_settles {i : Nat} (h : plan.settles i = false) :
    plan.answer i = .error (.timedOut plan.bound) := by
  unfold settles at h
  unfold answer
  cases hended : (plan.call i).ended.1 with
  | error e => simp [hended] at h
  | ok a =>
      simp only [hended, Option.isSome_eq_false_iff, Option.isNone_iff_eq_none] at h
      simp only [h]

theorem starts_succ (i : Nat) : plan.starts (i + 1) = plan.finishes i + plan.wait i := rfl

theorem starts_le_finishes (i : Nat) : plan.starts i ≤ plan.finishes i := le_self_add

theorem finishes_le_starts_succ (i : Nat) : plan.finishes i ≤ plan.starts (i + 1) := le_self_add

theorem starts_mono : Monotone plan.starts :=
  monotone_nat_of_le_succ fun i =>
    (plan.starts_le_finishes i).trans (plan.finishes_le_starts_succ i)

theorem finishes_le_starts {i j : Nat} (h : i < j) : plan.finishes i ≤ plan.starts j :=
  (plan.finishes_le_starts_succ i).trans (plan.starts_mono h)

theorem finishes_le_ending {i : Nat} (h : i ≤ plan.last) : plan.finishes i ≤ plan.ending := by
  rcases h.eq_or_lt with rfl | hlt
  · exact le_rfl
  · exact (plan.finishes_le_starts hlt).trans (plan.starts_le_finishes _)

theorem starts_succ_le_ending {i : Nat} (h : i < plan.last) : plan.starts (i + 1) ≤ plan.ending :=
  (plan.starts_mono h).trans (plan.starts_le_finishes _)

/-! ### The calls that are made -/

/-- The session makes call `i` at `now` in the state `s`: either as the first thing it
does, or when the wait after a call that settled nothing ends and nothing has come in
between. -/
inductive Makes : Nat → Duration → σ → Prop
  | first (hcancel : plan.cancel.any (· ≤ 0) = false) : Makes 0 0 plan.first
  | next {i : Nat} {now time : Duration} {cancel : Option Duration} {s t : σ}
      (hmakes : Makes i now s)
      (hattempt : plan.attempt i now s = .notReady time cancel t)
      (hleft : i + 1 < plan.bound)
      (hwait : interruption? time (some (time + plan.wait i)) plan.settings.timeout cancel = none)
      (hcancel : cancel.any (· ≤ time + plan.wait i) = false) :
      Makes (i + 1) (time + plan.wait i) t

/-- How a session that has made call `i` stops before it makes another one. -/
inductive Stops (i : Nat) : Option (End σ ε β) → Prop
  | settled {time : Duration} (hlast : i = plan.last) (htime : plan.ending = time)
      (hdeadline : plan.ending ≤ plan.deadline) (hcancelled : plan.ending < plan.cancelled) :
      Stops i (some ⟨plan.answer i, i + 1, time, plan.stateAt (i + 1)⟩)
  | cancelled {time : Duration} (htime : plan.cancelled = time)
      (hending : plan.cancelled ≤ plan.ending) (hnext : plan.cancelled ≤ plan.starts (i + 1))
      (hdeadline : plan.cancelled ≤ plan.deadline) :
      Stops i (some ⟨.error (.cancelled (i + 1)), i + 1, time,
        if plan.finishes i < plan.cancelled then plan.stateAt (i + 1) else (plan.call i).started⟩)
  | timedOut {time : Duration} (htime : plan.deadline = time)
      (hending : plan.deadline < plan.ending) (hnext : plan.deadline < plan.starts (i + 1))
      (hcancelled : plan.deadline < plan.cancelled) :
      Stops i (some ⟨.error (.timedOut (i + 1)), i + 1, time,
        if plan.finishes i ≤ plan.deadline then plan.stateAt (i + 1) else (plan.call i).started⟩)
  | never (hending : plan.finishes i = ⊤) (hdeadline : plan.deadline = ⊤)
      (hcancelled : plan.cancelled = ⊤) : Stops i none

/-- What becomes of call `i` while it lasts. -/
inductive Attempted (i : Nat) : Attempt σ ε β → Prop
  | cut {cut : Interruption}
      (hcut : Cut (plan.finishes i) plan.deadline plan.cancelled (some cut)) :
      Attempted i (.ended (cut.toEnd (i + 1) (plan.call i).started))
  | endless (hfinish : plan.finishes i = ⊤) (hdeadline : plan.deadline = ⊤)
      (hcancelled : plan.cancelled = ⊤) : Attempted i .endless
  | settled {time : Duration} (hsettles : plan.settles i = true) (hfinish : plan.finishes i = time)
      (hdeadline : plan.finishes i ≤ plan.deadline)
      (hcancelled : plan.finishes i < plan.cancelled) :
      Attempted i (.ended ⟨plan.answer i, i + 1, time, plan.stateAt (i + 1)⟩)
  | notReady {time : Duration} (hsettles : plan.settles i = false)
      (hfinish : plan.finishes i = time)
      (hdeadline : plan.finishes i ≤ plan.deadline)
      (hcancelled : plan.finishes i < plan.cancelled) :
      Attempted i (.notReady time plan.cancel (plan.stateAt (i + 1)))

/-- An attempt is interrupted, or lasts as long as its call and comes to what that gives. -/
theorem attempt_eq (i : Nat) (now : Duration) :
    plan.attempt i now (plan.stateAt i) =
      match interruption? now ((plan.call i).takes.map (now + ·)) plan.settings.timeout plan.cancel,
        (plan.call i).takes.map (now + ·) with
      | some cut, _ => .ended (cut.toEnd (i + 1) (plan.call i).started)
      | none, none => .endless
      | none, some time =>
        if plan.settles i then .ended ⟨plan.answer i, i + 1, time, plan.stateAt (i + 1)⟩
        else .notReady time plan.cancel (plan.stateAt (i + 1)) := by
  unfold attempt attemptAt
  simp only [produce, Call.ofWork, call, reduceCtorEq, false_and, if_true, if_false]
  generalize interruption? now ((plan.ask (plan.stateAt i)).takes.map (now + ·))
    plan.settings.timeout plan.cancel = cut?
  generalize (plan.ask (plan.stateAt i)).takes.map (now + ·) = finish?
  cases cut? with
  | some cut => rfl
  | none =>
      cases finish? with
      | none => rfl
      | some time =>
          unfold settles answer call
          simp only [stateAt]
          cases (plan.ask (plan.stateAt i)).ended.1 with
          | error e => rfl
          | ok a =>
              cases hready : plan.extract a with
              | some b => simp [hready]
              | none => simp [hready]

/-- An attempt that starts before the token is cancelled goes by the timeline. -/
theorem attempted {i : Nat} {now : Duration} (hstart : plan.starts i = now)
    (hnow : now < plan.cancelled) :
    plan.Attempted i (plan.attempt i now (plan.stateAt i)) := by
  have hfinish : instant ((plan.call i).takes.map (now + ·)) = plan.finishes i := by
    rw [instant_map_add, finishes, hstart]
  have hcut := cut_interruption? ((plan.call i).takes.map (now + ·)) plan.settings.timeout hnow.le
  rw [hfinish] at hcut
  rw [attempt_eq]
  generalize interruption? now ((plan.call i).takes.map (now + ·)) plan.settings.timeout
    plan.cancel = cut? at hcut
  cases cut? with
  | some cut => exact .cut hcut
  | none =>
      obtain ⟨hdeadline, hcancelled⟩ := hcut
      cases hend : (plan.call i).takes.map (now + ·) with
      | none =>
          rw [hend, instant_none] at hfinish
          rw [← hfinish] at hdeadline hcancelled
          exact .endless hfinish.symm (top_le_iff.mp hdeadline)
            (hcancelled.resolve_left (not_lt.mpr le_top))
      | some time =>
          rw [hend, instant_some] at hfinish
          have hlt : plan.finishes i < plan.cancelled := by
            rw [← hfinish] at hcancelled ⊢
            exact coe_lt_of_lt_or_eq_top hcancelled
          cases hsettles : plan.settles i with
          | true => exact .settled hsettles hfinish.symm hdeadline hlt
          | false => exact .notReady hsettles hfinish.symm hdeadline hlt

/-- A call that is made goes by the timeline, and nothing has come in between before it. -/
structure OnTime (i : Nat) (now : Duration) (s : σ) : Prop where
  start : plan.starts i = now
  state : s = plan.stateAt i
  deadline : now ≤ plan.deadline
  cancelled : now < plan.cancelled
  le_last : i ≤ plan.last

variable {plan}

theorem Makes.onTime {i : Nat} {now : Duration} {s : σ} (h : plan.Makes i now s) :
    plan.OnTime i now s := by
  induction h with
  | first hcancel =>
      refine ⟨rfl, rfl, zero_le, ?_, Nat.zero_le _⟩
      rw [← not_le, cancelled, ← any_le_iff, hcancel]
      exact Bool.false_ne_true
  | @next i now time cancel s t _ hattempt hleft hwait _ ih =>
      obtain ⟨hstart, rfl, -, hcancelled, hlast⟩ := ih
      have hattempted := plan.attempted hstart hcancelled
      rw [hattempt] at hattempted
      cases hattempted with
      | notReady hsettles hfinish _ hfinished =>
          rw [hfinish] at hfinished
          have hcut := cut_interruption? (some (time + plan.wait i)) plan.settings.timeout
            hfinished.le
          rw [hwait] at hcut
          obtain ⟨hdeadline, hcancelled⟩ := hcut
          refine ⟨?_, rfl, hdeadline, ?_, ?_⟩
          · rw [starts_succ, hfinish, Nat.cast_add]
          · exact coe_lt_of_lt_or_eq_top hcancelled
          · exact plan.lt_last hlast hsettles hleft

theorem any_cancel_of_lt {now : Duration} (h : now < plan.cancelled) :
    plan.cancel.any (· ≤ now) = false := by
  rw [← Bool.not_eq_true, any_le_iff]
  exact not_le.mpr h

/-- What follows a call goes by what its attempt comes to. -/
theorem rest_eq {now : Duration} (i : Nat) (s : σ) (hnow : now < plan.cancelled) :
    plan.rest i now s =
      match plan.attempt i now s with
      | .ended e => some e
      | .endless => none
      | .notReady time cancel t =>
        match plan.settings.maxAttempts - 1 - i with
        | 0 => some ⟨.error (.timedOut (i + 1)), i + 1, time, t⟩
        | left + 1 =>
          match interruption? time (some (time + plan.wait i)) plan.settings.timeout cancel with
          | some cut => some (cut.toEnd (i + 1) t)
          | none =>
            runFrom plan.settings plan.draw plan.produce plan.extract left (i + 1)
              (time + plan.wait i) cancel t := by
  unfold rest
  rw [runFrom, if_neg (by simp [any_cancel_of_lt hnow])]
  rfl

/-- A call that settled nothing is followed by a wait, unless it was the last one. -/
theorem rest_eq_of_notReady {i : Nat} {now time : Duration} {s t : σ} (hnow : now < plan.cancelled)
    (hattempt : plan.attempt i now s = .notReady time plan.cancel t) :
    plan.rest i now s =
      if i + 1 < plan.bound then
        match interruption? time (some (time + plan.wait i)) plan.settings.timeout plan.cancel with
        | some cut => some (cut.toEnd (i + 1) t)
        | none => plan.rest (i + 1) (time + plan.wait i) t
      else some ⟨.error (.timedOut (i + 1)), i + 1, time, t⟩ := by
  rw [rest_eq i s hnow, hattempt]
  unfold rest
  cases hleft : plan.settings.maxAttempts - 1 - i with
  | zero => rw [if_neg (by unfold bound; omega)]
  | succ left => rw [if_pos (by unfold bound; omega), ← Nat.sub_sub, hleft, Nat.add_sub_cancel]

/-- After a call that settled nothing, the session stops in the wait or makes the next one. -/
theorem Makes.stops_or_makes_of_notReady {i : Nat} {now time : Duration}
    (h : plan.Makes i now (plan.stateAt i))
    (hattempt : plan.attempt i now (plan.stateAt i) =
      .notReady time plan.cancel (plan.stateAt (i + 1)))
    (hsettles : plan.settles i = false) (hfinish : plan.finishes i = time)
    (hfinishes : plan.finishes i ≤ plan.deadline) (hfinished : time < plan.cancelled)
    (hmore : i + 1 < plan.bound) :
    plan.Stops i (plan.rest i now (plan.stateAt i)) ∨
      ∃ now' s', plan.Makes (i + 1) now' s' ∧
        plan.rest i now (plan.stateAt i) = plan.rest (i + 1) now' s' := by
  have hlt := plan.lt_last h.onTime.le_last hsettles hmore
  have hstart : instant (some (time + plan.wait i)) = plan.starts (i + 1) := by
    rw [instant_some, starts_succ, hfinish, Nat.cast_add]
  have hcut := cut_interruption? (some (time + plan.wait i)) plan.settings.timeout hfinished.le
  rw [hstart] at hcut
  rw [rest_eq_of_notReady h.onTime.cancelled hattempt, if_pos hmore]
  generalize hwait : interruption? time (some (time + plan.wait i)) plan.settings.timeout
    plan.cancel = cut? at hcut ⊢
  cases hcut with
  | cancel heq hnext hdeadline =>
      have hstops : plan.Stops i _ :=
        .cancelled heq (hnext.trans (plan.starts_succ_le_ending hlt)) hnext hdeadline
      rw [if_pos (hfinish ▸ hfinished)] at hstops
      exact .inl hstops
  | timeout heq hnext hcancelled =>
      have hstops : plan.Stops i _ :=
        .timedOut heq (hnext.trans_le (plan.starts_succ_le_ending hlt)) hnext hcancelled
      rw [if_pos hfinishes] at hstops
      exact .inl hstops
  | none hdeadline hcancelled =>
      rw [← hstart] at hcancelled
      have hnext := any_cancel_of_lt (coe_lt_of_lt_or_eq_top hcancelled)
      exact .inr ⟨_, _, .next h hattempt hmore hwait hnext, rfl⟩

/-- **The session stops with a call or after it, or makes the next one.** -/
theorem Makes.stops_or_makes {i : Nat} {now : Duration} {s : σ} (h : plan.Makes i now s) :
    plan.Stops i (plan.rest i now s) ∨
      ∃ now' s', plan.Makes (i + 1) now' s' ∧ plan.rest i now s = plan.rest (i + 1) now' s' := by
  obtain ⟨hstart, rfl, -, hnow, hlast⟩ := h.onTime
  have hattempted := plan.attempted hstart hnow
  generalize hattempt : plan.attempt i now (plan.stateAt i) = attempt at hattempted
  cases hattempted with
  | cut hcut =>
      rw [rest_eq i _ hnow, hattempt]
      cases hcut with
      | cancel heq hfinish hdeadline =>
          have hstops : plan.Stops i _ :=
            .cancelled heq (hfinish.trans (plan.finishes_le_ending hlast))
              (hfinish.trans (plan.finishes_le_starts_succ i)) hdeadline
          rw [if_neg (not_lt.mpr hfinish)] at hstops
          exact .inl hstops
      | timeout heq hfinish hcancelled =>
          have hstops : plan.Stops i _ :=
            .timedOut heq (hfinish.trans_le (plan.finishes_le_ending hlast))
              (hfinish.trans_le (plan.finishes_le_starts_succ i)) hcancelled
          rw [if_neg (not_le.mpr hfinish)] at hstops
          exact .inl hstops
  | endless hfinish hdeadline hcancelled =>
      rw [rest_eq i _ hnow, hattempt]
      exact .inl (.never hfinish hdeadline hcancelled)
  | settled hsettles hfinish hdeadline hfinished =>
      rw [rest_eq i _ hnow, hattempt]
      obtain rfl := plan.eq_last hlast (.inl hsettles)
      exact .inl (.settled rfl hfinish hdeadline hfinished)
  | notReady hsettles hfinish hdeadline hfinished =>
      by_cases hmore : i + 1 < plan.bound
      · exact h.stops_or_makes_of_notReady hattempt hsettles hfinish hdeadline
          (hfinish ▸ hfinished) hmore
      · rw [rest_eq_of_notReady hnow hattempt, if_neg hmore]
        have hbound : plan.bound = i + 1 := by have := plan.last_lt_bound; omega
        obtain rfl := plan.eq_last hlast (.inr hbound.le)
        have hstops : plan.Stops plan.last _ := .settled rfl hfinish hdeadline hfinished
        rw [plan.answer_of_not_settles hsettles, hbound] at hstops
        exact .inl hstops

/-- **A session whose token is not cancelled at its start stops with some call that it
makes, or after it.** -/
theorem exists_stops (hcancel : plan.cancel.any (· ≤ 0) = false) :
    ∃ i now s, plan.Makes i now s ∧ plan.Stops i plan.session := by
  have hfrom : ∀ left i now s, plan.last - i = left → plan.Makes i now s →
      ∃ j now' s', plan.Makes j now' s' ∧ plan.Stops j (plan.rest i now s) := by
    intro left
    induction left with
    | zero =>
        intro i now s hleft h
        rcases h.stops_or_makes with hstops | ⟨now', s', hnext, -⟩
        · exact ⟨i, now, s, h, hstops⟩
        · have := hnext.onTime.le_last
          omega
    | succ left ih =>
        intro i now s hleft h
        rcases h.stops_or_makes with hstops | ⟨now', s', hnext, hrest⟩
        · exact ⟨i, now, s, h, hstops⟩
        · rw [hrest]
          exact ih (i + 1) now' s' (by omega) hnext
  exact hfrom _ 0 0 plan.first rfl (.first hcancel)

end

end Plan

end Poll

end FiatRamp
