import FiatRamp.Proofs.Attempts
import FiatRamp.Proofs.Step

/-!
# FiatRamp.Proofs.Timeline

When a poll session ends, and with what.

A session has an ending of its own, and a deadline and a token that may come
before it.  Which of the three comes first settles its result, its time and the
number of its attempts (`Poll.Plan.FollowsTimeline`).  That number is the one in
its error, the one that is counted, and that of the calls it made
(`Poll.Plan.Tallies`).
-/

namespace FiatRamp

/-- The number of attempts that an error tells. -/
def PollError.attempts? : PollError ε → Option Nat
  | .timedOut attempts => some attempts
  | .cancelled attempts => some attempts
  | .producer attempt _ => some attempt
  | .aborted _ => none

namespace Poll

/-- A session that tells its attempts is counted. -/
theorem End.isSome_outcome? {e : End σ ε β}
    (h : ∀ error, e.result = .error error → error.attempts? = some e.attempts) :
    e.outcome?.isSome = true := by
  unfold End.outcome?
  cases hresult : e.result with
  | ok b => rfl
  | error error =>
      have htold := h error hresult
      cases error with
      | aborted reason => cases htold
      | timedOut | cancelled | producer => rfl

theorem count_eq_succ {p : Nat → Prop} [DecidablePred p] {i n : Nat} (hi : i < n)
    (hbefore : ∀ j ≤ i, p j) (hafter : ∀ j, i < j → ¬ p j) : Nat.count p n = i + 1 := by
  obtain ⟨k, rfl⟩ := Nat.exists_eq_add_of_le (Nat.succ_le_of_lt hi)
  have hall : Nat.count p (i + 1) = i + 1 :=
    Nat.count_iff_forall.mpr fun j hj => hbefore j (Nat.le_of_lt_succ hj)
  have hnone : Nat.count (fun j => p (i + 1 + j)) k = 0 :=
    Nat.count_iff_forall_not.mpr fun j _ => hafter _ (by omega)
  rw [Nat.count_add, hall, hnone, Nat.add_zero]

namespace Plan

section

variable {ε α β : Type}

/-- The number of attempts of a session is the same wherever it is told, and no more than
the bound. -/
structure Tallies (plan : Plan σ ε α β) (e : End σ ε β) : Prop where
  /-- So many calls are made. -/
  made : ∀ i, (∃ now s, plan.Makes i now s) ↔ i < e.attempts
  /-- The state has seen so many calls. -/
  seen : ∀ calls : σ → Nat,
    (∀ s, calls (plan.ask s).started = calls s + 1 ∧ calls (plan.ask s).ended.2 = calls s + 1) →
      calls e.state = calls plan.first + e.attempts
  told : ∀ error, e.result = .error error → error.attempts? = some e.attempts
  counted : e.outcome?.isSome = true
  le_bound : e.attempts ≤ plan.bound

/-- A session keeps to the timeline of its plan. -/
structure FollowsTimeline (plan : Plan σ ε α β) : Prop where
  /-- It comes to its own ending unless something comes before that. -/
  settled : plan.ending ≤ plan.deadline → plan.ending < plan.cancelled →
    ∃ e, plan.session = some e ∧ e.time = plan.ending ∧ e.attempts = plan.last + 1 ∧
      e.result = plan.answer plan.last
  /-- It is cancelled if the token comes first. -/
  cancelled : plan.cancelled ≠ ⊤ → plan.cancelled ≤ plan.ending →
    plan.cancelled ≤ plan.deadline →
    ∃ e, plan.session = some e ∧ e.time = plan.cancelled ∧
      e.result = .error (.cancelled (Nat.count (plan.starts · < plan.cancelled) plan.bound))
  /-- It times out if the deadline comes first. -/
  timedOut : plan.deadline < plan.ending → plan.deadline < plan.cancelled →
    ∃ e, plan.session = some e ∧ e.time = plan.deadline ∧
      e.result = .error (.timedOut (Nat.count (plan.starts · ≤ plan.deadline) plan.bound))
  /-- It never ends if none of the three ever comes. -/
  never : plan.ending = ⊤ → plan.deadline = ⊤ → plan.cancelled = ⊤ → plan.session = none
  tallies : ∀ e, plan.session = some e → plan.Tallies e
  /-- It makes its calls when they are due, before the token is cancelled and one after
  the other. -/
  calls : ∀ i now s, plan.Makes i now s → plan.starts i = now ∧ s = plan.stateAt i ∧
    now < plan.cancelled ∧ ∀ j < i, plan.finishes j ≤ now
  /-- The numbers of its attempts are within the bound, and fit into 32 bits if that does. -/
  numbers : ∀ i now s, plan.Makes i now s →
    i + 1 ≤ plan.bound ∧ (plan.settings.maxAttempts < 2 ^ 32 → i + 1 < 2 ^ 32)

variable {plan : Plan σ ε α β} {i : Nat} {now : Duration} {s : σ}

theorem Makes.of_le {j : Nat} (h : plan.Makes i now s) (hj : j ≤ i) :
    ∃ now s, plan.Makes j now s := by
  induction h with
  | first hcancel =>
      obtain rfl := Nat.le_zero.mp hj
      exact ⟨_, _, .first hcancel⟩
  | next hmakes hattempt hleft hwait hcancel ih =>
      rcases Nat.le_succ_iff.mp hj with hle | rfl
      · exact ih hle
      · exact ⟨_, _, .next hmakes hattempt hleft hwait hcancel⟩

/-- A session that stops after a call makes no later one. -/
theorem Stops.not_makes {session : Option (End σ ε β)} {j : Nat} (h : plan.Stops i session)
    (hj : i < j) : ¬ plan.Makes j now s := by
  intro hmakes
  obtain ⟨hstart, -, hdeadline, hcancelled, hlast⟩ := hmakes.onTime
  have hnext := plan.starts_mono (Nat.succ_le_of_lt hj)
  rw [hstart] at hnext
  cases h with
  | settled heq => omega
  | cancelled _ _ hbefore => exact not_le.mpr hcancelled (hbefore.trans hnext)
  | timedOut _ _ hbefore => exact not_le.mpr hbefore (hnext.trans hdeadline)
  | never hfinish =>
      have htop := (plan.finishes_le_starts_succ i).trans hnext
      rw [hfinish] at htop
      exact ENat.natCast_ne_top now (top_le_iff.mp htop)

theorem Stops.attempts_eq {e : End σ ε β} (h : plan.Stops i (some e)) : e.attempts = i + 1 := by
  cases h <;> rfl

theorem Stops.state_eq {e : End σ ε β} (h : plan.Stops i (some e)) :
    e.state = (plan.call i).started ∨ e.state = plan.stateAt (i + 1) := by
  cases h with
  | settled => exact .inr rfl
  | cancelled | timedOut =>
      dsimp only
      split
      · exact .inr rfl
      · exact .inl rfl

/-- The error of the last call tells how many there were. -/
theorem attempts?_answer_last {error : PollError ε} (h : plan.answer plan.last = .error error) :
    error.attempts? = some (plan.last + 1) := by
  cases hsettles : plan.settles plan.last with
  | true =>
      unfold settles at hsettles
      unfold answer at h
      cases hended : (plan.call plan.last).ended.1 with
      | error cause =>
          simp only [hended, Except.error.injEq] at h
          rw [← h]
          rfl
      | ok a =>
          simp only [hended, Option.isSome_iff_exists] at hsettles
          obtain ⟨b, hready⟩ := hsettles
          simp [hended, hready] at h
  | false =>
      -- nothing was ready, so there was no attempt left
      have hbound : plan.bound = plan.last + 1 := by
        have hle := plan.last_lt_bound
        have hno := mt (plan.lt_last le_rfl hsettles) (lt_irrefl _)
        omega
      rw [plan.answer_of_not_settles hsettles, Except.error.injEq] at h
      rw [← h, ← hbound]
      rfl

theorem Stops.told {e : End σ ε β} {error : PollError ε} (h : plan.Stops i (some e))
    (herror : e.result = .error error) : error.attempts? = some e.attempts := by
  cases h with
  | settled heq =>
      subst heq
      exact attempts?_answer_last herror
  | cancelled | timedOut =>
      obtain rfl := Except.error.inj herror
      rfl

theorem seen_stateAt {calls : σ → Nat} (h : ∀ s, calls (plan.ask s).ended.2 = calls s + 1)
    (i : Nat) : calls (plan.stateAt i) = calls plan.first + i := by
  induction i with
  | zero => rfl
  | succ i ih => rw [stateAt, h, ih, Nat.add_assoc]

/-- The number of the call after which a session stops is told everywhere. -/
theorem Stops.tallies {e : End σ ε β} (hmakes : plan.Makes i now s) (h : plan.Stops i (some e)) :
    plan.Tallies e := by
  refine ⟨fun j => ?_, fun calls hcalls => ?_, fun error => h.told, ?_, ?_⟩
  · rw [h.attempts_eq, Nat.lt_succ_iff]
    refine ⟨fun ⟨_, _, hlater⟩ => ?_, hmakes.of_le⟩
    exact Nat.le_of_not_lt fun hj => h.not_makes hj hlater
  · have hbefore := seen_stateAt (fun s => (hcalls s).2) i
    rw [h.attempts_eq]
    rcases h.state_eq with hstate | hstate
    · rw [hstate, call, (hcalls _).1, hbefore, Nat.add_assoc]
    · rw [hstate, stateAt, (hcalls _).2, hbefore, Nat.add_assoc]
  · exact End.isSome_outcome? fun error => h.told
  · have hlast := hmakes.onTime.le_last
    have hbound := plan.last_lt_bound
    rw [h.attempts_eq]
    omega

/-- A session whose token was cancelled beforehand makes no call. -/
theorem session_of_cancelled_zero (h : plan.cancelled = 0) :
    plan.session = some ⟨.error (.cancelled 0), 0, 0, plan.first⟩ := by
  have hcancel : plan.cancel.any (· ≤ 0) = true := by
    rw [any_le_iff]
    exact h.le
  rw [session, run, runFrom, if_pos hcancel]

/-- Every session is cancelled beforehand or stops after a call. -/
theorem cancelled_eq_zero_or_stops (plan : Plan σ ε α β) :
    plan.cancelled = 0 ∨ ∃ i now s, plan.Makes i now s ∧ plan.Stops i plan.session := by
  cases hcancel : plan.cancel.any (· ≤ 0) with
  | true => exact .inl (nonpos_iff_eq_zero.mp (any_le_iff.mp hcancel))
  | false => exact .inr (exists_stops hcancel)

/-- A session whose token was cancelled beforehand tells of no attempt. -/
theorem tallies_of_cancelled (h : plan.cancelled = 0) :
    plan.Tallies (β := β) ⟨.error (.cancelled 0), 0, 0, plan.first⟩ := by
  refine ⟨fun i => iff_of_false ?_ (Nat.not_lt_zero i), fun _ _ => rfl, ?_, rfl, Nat.zero_le _⟩
  · rintro ⟨now, s, hmakes⟩
    have hnow := hmakes.onTime.cancelled
    rw [h] at hnow
    exact not_lt_zero hnow
  · rintro error herror
    obtain rfl := Except.error.inj herror
    rfl

theorem tallies_session {e : End σ ε β} (h : plan.session = some e) : plan.Tallies e := by
  rcases plan.cancelled_eq_zero_or_stops with hzero | ⟨i, now, s, hmakes, hstops⟩
  · rw [session_of_cancelled_zero hzero, Option.some.injEq] at h
    rw [← h]
    exact tallies_of_cancelled hzero
  · rw [h] at hstops
    exact hstops.tallies hmakes

/-! ### Which ending comes first -/

/-- The calls made are those that are due before the token is cancelled, if it is
cancelled before the next one. -/
theorem Makes.count_starts_lt (h : plan.Makes i now s)
    (hnext : plan.cancelled ≤ plan.starts (i + 1)) :
    Nat.count (plan.starts · < plan.cancelled) plan.bound = i + 1 := by
  obtain ⟨hstart, -, -, hcancelled, hlast⟩ := h.onTime
  refine count_eq_succ (hlast.trans_lt plan.last_lt_bound) (fun j hj => ?_) fun j hj => ?_
  · exact (plan.starts_mono hj).trans_lt (hstart ▸ hcancelled)
  · exact not_lt.mpr (hnext.trans (plan.starts_mono hj))

/-- The calls made are those that are due by the deadline, if it comes before the next one. -/
theorem Makes.count_starts_le (h : plan.Makes i now s)
    (hnext : plan.deadline < plan.starts (i + 1)) :
    Nat.count (plan.starts · ≤ plan.deadline) plan.bound = i + 1 := by
  obtain ⟨hstart, -, hdeadline, -, hlast⟩ := h.onTime
  refine count_eq_succ (hlast.trans_lt plan.last_lt_bound) (fun j hj => ?_) fun j hj => ?_
  · exact (plan.starts_mono hj).trans (hstart ▸ hdeadline)
  · exact not_le.mpr (hnext.trans_le (plan.starts_mono hj))

theorem session_of_settled (hdeadline : plan.ending ≤ plan.deadline)
    (hcancelled : plan.ending < plan.cancelled) :
    ∃ e, plan.session = some e ∧ e.time = plan.ending ∧ e.attempts = plan.last + 1 ∧
      e.result = plan.answer plan.last := by
  rcases plan.cancelled_eq_zero_or_stops with hzero | ⟨i, now, s, hmakes, hstops⟩
  · rw [hzero] at hcancelled
    exact (not_lt_zero hcancelled).elim
  · generalize plan.session = session at hstops ⊢
    cases hstops with
    | settled heq htime =>
        subst heq
        exact ⟨_, rfl, htime.symm, rfl, rfl⟩
    | cancelled _ hbefore => exact (not_le.mpr hcancelled hbefore).elim
    | timedOut _ hbefore => exact (not_le.mpr hbefore hdeadline).elim
    | never hfinish _ hnone =>
        have htop := plan.finishes_le_ending hmakes.onTime.le_last
        rw [hfinish, top_le_iff] at htop
        rw [htop] at hcancelled
        exact (not_top_lt hcancelled).elim

theorem session_of_cancelled (hcomes : plan.cancelled ≠ ⊤) (hending : plan.cancelled ≤ plan.ending)
    (hdeadline : plan.cancelled ≤ plan.deadline) :
    ∃ e, plan.session = some e ∧ e.time = plan.cancelled ∧
      e.result = .error (.cancelled (Nat.count (plan.starts · < plan.cancelled) plan.bound)) := by
  rcases plan.cancelled_eq_zero_or_stops with hzero | ⟨i, now, s, hmakes, hstops⟩
  · have hnone : Nat.count (plan.starts · < plan.cancelled) plan.bound = 0 :=
      Nat.count_iff_forall_not.mpr fun _ _ => hzero ▸ not_lt_zero
    rw [hnone]
    exact ⟨_, session_of_cancelled_zero hzero, hzero.symm, rfl⟩
  · generalize plan.session = session at hstops ⊢
    cases hstops with
    | settled _ _ _ hlate => exact (not_le.mpr hlate hending).elim
    | cancelled htime _ hnext =>
        rw [hmakes.count_starts_lt hnext]
        exact ⟨_, rfl, htime.symm, rfl⟩
    | timedOut _ _ _ hlate => exact (not_le.mpr hlate hdeadline).elim
    | never _ _ hnone => exact (hcomes hnone).elim

theorem session_of_timedOut (hending : plan.deadline < plan.ending)
    (hcancelled : plan.deadline < plan.cancelled) :
    ∃ e, plan.session = some e ∧ e.time = plan.deadline ∧
      e.result = .error (.timedOut (Nat.count (plan.starts · ≤ plan.deadline) plan.bound)) := by
  rcases plan.cancelled_eq_zero_or_stops with hzero | ⟨i, now, s, hmakes, hstops⟩
  · rw [hzero] at hcancelled
    exact (not_lt_zero hcancelled).elim
  · generalize plan.session = session at hstops ⊢
    cases hstops with
    | settled _ _ hlate => exact (not_le.mpr hending hlate).elim
    | cancelled _ _ _ hlate => exact (not_le.mpr hcancelled hlate).elim
    | timedOut htime _ hnext =>
        rw [hmakes.count_starts_le hnext]
        exact ⟨_, rfl, htime.symm, rfl⟩
    | never _ hnone =>
        rw [hnone] at hending
        exact (not_top_lt hending).elim

theorem session_of_never (hending : plan.ending = ⊤) (hdeadline : plan.deadline = ⊤)
    (hcancelled : plan.cancelled = ⊤) : plan.session = none := by
  rcases plan.cancelled_eq_zero_or_stops with hzero | ⟨i, now, s, hmakes, hstops⟩
  · rw [hcancelled] at hzero
    exact (ENat.top_ne_zero hzero).elim
  · generalize plan.session = session at hstops ⊢
    cases hstops with
    | settled _ _ _ hlate =>
        rw [hending] at hlate
        exact (not_top_lt hlate).elim
    | cancelled htime => exact (ENat.natCast_ne_top _ (htime.symm.trans hcancelled)).elim
    | timedOut htime => exact (ENat.natCast_ne_top _ (htime.symm.trans hdeadline)).elim
    | never => rfl

/-- **A session follows the timeline of its plan.** -/
theorem followsTimeline (plan : Plan σ ε α β) : plan.FollowsTimeline where
  settled := session_of_settled
  cancelled := session_of_cancelled
  timedOut := session_of_timedOut
  never := session_of_never
  tallies _ := tallies_session
  calls i now s h := by
    obtain ⟨hstart, hstate, -, hcancelled, -⟩ := h.onTime
    exact ⟨hstart, hstate, hcancelled, fun j hj => hstart ▸ plan.finishes_le_starts hj⟩
  numbers i now s h := by
    have hlast := h.onTime.le_last
    have hbound := plan.last_lt_bound
    refine ⟨by omega, fun hword => ?_⟩
    unfold bound at hbound
    omega

end

/-- What a session of tasks is made of. -/
def ofTasks {ε α β : Type} (settings : PollSettings) (draw : Nat → Nat)
    (task : σ → Task σ (Except ε α)) (extract : α → Option β) (cancel : Option Duration)
    (first : σ) : Plan σ ε α β where
  settings
  draw
  ask s := (task s).toWork
  extract
  cancel
  first

theorem session_ofTasks {ε α β : Type} (settings : PollSettings) (draw : Nat → Nat)
    (task : σ → Task σ (Except ε α)) (extract : α → Option β) (cancel : Option Duration)
    (first : σ) :
    (ofTasks settings draw task extract cancel first).session =
      some (runTasks settings draw task extract cancel first) :=
  (Option.some_get _).symm

end Plan

/-- **Every poll session keeps to its timeline**, and in a step of a transfer it is
counted by its outcome and with the number of its attempts. -/
theorem keeps_to_timeline :
    (∀ {σ ε α β : Type} (plan : Plan σ ε α β), plan.FollowsTimeline) ∧
      ∀ {σ α β : Type} (settings : PollSettings) (draw : Nat → Nat)
        (task : World σ → Task (World σ) (Except EngineError α)) (extract : α → Option β)
        (cancel : Option Duration) (w : World σ),
        ∃ e outcome,
          (Plan.ofTasks settings draw task extract (cancel.map (· - w.now)) w).session = some e ∧
          e.outcome? = some outcome ∧
          (EngineStep.poll settings draw task extract cancel).run.run w =
            (.ok e.result,
              ({ e.state with now := w.now + e.time } : World σ).record
                (.pollSession outcome e.attempts)) := by
  refine ⟨Plan.followsTimeline, fun settings draw task extract cancel w => ?_⟩
  have hsession := Plan.session_ofTasks settings draw task extract (cancel.map (· - w.now)) w
  obtain ⟨outcome, houtcome⟩ := Option.isSome_iff_exists.mp (Plan.tallies_session hsession).counted
  refine ⟨_, outcome, hsession, houtcome, ?_⟩
  rw [EngineStep.run_poll]
  simp only [houtcome]

/-- A deadline that comes as the third call is made cuts that call off. -/
example :
    let plan : Plan Nat Unit Unit Unit :=
      ⟨⟨5, .fixed 10, some 30⟩, id, fun n => ⟨n + 1, some 5, (.ok (), n + 1)⟩, fun _ => none,
        none, 0⟩
    plan.session = some ⟨.error (.timedOut 3), 3, 30, 3⟩ := rfl

end Poll

end FiatRamp
