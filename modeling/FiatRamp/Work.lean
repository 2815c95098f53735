import FiatRamp.Duration

/-!
# FiatRamp.Work

Work that takes time, and the deadline that bounds it.

A piece of work acts on a state twice: when it starts and when it ends.  If it
is cut off in between, only the start has happened.  At a tie between the work
and its deadline the work wins: what ends exactly at the deadline has ended in
time (`Work.within`).
-/

namespace FiatRamp

/-- Work on a state `σ` that gives an `α`, if it ends. -/
structure Work (σ α : Type) where
  /-- The state once the work has started. -/
  started : σ
  /-- How long the work takes; `none` is for ever. -/
  takes : Option Duration
  /-- What it gives, and the state once it has ended. -/
  ended : α × σ

/-- Work that is sure to end. -/
structure Task (σ α : Type) where
  /-- The state once the task has started. -/
  started : σ
  /-- How long the task takes. -/
  takes : Duration
  /-- What it gives, and the state once it has ended. -/
  ended : α × σ

/-- A task seen as work. -/
def Task.toWork (task : Task σ α) : Work σ α := ⟨task.started, some task.takes, task.ended⟩

/-- A task with another result. -/
def Task.map (f : α → β) (task : Task σ α) : Task σ β :=
  ⟨task.started, task.takes, (f task.ended.1, task.ended.2)⟩

namespace Work

/-- Work that is done as soon as it starts. -/
def done (value : α) (state : σ) : Work σ α := ⟨state, some 0, (value, state)⟩

/-- The work ends within `limit`. -/
def endsWithin (work : Work σ α) (limit : Duration) : Bool :=
  match work.takes with
  | some time => time ≤ limit
  | none => false

/-- Work that is cut off after `limit` and gives `none` then. -/
def within (work : Work σ α) (limit : Duration) : Task σ (Option α) :=
  match work.takes with
  | some time =>
    if time ≤ limit then ⟨work.started, time, (some work.ended.1, work.ended.2)⟩
    else ⟨work.started, limit, (none, work.started)⟩
  | none => ⟨work.started, limit, (none, work.started)⟩

/-! ## Laws -/

/-- Bounded work ends by its deadline. -/
theorem takes_within_le (work : Work σ α) (limit : Duration) :
    (work.within limit).takes ≤ limit := by
  unfold within
  split
  · split <;> simp_all
  · simp

theorem started_within (work : Work σ α) (limit : Duration) :
    (work.within limit).started = work.started := by
  unfold within
  split
  · split <;> rfl
  · rfl

end Work

end FiatRamp
