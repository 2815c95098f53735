/-!
# FiatRamp.Cancellation

Tokens that stop work from outside.

A clone of a token belongs to its family, and cancelling any token cancels its
whole family, for ever and no other.  A family shares a channel that holds
whether it is cancelled, and whoever waits for that watches the channel; how
such channels work is left open (`Watch`).  The tokens in use and those who
wait are numbered in the order in which they came.
-/

namespace FiatRamp

/-! ## Channels -/

/-- Channels that hold a value for others to watch. -/
structure Watch where
  Channel : Type
  /-- What a watcher remembers of a channel. -/
  Receiver : Type
  /-- A new channel that holds a value. -/
  hold : Bool → Channel
  /-- The value a channel holds. -/
  value : Channel → Bool
  /-- Has a channel hold a value from now on, and notifies those who watch it. -/
  replace : Channel → Bool → Channel
  /-- What a watcher remembers that has seen what the channel holds now. -/
  seen : Channel → Receiver
  /-- The watcher was notified and has not looked since. -/
  hasChanged : Channel → Receiver → Bool

/-- What those who use such channels rely on. -/
structure Watch.Lawful (watch : Watch) : Prop where
  value_hold : ∀ value, watch.value (watch.hold value) = value
  value_replace : ∀ channel value, watch.value (watch.replace channel value) = value
  /-- Whoever has seen the value is notified of the next one, also of an equal one. -/
  hasChanged_replace : ∀ channel value,
    watch.hasChanged (watch.replace channel value) (watch.seen channel) = true
  /-- A notification is kept until the watcher looks. -/
  hasChanged_mono : ∀ channel value receiver, watch.hasChanged channel receiver = true →
    watch.hasChanged (watch.replace channel value) receiver = true

/-- Channels that count how often their value was replaced. -/
def Watch.counting : Watch where
  Channel := Bool × Nat
  Receiver := Nat
  hold value := (value, 0)
  value channel := channel.1
  replace channel value := (value, channel.2 + 1)
  seen channel := channel.2
  hasChanged channel seen := seen < channel.2

theorem Watch.lawful_counting : counting.Lawful where
  value_hold _ := rfl
  value_replace _ _ := rfl
  hasChanged_replace _ _ := by simp [counting]
  hasChanged_mono _ _ _ h := by
    simp only [counting, decide_eq_true_eq] at h ⊢
    exact Nat.lt_succ_of_lt h

variable {watch : Watch}

/-! ## Waiting -/

/-- Somebody who waits for a family to be cancelled.  It holds a token of the family, so the
channel is not closed meanwhile. -/
structure Waiter (watch : Watch) where
  family : Nat
  receiver : watch.Receiver
  /-- The wait is over. -/
  resolved : Bool

namespace Waiter

/-- Starts to watch the channel of a family, and looks at it at once. -/
def start (family : Nat) (channel : watch.Channel) : Waiter watch :=
  ⟨family, watch.seen channel, watch.value channel⟩

/-- A turn of a waiter.  It looks again if it was notified, and sleeps on otherwise. -/
def turn (waiter : Waiter watch) (channel : watch.Channel) : Waiter watch :=
  if waiter.resolved then waiter
  else if watch.hasChanged channel waiter.receiver then .start waiter.family channel
  else waiter

end Waiter

/-! ## Tokens -/

/-- The tokens in use and those who wait. -/
structure TokenSet (watch : Watch) where
  /-- The family of each token. -/
  families : List Nat
  /-- A family no token has belonged to yet, nor any above it. -/
  fresh : Nat
  /-- The channel of each family. -/
  channels : Nat → watch.Channel
  waiters : List (Waiter watch)

namespace TokenSet

/-- No token yet. -/
def empty : TokenSet watch := ⟨[], 0, fun _ => watch.hold false, []⟩

/-- How many tokens are in use. -/
def size (tokens : TokenSet watch) : Nat := tokens.families.length

/-- Adds a token of a family of its own. -/
def create (tokens : TokenSet watch) : TokenSet watch :=
  { tokens with families := tokens.families ++ [tokens.fresh], fresh := tokens.fresh + 1 }

/-- Adds a token of the family of token `i`. -/
def clone (tokens : TokenSet watch) (i : Nat) : TokenSet watch :=
  match tokens.families[i]? with
  | some family => { tokens with families := tokens.families ++ [family] }
  | none => tokens

/-- Cancels the family of token `i`. -/
def cancel (tokens : TokenSet watch) (i : Nat) : TokenSet watch :=
  match tokens.families[i]? with
  | some family => { tokens with
      channels := fun other =>
        if other = family then watch.replace (tokens.channels other) true
        else tokens.channels other }
  | none => tokens

/-- Takes token `i` out of use.  Its family stays as it is. -/
def drop (tokens : TokenSet watch) (i : Nat) : TokenSet watch :=
  { tokens with families := tokens.families.eraseIdx i }

/-- Token `i` was cancelled. -/
def isCancelled (tokens : TokenSet watch) (i : Nat) : Bool :=
  match tokens.families[i]? with
  | some family => watch.value (tokens.channels family)
  | none => false

/-- Somebody starts to wait for token `i` to be cancelled. -/
def wait (tokens : TokenSet watch) (i : Nat) : TokenSet watch :=
  match tokens.families[i]? with
  | some family =>
    { tokens with waiters := tokens.waiters ++ [.start family (tokens.channels family)] }
  | none => tokens

/-- Waiter `k` has its turn. -/
def turn (tokens : TokenSet watch) (k : Nat) : TokenSet watch :=
  { tokens with waiters := tokens.waiters.modify k fun waiter =>
      waiter.turn (tokens.channels waiter.family) }

/-- The wait of waiter `k` is over, at its next turn if it was not before. -/
def resolves (tokens : TokenSet watch) (k : Nat) : Bool :=
  match (tokens.turn k).waiters[k]? with
  | some waiter => waiter.resolved
  | none => false

end TokenSet

/-- The tokens of a program. -/
abbrev Tokens := TokenSet .counting

/-- One token. -/
def Tokens.single : Tokens := TokenSet.empty.create

end FiatRamp
