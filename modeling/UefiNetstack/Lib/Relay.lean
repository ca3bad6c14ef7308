import Mathlib.Logic.Function.Basic
import Mathlib.Logic.Relation

namespace Relay
open Relation

inductive Side where
  | near
  | far
deriving DecidableEq

def Side.other : Side → Side
  | .near => .far
  | .far => .near

@[simp] theorem Side.other_other (side : Side) : side.other.other = side := by cases side <;> rfl

@[simp] theorem Side.other_ne (side : Side) : side.other ≠ side := by cases side <;> simp [other]

theorem Side.eq_or_other (side other : Side) : other = side ∨ other = side.other := by
  cases side <;> cases other <;> simp [Side.other]

/-- An end reacts to a message by sending others, or changes on its own and sends nothing. -/
structure Ends (State Message : Type) where
  react : State → Message → State → List Message → Prop
  idle : State → State → Prop

/-- The ends, the messages on their way to each, and how many were sent. -/
structure Wire (State Message : Type) where
  state : Side → State
  flight : Side → List Message
  count : Nat := 0

variable {State Message : Type} {ends : Ends State Message}

namespace Wire

variable (wire : Wire State Message)

/-- One end moves on its own. -/
def moved (side : Side) (state : State) : Wire State Message :=
  { wire with state := Function.update wire.state side state }

/-- One end has taken a message and sent others. -/
def answered (side : Side) (left : List Message) (state : State) (out : List Message) : Wire State Message where
  state := Function.update wire.state side state
  flight := fun home => if home = side then left else wire.flight home ++ out
  count := wire.count + out.length

variable {wire} {side : Side} {left out : List Message} {state : State}

@[simp] theorem moved_self : (wire.moved side state).state side = state := Function.update_self ..
@[simp] theorem moved_other : (wire.moved side state).state side.other = wire.state side.other :=
  Function.update_of_ne side.other_ne ..
@[simp] theorem answered_self : (wire.answered side left state out).state side = state := Function.update_self ..
@[simp] theorem answered_other : (wire.answered side left state out).state side.other = wire.state side.other :=
  Function.update_of_ne side.other_ne ..
@[simp] theorem answered_flight_self : (wire.answered side left state out).flight side = left := if_pos rfl
@[simp] theorem answered_flight_other :
    (wire.answered side left state out).flight side.other = wire.flight side.other ++ out := if_neg side.other_ne

end Wire

/-- A message on its way reaches its end, or an end moves on its own. -/
inductive Step (ends : Ends State Message) (wire : Wire State Message) : Wire State Message → Prop
  | deliver (side : Side) {message : Message} {before after out : List Message} {state : State}
      (waits : wire.flight side = before ++ message :: after)
      (reacts : ends.react (wire.state side) message state out) :
      Step ends wire (wire.answered side (before ++ after) state out)
  | idle (side : Side) {state : State} (moves : ends.idle (wire.state side) state) :
      Step ends wire (wire.moved side state)

def Run (ends : Ends State Message) : Wire State Message → Wire State Message → Prop := ReflTransGen (Step ends)

variable {wire wire' : Wire State Message}

/-- A wire forgets no message that was sent. -/
theorem Run.count_le (run : Run ends wire wire') : wire.count ≤ wire'.count := by
  induction run with
  | refl => exact Nat.le_refl _
  | tail _ step ih =>
      cases step with
      | deliver => exact Nat.le_add_right_of_le ih
      | idle => exact ih

/-- A family of invariants pays for what a step sends. -/
def Budget (ends : Ends State Message) (within : Nat → Wire State Message → Prop) : Prop :=
  ∀ ⦃n wire wire'⦄, within n wire → Step ends wire wire' →
    ∃ m, within m wire' ∧ wire'.count + m ≤ wire.count + n

/-- A run sends at most what its budget allows. -/
theorem Budget.bounds {within : Nat → Wire State Message → Prop} {n : Nat} (budget : Budget ends within)
    (starts : within n wire) (run : Run ends wire wire') : wire'.count ≤ wire.count + n := by
  have kept : ∃ m, within m wire' ∧ wire'.count + m ≤ wire.count + n := by
    induction run with
    | refl => exact ⟨n, starts, Nat.le_refl _⟩
    | tail _ step ih =>
        obtain ⟨m, holds, paid⟩ := ih
        obtain ⟨rest, holds', paid'⟩ := budget holds step
        exact ⟨rest, holds', Nat.le_trans paid' paid⟩
  obtain ⟨m, -, paid⟩ := kept
  exact Nat.le_of_add_right_le paid

/-- From an invariant under which an end can always send once more, a run sends any number of messages. -/
theorem Run.endless {lives : Wire State Message → Prop}
    (again : ∀ wire, lives wire → ∃ wire', Step ends wire wire' ∧ lives wire' ∧ wire'.count = wire.count + 1)
    (starts : lives wire) (n : Nat) : ∃ wire', Run ends wire wire' ∧ lives wire' ∧ wire'.count = wire.count + n := by
  induction n with
  | zero => exact ⟨wire, .refl, starts, rfl⟩
  | succ n ih =>
      obtain ⟨middle, run, alive, count⟩ := ih
      obtain ⟨wire', step, alive', more⟩ := again middle alive
      exact ⟨wire', run.tail step, alive', by rw [more, count, Nat.add_assoc]⟩

end Relay
