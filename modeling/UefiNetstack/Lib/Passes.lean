import Mathlib.Data.List.Infix
import Mathlib.Logic.Relation

open Relation

/-- A run with the states that it passes, in order. -/
inductive Passes {State : Type*} (step : State → State → Prop) (start : State) : List State → State → Prop
  | refl : Passes step start [start] start
  | tail {moments : List State} {s s' : State} (before : Passes step start moments s) (next : step s s') :
      Passes step start (moments ++ [s']) s'

namespace Passes

variable {State : Type*} {step : State → State → Prop} {start s s' : State} {moments : List State}

/-- Every run passes some states. -/
theorem of_run (run : ReflTransGen step start s) : ∃ moments, Passes step start moments s := by
  induction run with
  | refl => exact ⟨[start], .refl⟩
  | tail _ next ih =>
      obtain ⟨moments, before⟩ := ih
      exact ⟨_, before.tail next⟩

/-- A run ends in the last state that it passes. -/
theorem ends (passes : Passes step start moments s) : [s] <:+ moments := by
  cases passes with
  | refl => exact List.suffix_rfl
  | tail before next => exact List.suffix_append _ _

theorem last_mem (passes : Passes step start moments s) : s ∈ moments :=
  passes.ends.subset List.mem_cons_self

theorem start_mem (passes : Passes step start moments s) : start ∈ moments := by
  induction passes with
  | refl => exact List.mem_cons_self
  | tail before next ih => exact List.mem_append_left _ ih

/-- A run steps only to the states that it passes. -/
theorem within (passes : Passes step start moments s) :
    ReflTransGen (fun state state' => step state state' ∧ state' ∈ moments) start s := by
  induction passes with
  | refl => exact .refl
  | tail before next ih =>
      refine ReflTransGen.tail (ReflTransGen.mono ?_ start _ ih) ⟨next, (before.tail next).last_mem⟩
      exact fun state state' allowed => ⟨allowed.1, List.mem_append_left _ allowed.2⟩

/-- What every step keeps holds of all states of a run. -/
theorem keeps {holds : State → Prop} (first : holds start)
    (kept : ∀ state state', holds state → step state state' → holds state') (passes : Passes step start moments s) :
    ∀ state ∈ moments, holds state := by
  induction passes with
  | refl => exact fun state member => List.mem_singleton.mp member ▸ first
  | tail before next ih =>
      intro state member
      rcases List.mem_append.mp member with earlier | last
      · exact ih state earlier
      · exact List.mem_singleton.mp last ▸ kept _ _ (ih _ before.last_mem) next

/-- Two states that follow each other are a step of the run. -/
theorem step_of_infix {state state' : State} (passes : Passes step start moments s)
    (pair : [state, state'] <:+: moments) : state ∈ moments ∧ step state state' := by
  induction passes with
  | refl => exact absurd pair.length_le (by simp)
  | @tail moments s s' before next ih =>
      rcases List.infix_concat_iff.mp pair with last | earlier
      · obtain ⟨front, rfl⟩ := before.ends
        obtain ⟨rest, same⟩ := last
        have parts : rest ++ [state, state'] = front ++ [s, s'] := by rw [same, List.append_assoc]; rfl
        obtain ⟨-, same⟩ := List.append_inj' parts rfl
        obtain ⟨rfl, rfl⟩ : state = s ∧ state' = s' := by simpa using same
        exact ⟨by simp, next⟩
      · exact ⟨List.mem_append_left _ (ih earlier).1, (ih earlier).2⟩

/-- The last step of a run. -/
theorem last_infix (passes : Passes step start moments s) : [s, s'] <:+: moments ++ [s'] := by
  obtain ⟨front, rfl⟩ := passes.ends
  exact ⟨front, [], by simp⟩

end Passes
