import Mathlib.Tactic.TypeStar

namespace Relational

variable {α β γ δ : Type*} {R : α → β → Prop} {S : γ → δ → Prop} {a : Option α} {b : Option β}

theorem rel_refl {R : α → α → Prop} (related : ∀ value, R value value) (a : Option α) : Option.Rel R a a := by
  cases a with
  | none => exact .none
  | some value => exact .some (related value)

theorem rel_mono {R' : α → β → Prop} (weaker : ∀ a b, R a b → R' a b) (agree : Option.Rel R a b) :
    Option.Rel R' a b := by
  cases agree with
  | none => exact .none
  | some related => exact .some (weaker _ _ related)

theorem rel_bind {f : α → Option γ} {g : β → Option δ} (first : Option.Rel R a b)
    (rest : ∀ a b, R a b → Option.Rel S (f a) (g b)) : Option.Rel S (a.bind f) (b.bind g) := by
  cases first with
  | none => exact .none
  | some related => exact rest _ _ related

theorem rel_map {f : α → γ} {g : β → δ} (first : Option.Rel R a b) (rest : ∀ a b, R a b → S (f a) (g b)) :
    Option.Rel S (a.map f) (b.map g) := by
  cases first with
  | none => exact .none
  | some related => exact .some (rest _ _ related)

/-- The same test on both sides. -/
theorem ite_related {p q : Prop} [Decidable p] [Decidable q] {x x' : α} {y y' : β} (same : p ↔ q)
    (yes : p → R x y) (no : ¬p → R x' y') : R (if p then x else x') (if q then y else y') := by
  by_cases holds : p
  · rw [if_pos holds, if_pos (same.mp holds)]
    exact yes holds
  · rw [if_neg holds, if_neg (mt same.mpr holds)]
    exact no holds

/-- What is returned on one side is returned on the other, related. -/
theorem rel_some {value : α} (agree : Option.Rel R a b) (returned : a = some value) :
    ∃ value', b = some value' ∧ R value value' := by
  subst returned
  cases agree with
  | some related => exact ⟨_, rfl, related⟩

/-- What agrees in the values themselves is the same. -/
theorem rel_eq {b : Option α} (agree : Option.Rel Eq a b) : a = b := by
  cases agree with
  | none => rfl
  | some same => rw [same]

end Relational
