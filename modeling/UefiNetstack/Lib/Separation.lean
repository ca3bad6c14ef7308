import Mathlib.Data.List.Basic

namespace Separation

variable {State Input Component Context : Type*} {View : Component → Type*}

/-- A machine with separate components on the inputs of some kind. -/
structure Separate (view : ∀ component, State → View component) (context : State → Context)
    (group : Input → Component) (good : Input → Prop) (step : State → Input → Option State) : Prop where
  total : ∀ (s : State) {input : Input}, good input → ∃ s', step s input = some s'
  constant : ∀ {s s' : State} {input : Input}, good input → step s input = some s' → context s' = context s
  other : ∀ {s s' : State} {input : Input} (component : Component), good input → step s input = some s' →
    component ≠ group input → view component s' = view component s
  own : ∀ {s s' t t' : State} {input : Input}, good input → context s = context t →
    view (group input) s = view (group input) t → step s input = some s' → step t input = some t' →
    view (group input) s' = view (group input) t'

variable {view : ∀ component, State → View component} {context : State → Context} {group : Input → Component}
  {good : Input → Prop} {step : State → Input → Option State} {s s' t t' : State} {inputs xs ys : List Input}

/-- The inputs of a component, in order. -/
def project [DecidableEq Component] (group : Input → Component) (component : Component) (inputs : List Input) :
    List Input :=
  inputs.filter fun input => group input = component

theorem project_good [DecidableEq Component] {component : Component} (allGood : ∀ input ∈ inputs, good input) :
    ∀ input ∈ project group component inputs, good input :=
  fun input member => allGood input (List.mem_of_mem_filter member)

/-- Runs on good inputs return. -/
theorem Separate.run_total (separate : Separate view context group good step)
    (allGood : ∀ input ∈ inputs, good input) (s : State) : ∃ s', inputs.foldlM step s = some s' := by
  induction inputs generalizing s with
  | nil => exact ⟨s, rfl⟩
  | cons input inputs ih =>
      obtain ⟨middle, first⟩ := separate.total s (allGood input List.mem_cons_self)
      obtain ⟨s', rest⟩ := ih (fun other member => allGood other (List.mem_cons_of_mem _ member)) middle
      exact ⟨s', Option.bind_eq_some_iff.mpr ⟨middle, first, rest⟩⟩

/-- A run does to a component what its own inputs do from any state that looks the same to it. -/
theorem Separate.run_project [DecidableEq Component] (separate : Separate view context group good step)
    (component : Component) (allGood : ∀ input ∈ inputs, good input) (sameContext : context s = context t)
    (sameView : view component s = view component t) (full : inputs.foldlM step s = some s')
    (part : (project group component inputs).foldlM step t = some t') : view component s' = view component t' := by
  induction inputs generalizing s t with
  | nil =>
      obtain rfl := Option.some.inj full
      obtain rfl := Option.some.inj part
      exact sameView
  | cons input inputs ih =>
      have here := allGood input List.mem_cons_self
      have later (other : Input) (member : other ∈ inputs) : good other := allGood other (List.mem_cons_of_mem _ member)
      obtain ⟨middle, first, rest⟩ := Option.bind_eq_some_iff.mp full
      by_cases mine : group input = component
      · subst mine
        rw [project, List.filter_cons_of_pos (by simp)] at part
        obtain ⟨middle', first', rest'⟩ := Option.bind_eq_some_iff.mp part
        refine ih later ?_ (separate.own here sameContext sameView first first') rest rest'
        rw [separate.constant here first, separate.constant here first', sameContext]
      · rw [project, List.filter_cons_of_neg (by simpa using mine)] at part
        refine ih later ?_ ?_ rest part
        · rw [separate.constant here first, sameContext]
        · rw [separate.other component here first (Ne.symm mine), sameView]

/-- Two interleavings of the same inputs of a component leave it the same. -/
theorem Separate.interleave [DecidableEq Component] (separate : Separate view context group good step)
    (component : Component) (goodXs : ∀ input ∈ xs, good input) (goodYs : ∀ input ∈ ys, good input)
    (same : project group component xs = project group component ys) (first : xs.foldlM step s = some s')
    (second : ys.foldlM step s = some t') : view component s' = view component t' := by
  obtain ⟨alone, part⟩ := separate.run_total (project_good goodXs : ∀ input ∈ project group component xs, good input) s
  rw [separate.run_project component goodXs rfl rfl first part]
  rw [same] at part
  exact (separate.run_project component goodYs rfl rfl second part).symm

theorem Separate.run_context (separate : Separate view context group good step)
    (allGood : ∀ input ∈ inputs, good input) (run : inputs.foldlM step s = some s') : context s' = context s := by
  induction inputs generalizing s with
  | nil =>
      obtain rfl := Option.some.inj run
      rfl
  | cons input inputs ih =>
      obtain ⟨middle, first, rest⟩ := Option.bind_eq_some_iff.mp run
      rw [ih (fun other member => allGood other (List.mem_cons_of_mem _ member)) rest]
      exact separate.constant (allGood input List.mem_cons_self) first

end Separation
