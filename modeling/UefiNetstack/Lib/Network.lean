import Mathlib.Logic.Function.Basic
import UefiNetstack.Lib.Passes

namespace Network
open Relation

/-- What a node does on its own, how it takes a message, and what it has sent so far. -/
structure Node (State Message : Type*) where
  step : State → State → Prop
  take : Message → State → State → Prop
  sent : State → Message → Prop

variable {Site State Message : Type*} [DecidableEq Site]

/-- One node steps, or the network hands it a message. -/
inductive Step (node : Node State Message) (outside : Message → Prop) (net : Site → State) : (Site → State) → Prop
  | step (site : Site) {state : State} (steps : node.step (net site) state) :
      Step node outside net (Function.update net site state)
  | deliver (site : Site) {message : Message} {state : State}
      (origin : outside message ∨ ∃ other, node.sent (net other) message)
      (takes : node.take message (net site) state) : Step node outside net (Function.update net site state)

def Run (node : Node State Message) (outside : Message → Prop) : (Site → State) → (Site → State) → Prop :=
  ReflTransGen (Step node outside)

variable {node : Node State Message} {outside : Message → Prop} {net net' net'' : Site → State}

/-- An invariant of the nodes and a property of the messages that support each other. -/
structure Sound (node : Node State Message) (outside : Message → Prop) (holds : State → Prop)
    (good : Message → Prop) : Prop where
  outside : ∀ {message}, outside message → good message
  sent : ∀ {state message}, holds state → node.sent state message → good message
  step : ∀ {state state'}, holds state → node.step state state' → holds state'
  take : ∀ {message state state'}, holds state → good message → node.take message state state' → holds state'

variable {holds : State → Prop} {good : Message → Prop}

theorem Sound.update (start : ∀ site, holds (net site)) {site : Site} {state : State} (kept : holds state) :
    ∀ other, holds (Function.update net site state other) := by
  intro other
  by_cases same : other = site
  · subst same
    rwa [Function.update_self]
  · rw [Function.update_of_ne same]
    exact start other

theorem Sound.keeps (sound : Sound node outside holds good) (start : ∀ site, holds (net site))
    (step : Step node outside net net') : ∀ site, holds (net' site) := by
  cases step with
  | step site steps => exact update start (sound.step (start site) steps)
  | deliver site origin takes =>
      refine update start (sound.take (start site) ?_ takes)
      rcases origin with foreign | ⟨other, sent⟩
      · exact sound.outside foreign
      · exact sound.sent (start other) sent

/-- Nodes that start in the invariant stay in it, whatever the network does. -/
theorem Sound.run (sound : Sound node outside holds good) (start : ∀ site, holds (net site))
    (run : Run node outside net net') : ∀ site, holds (net' site) := by
  induction run with
  | refl => exact start
  | tail _ step ih => exact sound.keeps ih step

/-- A node that steps to certain states only. -/
def Node.within (node : Node State Message) (allowed : State → Prop) : Node State Message :=
  { node with
    step := fun state state' => node.step state state' ∧ allowed state'
    take := fun message state state' => node.take message state state' ∧ allowed state' }

/-- A state that some node has at one of the moments. -/
def Visited (moments : List (Site → State)) (state : State) : Prop := ∃ moment ∈ moments, ∃ site, moment site = state

theorem Step.within {allowed : State → Prop} (step : Step node outside net net') (lands : ∀ site, allowed (net' site)) :
    Step (node.within allowed) outside net net' := by
  cases step with
  | @step site state steps =>
      have here := lands site
      rw [Function.update_self] at here
      exact .step site ⟨steps, here⟩
  | @deliver site message state origin takes =>
      have here := lands site
      rw [Function.update_self] at here
      exact .deliver site origin ⟨takes, here⟩

/-- The nodes of a run step only to states that the run visits. -/
theorem Run.visits {moments : List (Site → State)} {allowed : State → Prop}
    (passes : Passes (Step node outside) net moments net') (allows : ∀ state, Visited moments state → allowed state) :
    Run (node.within allowed) outside net net' :=
  ReflTransGen.mono (fun _ after step => step.1.within fun site => allows _ ⟨after, step.2, site, rfl⟩) net net'
    passes.within

theorem Run.unbounded (run : Run node outside net net') : Run (node.within fun _ => True) outside net net' :=
  ReflTransGen.mono (fun _ _ step => step.within fun _ => trivial) net net' run

end Network
