import UefiNetstack.Session.Moves

namespace UefiNetstack
open Constants NetStack

/-- One thing that a caller does to the stack, or one poll of a call that waits. -/
inductive Act where
  | move (move : Move)
  | tcpOpen (ip : UINT32) (port : UINT16)
  | initNetwork (boot : Boot)
  | initNetworkStatic (boot : Boot) (ip gateway mask dns : UINT32)
  | flushArp

def Act.run : Act → NetStack → Option NetStack
  | .move own, s => own.run s
  | .tcpOpen ip port, s => some (s.tcpOpen ip port)
  | .initNetwork boot, s => (Api.initNetwork boot s).map (·.2)
  | .initNetworkStatic boot ip gateway mask dns, s => (Api.initNetworkStatic boot ip gateway mask dns s).map (·.2)
  | .flushArp, s => some { s with arpCache := s.arpCache.flush }

/-- The acts one after the other. -/
def Act.runAll (acts : List Act) (s : NetStack) : Option NetStack := acts.foldlM (fun s act => act.run s) s

variable {s s' : NetStack}

theorem Act.runAll_append_singleton {acts : List Act} {act : Act} (done : Act.runAll (acts ++ [act]) s = some s') :
    ∃ before, Act.runAll acts s = some before ∧ act.run before = some s' := by
  rw [runAll, List.foldlM_append] at done
  obtain ⟨before, first, second⟩ := Option.bind_eq_some_iff.mp done
  obtain ⟨after, ran, result⟩ := Option.bind_eq_some_iff.mp second
  exact ⟨before, first, ran.trans result⟩

/-- What every act of a run keeps, the run keeps. -/
theorem Act.runAll_keeps {P : NetStack → Prop} {acts : List Act} (start : P s)
    (keeps : ∀ act ∈ acts, ∀ before after, P before → act.run before = some after → P after)
    (run : Act.runAll acts s = some s') : P s' := by
  induction acts using List.reverseRecOn generalizing s' with
  | nil =>
      obtain rfl := Option.some.inj run
      exact start
  | append_singleton acts act ih =>
      obtain ⟨before, first, last⟩ := Act.runAll_append_singleton run
      have held := ih (fun other member => keeps other (List.mem_append_left _ member)) first
      exact keeps act (List.mem_append_right _ List.mem_cons_self) before s' held last

end UefiNetstack
