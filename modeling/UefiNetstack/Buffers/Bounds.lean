import UefiNetstack.Buffers.Copies
import UefiNetstack.Session.Acts

namespace UefiNetstack
open Constants NetStack

/-- The two receive calls. -/
inductive Channel where
  | tcp
  | udp
deriving DecidableEq

def Copy.channel : Copy → Channel
  | .tcp _ _ => .tcp
  | .udp _ => .udp

/-- Where a copy starts in the buffer: a datagram is copied to its start. -/
def Copy.start : Copy → Nat
  | .tcp offset _ => offset.toNat
  | .udp _ => 0

def Copy.data : Copy → Bytes
  | .tcp _ data => data
  | .udp data => data

namespace NetStack

variable {s s' s'' : NetStack} {channel : Channel}

def pending (s : NetStack) : Channel → Pending
  | .tcp => s.tcp.pending
  | .udp => s.udp.pending

/-- The copies through the buffer pointer of one call. -/
def copiesTo (s : NetStack) (channel : Channel) : List Copy := s.copies.filter fun copy => copy.channel = channel

/-- The counted length is within the size in both calls. -/
def Bounded (s : NetStack) : Prop := ∀ channel, (s.pending channel).currentLen ≤ (s.pending channel).maxLen

/-- A copy goes through a pending pointer to indices below the size, on a stream behind the bytes that are
counted already. -/
structure Within (s : NetStack) (copy : Copy) : Prop where
  pending : (s.pending copy.channel).buffer.isSome
  uncounted : copy.channel = .tcp → (s.pending .tcp).currentLen.toNat ≤ copy.start
  below : copy.start + copy.data.length ≤ (s.pending copy.channel).maxLen.toNat

/-- A step stays within both buffers. -/
structure WithinBuffers (s s' : NetStack) : Prop where
  bounded : s'.Bounded
  copies : ∃ made, s'.copies = s.copies ++ made ∧ ∀ copy ∈ made, s.Within copy

/-- A step that keeps both waiting calls as they are. -/
structure KeepsPending (s s' : NetStack) : Prop where
  pending : ∀ channel, s'.pending channel = s.pending channel
  copies : s'.copies = s.copies

theorem CopiesNothing.keepsPending (nothing : CopiesNothing s s') : KeepsPending s s' where
  pending channel := by
    cases channel with
    | tcp => exact nothing.tcp
    | udp => exact congrArg UdpReceiver.pending nothing.udp
  copies := nothing.copies

theorem KeepsPending.refl (s : NetStack) : KeepsPending s s := ⟨fun _ => rfl, rfl⟩

theorem KeepsPending.trans (first : KeepsPending s s') (second : KeepsPending s' s'') : KeepsPending s s'' where
  pending channel := (second.pending channel).trans (first.pending channel)
  copies := second.copies.trans first.copies

theorem KeepsPending.bounded (keeps : KeepsPending s s') (bounded : s.Bounded) : s'.Bounded := by
  intro channel
  rw [keeps.pending]
  exact bounded channel

/-- The counted length after a copy into the space that is left. -/
theorem add_within {current max : UINTN} {len : Nat} (bounded : current ≤ max) (room : len ≤ (max - current).toNat) :
    current.toNat + len ≤ max.toNat ∧ current + BitVec.ofNat 64 len ≤ max := by
  rw [BitVec.le_def] at bounded ⊢
  have small := max.isLt
  rw [BitVec.toNat_sub] at room
  rw [BitVec.toNat_add, BitVec.toNat_ofNat]
  omega

/-- A poll keeps the bounds and copies within them. -/
theorem BufferStep.within (step : BufferStep s s') (bounded : s.Bounded) : WithinBuffers s s' := by
  cases step with
  | nothing nothing =>
      exact ⟨nothing.keepsPending.bounded bounded, [], by rw [nothing.copies, List.append_nil], by simp⟩
  | tcp buffer data pending room stored udp copies =>
      obtain ⟨below, counted⟩ := add_within (bounded .tcp) room
      refine ⟨?_, [.tcp s.tcp.rxCurrentLen data], copies, ?_⟩
      · intro channel
        cases channel with
        | tcp =>
            change s'.tcp.pending.currentLen ≤ s'.tcp.pending.maxLen
            rw [stored]
            exact counted
        | udp =>
            change s'.udp.pending.currentLen ≤ s'.udp.pending.maxLen
            rw [udp]
            exact bounded .udp
      · intro copy member
        rw [List.mem_singleton.mp member]
        exact ⟨Option.isSome_iff_exists.mpr ⟨buffer, pending⟩, fun _ => Nat.le_refl _, below⟩
  | udp buffer data pending room stored tcp copies =>
      refine ⟨?_, [.udp data], copies, ?_⟩
      · intro channel
        cases channel with
        | tcp =>
            change s'.tcp.pending.currentLen ≤ s'.tcp.pending.maxLen
            rw [tcp]
            exact bounded .tcp
        | udp =>
            change s'.udp.pending.currentLen ≤ s'.udp.pending.maxLen
            rw [stored, BitVec.le_def]
            exact (Nat.mod_le _ _).trans room
      · intro copy member
        rw [List.mem_singleton.mp member]
        exact ⟨Option.isSome_iff_exists.mpr ⟨buffer, pending⟩, (fun isTcp => nomatch isTcp), (Nat.zero_add _).trans_le room⟩

/-- A call with this buffer and size is waiting, and the buffer is as the caller left it from the size on. -/
structure Waits (channel : Channel) (buffer : Memory) (maxLen : UINTN) (s : NetStack) : Prop where
  size : (s.pending channel).maxLen = maxLen
  counted : (s.pending channel).currentLen ≤ maxLen
  held : ∃ held, (s.pending channel).buffer = some held ∧ ∀ index, maxLen.toNat ≤ index → held index = buffer index

theorem Waits.congr {buffer : Memory} {maxLen : UINTN} (waits : Waits channel buffer maxLen s)
    (same : s'.pending channel = s.pending channel) : Waits channel buffer maxLen s' where
  size := by rw [same]; exact waits.size
  counted := by rw [same]; exact waits.counted
  held := by rw [same]; exact waits.held

/-- A write below the size leaves the rest of the buffer. -/
theorem write_rest {held buffer : Memory} {data : Bytes} {start size : Nat} (below : start + data.length ≤ size)
    (rest : ∀ index, size ≤ index → held index = buffer index) (index : Nat) (outside : size ≤ index) :
    held.write start data index = buffer index := by
  rw [Memory.write_outside held (Or.inr (below.trans outside)), rest index outside]

/-- A waiting call still waits after a poll. -/
theorem BufferStep.waits {buffer : Memory} {maxLen : UINTN} (step : BufferStep s s')
    (waits : Waits channel buffer maxLen s) : Waits channel buffer maxLen s' := by
  cases step with
  | nothing nothing => exact waits.congr (nothing.keepsPending.pending channel)
  | tcp target data pending room stored udp copies =>
      cases channel with
      | tcp =>
          obtain ⟨held, same, rest⟩ := waits.held
          obtain rfl : target = held := Option.some.inj (pending.symm.trans same)
          have size : s.tcp.rxMaxLen = maxLen := waits.size
          obtain ⟨below, counted⟩ := add_within (size ▸ waits.counted) room
          rw [size] at below counted
          refine ⟨?_, ?_, target.write s.tcp.rxCurrentLen.toNat data, ?_, write_rest below rest⟩
          · exact (congrArg Pending.maxLen stored).trans size
          · change s'.tcp.pending.currentLen ≤ maxLen
            rw [stored]
            exact counted
          · exact congrArg Pending.buffer stored
      | udp =>
          exact waits.congr (congrArg UdpReceiver.pending udp)
  | udp target data pending room stored tcp copies =>
      cases channel with
      | tcp =>
          exact waits.congr tcp
      | udp =>
          obtain ⟨held, same, rest⟩ := waits.held
          obtain rfl : target = held := Option.some.inj (pending.symm.trans same)
          have size : s.udp.rxMaxLen = maxLen := waits.size
          rw [size] at room
          refine ⟨?_, ?_, target.write 0 data, ?_, write_rest ((Nat.zero_add _).trans_le room) rest⟩
          · exact (congrArg (fun udp => udp.rxMaxLen) stored).trans size
          · change s'.udp.rxCurrentLen ≤ maxLen
            rw [stored, BitVec.le_def]
            exact (Nat.mod_le _ _).trans room
          · exact congrArg (fun udp => udp.rxBuffer) stored

/-- Nothing is copied through a pointer that is null, and it stays null. -/
theorem BufferStep.null (step : BufferStep s s') (null : (s.pending channel).buffer = none) :
    (s'.pending channel).buffer = none ∧ s'.copiesTo channel = s.copiesTo channel := by
  cases step with
  | nothing nothing =>
      rw [nothing.keepsPending.pending, copiesTo, copiesTo, nothing.copies]
      exact ⟨null, rfl⟩
  | tcp buffer data pending room stored udp copies =>
      cases channel with
      | tcp => exact absurd (pending.symm.trans null) (Option.some_ne_none _)
      | udp =>
          have same : s'.pending .udp = s.pending .udp := congrArg UdpReceiver.pending udp
          rw [same, copiesTo, copiesTo, copies, List.filter_append]
          exact ⟨null, List.append_nil _⟩
  | udp buffer data pending room stored tcp copies =>
      cases channel with
      | tcp =>
          have same : s'.pending .tcp = s.pending .tcp := tcp
          rw [same, copiesTo, copiesTo, copies, List.filter_append]
          exact ⟨null, List.append_nil _⟩
      | udp => exact absurd (pending.symm.trans null) (Option.some_ne_none _)

theorem KeepsPending.null (keeps : KeepsPending s s') (null : (s.pending channel).buffer = none) :
    (s'.pending channel).buffer = none ∧ s'.copiesTo channel = s.copiesTo channel := by
  rw [keeps.pending, copiesTo, copiesTo, keeps.copies]
  exact ⟨null, rfl⟩

end NetStack
end UefiNetstack
