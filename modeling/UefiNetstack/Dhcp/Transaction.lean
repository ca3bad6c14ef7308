import UefiNetstack.Dhcp.Handshake

namespace UefiNetstack
open Constants DhcpLoop

/-- A reply of a transaction for the client of a MAC. -/
structure DhcpHead.Ours (head : DhcpHead) (xid : UINT32) (mac : Mac) : Prop where
  reply : head.op = dhcpOpReply
  xid : head.xid = htonl xid
  chaddr : head.chaddr.toList.take 6 = mac.toList

/-- A step keeps to the transaction when it moves or supplies an address only on a frame that holds a reply of the
transaction. -/
def Matched (xid : UINT32) (mac : Mac) (loop loop' : DhcpLoop) : Prop :=
  loop'.state ≠ loop.state ∨ loop'.stack.identity.myIp ≠ loop.stack.identity.myIp →
    ∃ head, loop.ReceivesHead head ∧ head.Ours xid mac

/-- What a loop accepts is a reply of the transaction, and the frame that it receives holds it. -/
def AcceptsOurs (xid : UINT32) (mac : Mac) (loop : DhcpLoop) : Prop :=
  ∀ heard, loop.heard = some heard → heard.Accepted loop.state →
    loop.ReceivesHead heard.head ∧ heard.head.Ours xid mac

variable {xid : UINT32} {s : NetStack} {mac : Mac} {loop loop' : DhcpLoop}

/-- A step keeps to the transaction exactly when the message that it accepts, if any, is of it. -/
theorem matched_iff (count : Nat) : Matched xid mac (loopAfter xid s count) (loopAfter xid s (count + 1)) ↔
    AcceptsOurs xid mac (loopAfter xid s count) := by
  rw [loopAfter_succ]
  generalize loopAfter xid s count = loop
  by_cases bound : loop.state = .bound
  · rw [if_pos bound]
    constructor
    · intro _ heard _ accepted
      rw [bound] at accepted
      exact accepted.2.elim
    · rintro - (moved | moved)
      · exact absurd rfl moved
      · exact absurd rfl moved
  · rw [if_neg bound]
    constructor
    · intro matched heard found accepted
      rcases loop.iteration_accepts xid bound with ⟨refused, -, -⟩ | ⟨message, hears, -, moved⟩
      · exact absurd accepted (refused heard found)
      · obtain ⟨head, receives, ours⟩ := matched (Or.inl moved)
        rw [receives.head_eq found]
        exact ⟨receives, ours⟩
    · intro ours moves
      rcases loop.iteration_accepts xid bound with ⟨-, state, address⟩ | ⟨message, hears, accepted, -⟩
      · rcases moves with moved | moved
        · exact absurd state moved
        · exact absurd address moved
      · exact ⟨message.head, ours message hears accepted⟩

/-- Every step of the loop on a stack keeps to the transaction that the loop asks in. -/
def KeepsTransaction (s : NetStack) : Prop :=
  ∀ count < timeoutDhcpLoops, Matched s.getU32.1 s.identity.myMac
    (loopAfter s.getU32.1 s.getU32.2 count) (loopAfter s.getU32.1 s.getU32.2 (count + 1))

/-- A run keeps to its transaction exactly when every reply that the loop accepts is of it and is held by the frame
that arrives. -/
theorem keepsTransaction_iff (s : NetStack) : KeepsTransaction s ↔
    ∀ count < timeoutDhcpLoops,
      AcceptsOurs s.getU32.1 s.identity.myMac (loopAfter s.getU32.1 s.getU32.2 count) := by
  constructor
  · intro keeps count inside
    exact (matched_iff count).mp (keeps count inside)
  · intro ours count inside
    exact (matched_iff count).mpr (ours count inside)

namespace Scenario

/-- An offer of another transaction to another client. -/
def foreignOffer : RxFrame := dhcpReply dhcpMsgOffer 0x0BADF00D#32 gatewayMac remoteIp []

end Scenario

open Scenario in
/-- The loop takes its address from an offer that another client has asked for. -/
theorem foreign_offer_accepted : ¬KeepsTransaction (powered [.frame foreignOffer]) := by
  intro keeps
  have first := keeps 0 (by decide)
  have moved : (loopAfter (powered [.frame foreignOffer]).getU32.1 (powered [.frame foreignOffer]).getU32.2 1).state ≠
      (loopAfter (powered [.frame foreignOffer]).getU32.1 (powered [.frame foreignOffer]).getU32.2 0).state := by
    decide +kernel
  obtain ⟨head, receives, ours⟩ := first (Or.inl moved)
  have carries : (loopAfter (powered [.frame foreignOffer]).getU32.1 (powered [.frame foreignOffer]).getU32.2 0).heard.map
      (fun heard => heard.head.xid) = some (htonl 0x0BADF00D#32) := by
    decide +kernel
  have same := congrArg (Option.map DhcpHead.xid) receives.heard
  rw [Option.map_map, Option.map_some, ours.xid] at same
  exact absurd (same.symm.trans carries) (by decide +kernel)

end UefiNetstack
