import UefiNetstack.Dhcp.Handshake
import UefiNetstack.Outcomes.Inbox
import UefiNetstack.Session.Moves

namespace UefiNetstack
open Constants NetStack Search

/-- The DHCP message on a page. -/
def RxPkt.dhcp (page : RxPkt) : Option Heard :=
  (dhcpMessageOn page.byte).map fun message => { m := page.byte, message }

/-- An ARP reply that names an address as its sender. -/
def RxPkt.RepliesFor (page : RxPkt) (ip : UINT32) : Prop := ∃ arp, page.arpReply = some arp ∧ arp.spa = ip

namespace DhcpLoop

variable {xid : UINT32} {loop loop' : DhcpLoop} {loops : ℕ}

/-- What an iteration hears comes with the next answer. -/
theorem heard_eq (loop : DhcpLoop) : loop.heard = loop.stack.inbox.arrival.bind RxPkt.dhcp := by
  unfold heard hears
  cases answer : loop.stack.nextReceive with
  | frame frame =>
      rw [arrival_frame answer]
      rfl
  | notReady =>
      rw [arrival_notReady answer]
      rfl
  | error =>
      rw [arrival_error answer]
      rfl

/-- A round of the loop. -/
def Iterates (xid : UINT32) (loop loop' : DhcpLoop) : Prop := loop' = loop.iteration xid

end DhcpLoop

namespace DhcpLoop

end DhcpLoop

namespace NetStack

variable {s s' nic : NetStack} {status : EfiStatus}

end NetStack

namespace Scenario

/-- An offer, an acknowledgement and a reply of the gateway. -/
def bootAnswers : List Receive := [.frame offerFrame, .frame ackFrame, .notReady, .frame gatewayReply]

end Scenario

end UefiNetstack
