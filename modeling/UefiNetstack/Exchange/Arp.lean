import UefiNetstack.Exchange.Delivery
import UefiNetstack.Arp.Fifo
import UefiNetstack.Api.Init

namespace UefiNetstack
open Memory Constants

namespace NetStack

variable {s s' : NetStack} {frame : RxFrame}

/-- An ARP packet in an Ethernet frame reaches the handler with the fields that were sent. -/
theorem poll_arp {eth : EthHdr} {arp : ArpHdr} (bytes : frame.bytes = eth.bytes ++ arp.bytes)
    (type : eth.type = htons ethertypeArp) (delivered : s.nextReceive = .frame frame) :
    s.poll = some ((s.received.landed frame).handleArp arp) := by
  have stored := landed_bytesAt s.received frame
  rw [bytes, bytesAt_append_iff, EthHdr.bytes_length] at stored
  rw [poll_frame delivered, dispatch, EthHdr.read_stored stored.1, sizeofEthHdr, ArpHdr.read_stored stored.2]
  exact if_pos type

@[simp] theorem arpRequest_sent (s : NetStack) (targetIp : UINT32) :
    (s.arpRequest targetIp).sent = s.sent ++ [s.arpRequestFrame targetIp] :=
  sendFrame_sent _ s

/-- The frame that `arp_request` emits. -/
theorem arpRequest_emits (s : NetStack) (targetIp : UINT32) {bytes : Bytes}
    (emitted : (s.arpRequest targetIp).sent = s.sent ++ [bytes]) : bytes = s.arpRequestFrame targetIp :=
  List.singleton_inj.mp (List.append_cancel_left (emitted.symm.trans (s.arpRequest_sent targetIp)))

/-- The ARP packet of a request. -/
def arpRequestPacket (s : NetStack) (targetIp : UINT32) : ArpHdr where
  htype := htons arpHtypeEthernet
  ptype := htons arpPtypeIpv4
  hlen := arpHlenEthernet
  plen := arpPlenIpv4
  oper := htons arpOperRequest
  sha := s.identity.myMac
  spa := s.identity.myIp
  tpa := targetIp

/-- The handler of a request answers for the local address only. -/
theorem poll_request (asker : NetStack) {targetIp : UINT32} (bytes : frame.bytes = asker.arpRequestFrame targetIp)
    (delivered : s.nextReceive = .frame frame) :
    s.poll = some (if targetIp = s.identity.myIp ∧ s.identity.myIp ≠ 0#32 then
      (s.received.landed frame).sendFrame
        ⟨s.arpReplyFrame (asker.arpRequestPacket targetIp), by simp [arpReplyFrame, pktBufSize]⟩
      else s.received.landed frame) := by
  rw [@poll_arp s frame _ (asker.arpRequestPacket targetIp) bytes rfl delivered, handleArp]
  have notReply : ntohs (htons arpOperRequest) ≠ arpOperReply := by decide
  have request : ntohs (htons arpOperRequest) = arpOperRequest := by decide
  exact congrArg some ((if_neg notReply).trans (if_pos request))

/-- The ARP packet of a reply. -/
def arpReplyPacket (s : NetStack) (arp : ArpHdr) : ArpHdr where
  htype := htons arpHtypeEthernet
  ptype := htons arpPtypeIpv4
  hlen := arpHlenEthernet
  plen := arpPlenIpv4
  oper := htons arpOperReply
  sha := s.identity.myMac
  spa := s.identity.myIp
  tha := arp.sha
  tpa := arp.spa

/-- The handler of a reply learns the sender. -/
theorem poll_reply (answerer : NetStack) {arp : ArpHdr} (bytes : frame.bytes = answerer.arpReplyFrame arp)
    (delivered : s.nextReceive = .frame frame) :
    s.poll = some ((s.received.landed frame).learnArp (answerer.arpReplyPacket arp)) := by
  rw [@poll_arp s frame _ (answerer.arpReplyPacket arp) bytes rfl delivered, handleArp]
  have reply : ntohs (htons arpOperReply) = arpOperReply := by decide
  exact congrArg some (if_pos reply)

/-- A reply for the pending address resolves it and enters the cache. -/
theorem learnArp_resolves (s : NetStack) {arp : ArpHdr} (pending : s.arp.targetIp = arp.spa) :
    (s.learnArp arp).arp.resolved = true ∧ (s.learnArp arp).arp.targetMac = arp.sha ∧
      (s.learnArp arp).arpCache = s.arpCache.update arp.spa arp.sha := by
  rw [learnArp_eq]
  simp [pending]

/-- The destination that a frame is addressed to. -/
theorem eth_of_bytes {eth : EthHdr} {rest : Bytes} (bytes : frame.bytes = eth.bytes ++ rest) : frame.eth = eth := by
  rw [RxFrame.eth, RxFrame.alone, bytes]
  exact frameEth_parts

/-- The request of one stack makes the owner of the address answer to the asker's MAC and change nothing
else; the answer resolves a pending request for the address with the owner's MAC; and no other stack
answers the request. -/
theorem arp_exchange (a b : NetStack) {request : RxFrame} (configured : b.identity.myIp ≠ 0#32)
    (emitted : (a.arpRequest b.identity.myIp).sent = a.sent ++ [request.bytes])
    (delivered : b.nextReceive = .frame request) :
    (∃ (b' : NetStack) (reply : RxFrame), b.poll = some b' ∧ b'.sent = b.sent ++ [reply.bytes] ∧
      reply.eth.dst = a.identity.myMac ∧ SameProtocolState b b' ∧
      ∀ asker : NetStack, asker.nextReceive = .frame reply → asker.arp.targetIp = b.identity.myIp →
        ∃ asker' : NetStack, asker.poll = some asker' ∧ asker'.arp.resolved = true ∧
          asker'.arp.targetMac = b.identity.myMac ∧
          ∀ outMac, asker'.arpCache.lookup b.identity.myIp outMac = (true, b.identity.myMac)) ∧
    ∀ c : NetStack, c.nextReceive = .frame request → c.identity.myIp ≠ b.identity.myIp ∨ c.identity.myIp = 0#32 →
      ∃ c' : NetStack, c.poll = some c' ∧ c'.sent = c.sent ∧ SameProtocolState c c' := by
  have bytes := a.arpRequest_emits _ emitted
  constructor
  · let reply : TxFrame := ⟨b.arpReplyFrame (a.arpRequestPacket b.identity.myIp), by simp [arpReplyFrame, pktBufSize]⟩
    refine ⟨(b.received.landed request).sendFrame reply, reply.delivered, ?_, ?_, ?_, ?_, ?_⟩
    · rw [poll_request a bytes delivered, if_pos ⟨rfl, configured⟩]
    · rw [sendFrame_sent, received_landed_sent]
      rfl
    · rw [@eth_of_bytes reply.delivered _ _ rfl]
      rfl
    · exact (b.received_landed_same request).trans (sendFrame_same reply _)
    · intro asker got pending
      obtain ⟨resolved, targetMac, arpCache⟩ := @learnArp_resolves (asker.received.landed reply.delivered)
        (b.arpReplyPacket (a.arpRequestPacket b.identity.myIp)) pending
      refine ⟨_, poll_reply b rfl got, resolved, targetMac, ?_⟩
      intro outMac
      rw [arpCache]
      exact ArpCache.lookup_update _ _ _ _
  · intro c got other
    refine ⟨c.received.landed request, ?_, received_landed_sent c request, c.received_landed_same request⟩
    rw [poll_request a bytes got, if_neg]
    rintro ⟨same, configured⟩
    rcases other with different | zero
    · exact different same.symm
    · exact configured zero

/-- Two instances of the stack with the addresses of a gateway and of a host. -/
def gatewayStack : NetStack :=
  { NetStack.initial .zeros {} with identity := { myMac := Scenario.gatewayMac, myIp := Scenario.gatewayIp } }

def gatewayRequest : RxFrame where
  bytes := gatewayStack.arpRequestFrame Scenario.localIp
  fits := by decide

def hostStack : NetStack :=
  { NetStack.initial .zeros { receive := [.frame gatewayRequest] } with
    identity := { myMac := Scenario.localMac, myIp := Scenario.localIp } }

theorem arp_exchange_gateway :
    ∃ (host' : NetStack) (reply : RxFrame), hostStack.poll = some host' ∧
      host'.sent = hostStack.sent ++ [reply.bytes] ∧ reply.eth.dst = Scenario.gatewayMac := by
  obtain ⟨⟨host', reply, polled, sent, dst, -⟩, -⟩ := @arp_exchange gatewayStack hostStack gatewayRequest
    (by decide) (gatewayStack.arpRequest_sent _) rfl
  exact ⟨host', reply, polled, sent, dst⟩

end NetStack
end UefiNetstack
