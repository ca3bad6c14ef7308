import UefiNetstack.Reception.Settled
import UefiNetstack.Buffers.Copies

namespace UefiNetstack
open Memory Constants

namespace NetStack

variable {s s' s'' : NetStack} {frame : RxFrame}

/-- A step keeps every protocol variable. The receive page, the firmware's answers and the trace may
change. -/
structure SameProtocolState (s s' : NetStack) : Prop where
  identity : s'.identity = s.identity
  rngSeed : s'.rngSeed = s.rngSeed
  arp : s'.arp = s.arp
  arpCache : s'.arpCache = s.arpCache
  dns : s'.dns = s.dns
  tcp : s'.tcp = s.tcp
  udp : s'.udp = s.udp
  ping : s'.ping = s.ping

/-- A poll that gets a frame dispatches it from the page. -/
theorem poll_frame (delivered : s.nextReceive = .frame frame) : s.poll = (s.received.landed frame).dispatch := by
  rw [poll, delivered]
  rfl

theorem received_landed_sent (s : NetStack) (frame : RxFrame) : (s.received.landed frame).sent = s.sent := by
  have quiet : (s.trace ++ [Event.receive (.frame frame)]).filterMap Event.frame? = s.sent := by
    simp [sent, Event.frame?]
  exact quiet

/-- Receiving a frame changes no protocol variable. -/
theorem received_landed_same (s : NetStack) (frame : RxFrame) : SameProtocolState s (s.received.landed frame) :=
  ⟨rfl, rfl, rfl, rfl, rfl, rfl, rfl, rfl⟩

theorem SameProtocolState.trans (first : SameProtocolState s s') (second : SameProtocolState s' s'') :
    SameProtocolState s s'' where
  identity := second.identity.trans first.identity
  rngSeed := second.rngSeed.trans first.rngSeed
  arp := second.arp.trans first.arp
  arpCache := second.arpCache.trans first.arpCache
  dns := second.dns.trans first.dns
  tcp := second.tcp.trans first.tcp
  udp := second.udp.trans first.udp
  ping := second.ping.trans first.ping

theorem sendFrame_same (data : TxFrame) (s : NetStack) : SameProtocolState s (s.sendFrame data) :=
  ⟨rfl, rfl, rfl, rfl, rfl, rfl, rfl, rfl⟩

/-- The received bytes lie at the start of the page. -/
theorem landed_bytesAt (s : NetStack) (frame : RxFrame) : BytesAt (s.landed frame).rxPkt.byte 0 frame.bytes :=
  write_bytesAt s.rxPkt.byte 0 frame.bytes

end NetStack

/-- A length that is cut to the room is the smaller of the two. -/
theorem cut_toNat (len room : UINTN) : (if len > room then room else len).toNat = min len.toNat room.toNat := by
  split
  · rename_i exceeds
    exact (Nat.min_eq_right (Nat.le_of_lt (BitVec.lt_def.mp exceeds))).symm
  · rename_i fits
    exact (Nat.min_eq_left (Nat.le_of_not_lt fits)).symm

/-- A sent frame as the receiver gets it. -/
def TxFrame.delivered (frame : TxFrame) : RxFrame := { bytes := frame.bytes, fits := frame.fits }

end UefiNetstack
