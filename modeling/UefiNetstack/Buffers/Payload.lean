import UefiNetstack.Frames.Emitted
import UefiNetstack.Api.Datagram

namespace UefiNetstack
open Constants Memory

/-- The copies of a payload behind its headers stay inside the packet and inside the transmit page. -/
structure PayloadWithin (headers : Nat) (data : Bytes) : Prop where
  pkt : ∀ index < data.length, headers + index < maxPktSize
  txPkt : ∀ index < headers + data.length, index < pktBufSize

/-- The packet is the smaller buffer. -/
theorem payloadWithin_iff {headers : Nat} (room : headers ≤ maxPktSize) (data : Bytes) :
    PayloadWithin headers data ↔ headers + data.length ≤ maxPktSize := by
  rw [maxPktSize] at room ⊢
  constructor
  · intro within
    by_cases empty : data.length = 0
    · omega
    · have last := within.pkt (data.length - 1) (by omega)
      rw [maxPktSize] at last
      omega
  · intro fits
    exact
      { pkt := fun index inside => by
          rw [maxPktSize]
          omega
        txPkt := fun index inside => by
          rw [pktBufSize]
          omega }

namespace NetStack

variable {s s' : NetStack} {data : Bytes}

/-- A call succeeds with exactly one frame. -/
def SendsFrame (s s' : NetStack) (formed : Bytes → Prop) : Prop := ∃ frame, s'.sent = s.sent ++ [frame] ∧ formed frame

/-- A segment carries the payload under its true lengths. -/
structure TcpCarries (data frame : Bytes) : Prop extends TcpWellFormed frame where
  totLen : (ntohs (frameIp frame).totLen).toNat = sizeofIpHdr + sizeofTcpHdr + data.length
  carried : (frameSegment frame).drop sizeofTcpHdr = data

theorem tcpFrame_carries (s : NetStack) (flags : UINT8) (seq ack : UINT32) (random : UINT32)
    (fits : data.length ≤ 1446) : TcpCarries data (s.tcpFrame flags seq ack data random) where
  toTcpWellFormed := s.tcpFrame_wellFormed flags seq ack data random fits
  totLen := by
    rw [tcpFrame, frameIp_parts, ipHeader_totLen _ _ _ _ (by simp only [sizeofIpHdr, sizeofTcpHdr]; omega),
      Nat.add_assoc]
  carried := by
    rw [tcpFrame, frameSegment_parts, tcpSegment]
    exact List.drop_left' (TcpHdr.bytes_length _)

/-- `tcp_send` stays inside its buffers and carries what it was given. -/
structure TcpSendWhole (data : Bytes) (s : NetStack) : Prop where
  within : s.tcp.state = .established → PayloadWithin (sizeofEthHdr + sizeofIpHdr + sizeofTcpHdr) data
  runs : ∃ result, Api.tcpSend data s = some result
  carries : ∀ s', Api.tcpSend data s = some (.success, s') → SendsFrame s s' (TcpCarries data)

theorem tcpSend_whole (fits : s.tcp.state = .established → data.length ≤ 1446) : s.TcpSendWhole data := by
  by_cases established : s.tcp.state = .established
  · have small := fits established
    obtain ⟨frame, sent, bytes⟩ := s.sendTcpInternal_eq tcpFlagPshAck s.tcp.seq s.tcp.ack data small
    have done : Api.tcpSend data s = some (.success,
        { s.getU32.2.sendFrame frame with
          tcp := { s.tcp with seq := s.tcp.seq + BitVec.ofNat 32 data.length } }) := by
      rw [Api.tcpSend, if_neg (not_not.mpr established), sent]
      rfl
    refine { within := fun _ => ?_, runs := ⟨_, done⟩, carries := ?_ }
    · refine (payloadWithin_iff (by decide) data).mpr ?_
      simp only [sizeofEthHdr, sizeofIpHdr, sizeofTcpHdr, maxPktSize]
      omega
    · intro s' result
      obtain ⟨-, rfl⟩ := Prod.mk.inj (Option.some.inj (done.symm.trans result))
      refine ⟨frame.bytes, sendFrame_sent frame s.getU32.2, ?_⟩
      rw [bytes]
      exact s.getU32.2.tcpFrame_carries _ _ _ _ small
  · have refused : Api.tcpSend data s = some (.notReady, s) := if_pos established
    refine { within := fun same => absurd same established, runs := ⟨_, refused⟩, carries := ?_ }
    intro s' result
    cases (Prod.mk.inj (Option.some.inj (refused.symm.trans result))).1

/-- A datagram carries the payload under its true lengths. -/
structure UdpCarries (data frame : Bytes) : Prop extends UdpWellFormed frame data.length where
  totLen : (ntohs (frameIp frame).totLen).toNat = sizeofIpHdr + sizeofUdpHdr + data.length
  carried : (frameSegment frame).drop sizeofUdpHdr = data

theorem udpFrame_carries (s : NetStack) (destIp : UINT32) (destPort srcPort : UINT16) (random : UINT32)
    (fits : data.length ≤ 1458) : UdpCarries data (s.udpFrame destIp destPort srcPort data random) where
  toUdpWellFormed := s.udpFrame_wellFormed destIp destPort srcPort data random fits
  totLen := by
    rw [udpFrame, frameIp_parts, ipHeader_totLen _ _ _ _ (by simp only [sizeofIpHdr, sizeofUdpHdr]; omega),
      Nat.add_assoc]
  carried := by
    rw [udpFrame, frameSegment_parts, udpDatagram]
    exact List.drop_left' (UdpHdr.bytes_length _)

/-- `udp_send` stays inside its buffers and carries what it was given. -/
structure UdpSendWhole (destIp : UINT32) (destPort : UINT16) (data : Bytes) (s : NetStack) : Prop where
  within : PayloadWithin (sizeofEthHdr + sizeofIpHdr + sizeofUdpHdr) data
  runs : ∃ result, Api.udpSend destIp destPort data s = some result
  carries : ∀ s', Api.udpSend destIp destPort data s = some (.success, s') → SendsFrame s s' (UdpCarries data)

theorem udpBind_sent (s : NetStack) : s.udpBind.sent = s.sent := by
  unfold udpBind
  split
  all_goals rfl

theorem udpSend_whole {destIp : UINT32} {destPort : UINT16} (fits : data.length ≤ 1458) :
    s.UdpSendWhole destIp destPort data := by
  obtain ⟨frame, sent, bytes⟩ := s.udpBind.sendUdp_eq destIp destPort s.udpBind.udp.localPort data fits
  have done : Api.udpSend destIp destPort data s = some (.success, s.udpBind.getU32.2.sendFrame frame) := by
    rw [Api.udpSend, sent]
    rfl
  refine { within := ?_, runs := ⟨_, done⟩, carries := ?_ }
  · refine (payloadWithin_iff (by decide) data).mpr ?_
    simp only [sizeofEthHdr, sizeofIpHdr, sizeofUdpHdr, maxPktSize]
    omega
  · intro s' result
    obtain ⟨-, rfl⟩ := Prod.mk.inj (Option.some.inj (done.symm.trans result))
    refine ⟨frame.bytes, ?_, ?_⟩
    · rw [sendFrame_sent, getU32_sent, udpBind_sent]
    · rw [bytes]
      exact s.udpBind.getU32.2.udpFrame_carries destIp destPort _ _ fits

/-- The sends stay inside their buffers and carry the payload exactly up to 1446 bytes over TCP, unless the
session refuses them, and up to 1458 bytes over UDP. -/
theorem payload_bounds (s : NetStack) (data : Bytes) :
    (s.TcpSendWhole data ↔ (s.tcp.state = .established → data.length ≤ 1446)) ∧
    ∀ destIp destPort, s.UdpSendWhole destIp destPort data ↔ data.length ≤ 1458 := by
  constructor
  · constructor
    · intro whole established
      have fits := (payloadWithin_iff (by decide) data).mp (whole.within established)
      simp only [sizeofEthHdr, sizeofIpHdr, sizeofTcpHdr, maxPktSize] at fits
      omega
    · exact tcpSend_whole
  · intro destIp destPort
    constructor
    · intro whole
      have fits := (payloadWithin_iff (by decide) data).mp whole.within
      simp only [sizeofEthHdr, sizeofIpHdr, sizeofUdpHdr, maxPktSize] at fits
      omega
    · exact udpSend_whole

/-- An established session, and one byte more than its packet takes. -/
def establishedStack : NetStack := { NetStack.initial .zeros {} with tcp := { state := .established } }

/-- A longer payload overruns the packet. -/
theorem sendTcpInternal_overruns (s : NetStack) (flags : UINT8) (seq ack : UINT32) (long : 1446 < data.length) :
    s.sendTcpInternal flags seq ack data = none := by
  have outside : ¬sizeofEthHdr + sizeofIpHdr + sizeofTcpHdr + data.length ≤ maxPktSize := by
    simp only [sizeofEthHdr, sizeofIpHdr, sizeofTcpHdr, maxPktSize]
    omega
  unfold sendTcpInternal
  rw [dif_neg outside]

theorem long_payload_overruns : ¬∀ (s : NetStack) (data : Bytes), s.TcpSendWhole data ∧
    ∀ destIp destPort, s.UdpSendWhole destIp destPort data := by
  intro always
  obtain ⟨result, done⟩ := (always establishedStack (List.replicate 1447 0#8)).1.runs
  have established : ¬establishedStack.tcp.state ≠ .established := not_not.mpr rfl
  rw [Api.tcpSend, if_neg established,
    sendTcpInternal_overruns _ _ _ _ (by rw [List.length_replicate]; decide)] at done
  cases done

end NetStack
end UefiNetstack
