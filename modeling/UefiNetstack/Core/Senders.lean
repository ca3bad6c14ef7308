import UefiNetstack.Core.SendRaw

namespace UefiNetstack
open Constants NetMath

namespace NetStack

/-- The Ethernet header of every unicast IPv4 frame. -/
def unicastEth (s : NetStack) : EthHdr :=
  { dst := s.identity.routerMac, src := s.identity.myMac, type := htons ethertypeIpv4 }

/-- The IPv4 header with its checksum over the 20 bytes. -/
def ipHeader (s : NetStack) (protocol : UINT8) (payloadLen : Nat) (random daddr : UINT32) : IpHdr :=
  let ip : IpHdr :=
    { ihlVersion := ipVersionIhlDefault
      totLen := htons (BitVec.ofNat 16 (sizeofIpHdr + payloadLen))
      id := htons ((random &&& 0xFFFF#32).setWidth 16)
      ttl := ipDefaultTtl
      protocol
      saddr := s.identity.myIp
      daddr }
  { ip with check := checksum ip.bytes }

/-- The echo request carries 32 bytes of a counting pattern. -/
def icmpPattern : Bytes := (List.range 0x20).map fun index => BitVec.ofNat 8 (index &&& 0xFF)

def icmpEchoHeader (id seq : UINT16) : IcmpHdr :=
  let icmp : IcmpHdr :=
    { type := icmpTypeEchoRequest, code := icmpCodeZero, id := htons id, seq := htons seq }
  { icmp with checksum := checksum (icmp.bytes ++ icmpPattern) }

def icmpEchoFrame (s : NetStack) (targetIp : UINT32) (id seq : UINT16) (random : UINT32) : Bytes :=
  let ip := s.ipHeader ipProtoIcmp (sizeofIcmpHdr + icmpPattern.length) random targetIp
  s.unicastEth.bytes ++ ip.bytes ++ (icmpEchoHeader id seq).bytes ++ icmpPattern

@[simp] theorem icmpPattern_length : icmpPattern.length = 32 := rfl

@[simp] theorem icmpEchoFrame_length (s : NetStack) (targetIp : UINT32) (id seq : UINT16) (random : UINT32) :
    (s.icmpEchoFrame targetIp id seq random).length = 74 := by
  simp [icmpEchoFrame]

def sendIcmpEcho (targetIp : UINT32) (id seq : UINT16) (s : NetStack) : NetStack :=
  let (random, s) := s.getU32
  s.sendFrame ⟨s.icmpEchoFrame targetIp id seq random, by simp [pktBufSize]⟩

@[simp] theorem sendIcmpEcho_sent (s : NetStack) (targetIp : UINT32) (id seq : UINT16) :
    (s.sendIcmpEcho targetIp id seq).sent = s.sent ++ [s.getU32.2.icmpEchoFrame targetIp id seq s.getU32.1] :=
  sendFrame_sent _ s.getU32.2

/-- The segment is the header, its checksum over pseudo header and payload, and the payload. -/
def tcpSegment (s : NetStack) (ip : IpHdr) (flags : UINT8) (seq ack : UINT32) (data : Bytes) : Bytes :=
  let tcp : TcpHdr :=
    { source := htons s.tcp.localPort
      dest := htons s.tcp.remotePort
      seq := htonl seq
      ackSeq := htonl ack
      res1DoffFlags := htons ((tcpDataOffset5.setWidth 16 <<< 0x0C) ||| flags.setWidth 16)
      window := htons tcpDefaultWindow }
  let check := pseudoChecksum ip.saddr ip.daddr ipProtoTcp (tcp.bytes ++ data)
    (BitVec.ofNat 16 (sizeofTcpHdr + data.length))
  TcpHdr.bytes { tcp with check } ++ data

def tcpFrame (s : NetStack) (flags : UINT8) (seq ack : UINT32) (data : Bytes) (random : UINT32) : Bytes :=
  let ip := s.ipHeader ipProtoTcp (sizeofTcpHdr + data.length) random s.tcp.remoteIp
  s.unicastEth.bytes ++ ip.bytes ++ s.tcpSegment ip flags seq ack data

@[simp] theorem tcpFrame_length (s : NetStack) (flags : UINT8) (seq ack : UINT32) (data : Bytes) (random : UINT32) :
    (s.tcpFrame flags seq ack data random).length = 54 + data.length := by
  simp [tcpFrame, tcpSegment, ← Nat.add_assoc]

/-- The payload is copied into a packet of 1500 bytes, and a longer copy overruns it. A null `data`
with a length sends that many zeros. -/
def sendTcpInternal (flags : UINT8) (seq ack : UINT32) (data : Bytes) (s : NetStack) : Option NetStack :=
  if fits : sizeofEthHdr + sizeofIpHdr + sizeofTcpHdr + data.length ≤ maxPktSize then
    let (random, s) := s.getU32
    some (s.sendFrame ⟨s.tcpFrame flags seq ack data random, by
      simp only [sizeofEthHdr, sizeofIpHdr, sizeofTcpHdr, maxPktSize] at fits
      simp only [tcpFrame_length, pktBufSize]
      omega⟩)
  else none

/-- A payload that fits the packet is sent in one frame after one random draw. -/
theorem sendTcpInternal_eq (s : NetStack) (flags : UINT8) (seq ack : UINT32) (data : Bytes)
    (fits : data.length ≤ 1446) :
    ∃ frame : TxFrame, s.sendTcpInternal flags seq ack data = some (s.getU32.2.sendFrame frame) ∧
      frame.bytes = s.getU32.2.tcpFrame flags seq ack data s.getU32.1 := by
  have inside : sizeofEthHdr + sizeofIpHdr + sizeofTcpHdr + data.length ≤ maxPktSize := by
    simp only [sizeofEthHdr, sizeofIpHdr, sizeofTcpHdr, maxPktSize]
    omega
  unfold sendTcpInternal
  rw [dif_pos inside]
  exact ⟨_, rfl, rfl⟩

/-- A zero checksum is sent as all ones. -/
def nonzeroCheck (check : UINT16) : UINT16 := if check = 0#16 then 0xFFFF#16 else check

/-- The datagram is the header, its checksum over pseudo header and payload, and the payload. -/
def udpDatagram (ip : IpHdr) (srcPort destPort : UINT16) (data : Bytes) : Bytes :=
  let udp : UdpHdr :=
    { source := htons srcPort
      dest := htons destPort
      len := htons (BitVec.ofNat 16 (sizeofUdpHdr + data.length)) }
  let check := pseudoChecksum ip.saddr ip.daddr ipProtoUdp (udp.bytes ++ data) (ntohs udp.len)
  UdpHdr.bytes { udp with check := nonzeroCheck check } ++ data

/-- The UDP header of a sent datagram. -/
theorem udpDatagram_header (ip : IpHdr) (srcPort destPort : UINT16) (data : Bytes) :
    ∃ udp : UdpHdr, udpDatagram ip srcPort destPort data = udp.bytes ++ data ∧ ntohs udp.source = srcPort ∧
      ntohs udp.dest = destPort ∧ ntohs udp.len = BitVec.ofNat 16 (sizeofUdpHdr + data.length) :=
  ⟨_, rfl, Words.swap16_swap16 _, Words.swap16_swap16 _, Words.swap16_swap16 _⟩

def udpFrame (s : NetStack) (destIp : UINT32) (destPort srcPort : UINT16) (data : Bytes) (random : UINT32) : Bytes :=
  let ip := s.ipHeader ipProtoUdp (sizeofUdpHdr + data.length) random destIp
  s.unicastEth.bytes ++ ip.bytes ++ udpDatagram ip srcPort destPort data

@[simp] theorem udpFrame_length (s : NetStack) (destIp : UINT32) (destPort srcPort : UINT16) (data : Bytes)
    (random : UINT32) : (s.udpFrame destIp destPort srcPort data random).length = 42 + data.length := by
  simp [udpFrame, udpDatagram, ← Nat.add_assoc]

def sendUdp (destIp : UINT32) (destPort srcPort : UINT16) (data : Bytes) (s : NetStack) : Option NetStack :=
  if fits : sizeofEthHdr + sizeofIpHdr + sizeofUdpHdr + data.length ≤ maxPktSize then
    let (random, s) := s.getU32
    some (s.sendFrame ⟨s.udpFrame destIp destPort srcPort data random, by
      simp only [sizeofEthHdr, sizeofIpHdr, sizeofUdpHdr, maxPktSize] at fits
      simp only [udpFrame_length, pktBufSize]
      omega⟩)
  else none

theorem sendUdp_eq (s : NetStack) (destIp : UINT32) (destPort srcPort : UINT16) (data : Bytes)
    (fits : data.length ≤ 1458) :
    ∃ frame : TxFrame, s.sendUdp destIp destPort srcPort data = some (s.getU32.2.sendFrame frame) ∧
      frame.bytes = s.getU32.2.udpFrame destIp destPort srcPort data s.getU32.1 := by
  have inside : sizeofEthHdr + sizeofIpHdr + sizeofUdpHdr + data.length ≤ maxPktSize := by
    simp only [sizeofEthHdr, sizeofIpHdr, sizeofUdpHdr, maxPktSize]
    omega
  unfold sendUdp
  rw [dif_pos inside]
  exact ⟨_, rfl, rfl⟩

end NetStack
end UefiNetstack
