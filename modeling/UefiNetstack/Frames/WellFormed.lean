import UefiNetstack.RoundTrip
import UefiNetstack.Protocols

namespace UefiNetstack
open Words Memory NetMath Constants

/-- The IPv4 header that a receiver finds in a frame. -/
def frameIp (frame : Bytes) : IpHdr := IpHdr.read (ofBytes frame) sizeofEthHdr

/-- The UDP header that a receiver finds in a frame without IP options. -/
def frameUdp (frame : Bytes) : UdpHdr := UdpHdr.read (ofBytes frame) (sizeofEthHdr + sizeofIpHdr)

/-- The 20 header bytes as sent. -/
def frameIpBytes (frame : Bytes) : Bytes := (frame.drop sizeofEthHdr).take sizeofIpHdr

/-- The transport message after the IP header. -/
def frameSegment (frame : Bytes) : Bytes := frame.drop (sizeofEthHdr + sizeofIpHdr)

/-- The pseudo header of the transport message. -/
def framePseudo (frame : Bytes) : Bytes :=
  PseudoHdr.bytes
    { saddr := (frameIp frame).saddr
      daddr := (frameIp frame).daddr
      protocol := (frameIp frame).protocol
      tcpLength := htons (BitVec.ofNat 16 (frameSegment frame).length) }

/-- The frame ends where the IP length says and its header verifies. -/
structure Ipv4WellFormed (frame : Bytes) (protocol : UINT8) : Prop where
  length : frame.length = sizeofEthHdr + (ntohs (frameIp frame).totLen).toNat
  header : checksum (frameIpBytes frame) = 0#16
  proto : (frameIp frame).protocol = protocol

structure TcpWellFormed (frame : Bytes) : Prop extends Ipv4WellFormed frame ipProtoTcp where
  segment : checksum (framePseudo frame ++ frameSegment frame) = 0#16

structure IcmpWellFormed (frame : Bytes) : Prop extends Ipv4WellFormed frame ipProtoIcmp where
  message : checksum (frameSegment frame) = 0#16

/-- The UDP length is 8 plus the payload. -/
structure UdpLengthWellFormed (frame : Bytes) (payloadLen : Nat) : Prop extends Ipv4WellFormed frame ipProtoUdp where
  udpLen : (ntohs (frameUdp frame).len).toNat = sizeofUdpHdr + payloadLen
  payload : (frameSegment frame).length = sizeofUdpHdr + payloadLen

/-- The UDP checksum is present and verifies. -/
structure UdpWellFormed (frame : Bytes) (payloadLen : Nat) : Prop extends UdpLengthWellFormed frame payloadLen where
  nonzero : (frameUdp frame).check ≠ 0#16
  segment : checksum (framePseudo frame ++ frameSegment frame) = 0#16

/-- The DHCP frame leaves the UDP checksum out. -/
structure DhcpWellFormed (frame : Bytes) (payloadLen : Nat) : Prop extends UdpLengthWellFormed frame payloadLen where
  unchecked : (frameUdp frame).check = 0#16

variable {eth : EthHdr} {ip : IpHdr} {rest : Bytes}

theorem frameIp_parts : frameIp (eth.bytes ++ ip.bytes ++ rest) = ip := by
  have stored := ofBytes_bytesAt eth.bytes ip.bytes rest
  rw [EthHdr.bytes_length] at stored
  exact IpHdr.read_stored stored

theorem frameIpBytes_parts : frameIpBytes (eth.bytes ++ ip.bytes ++ rest) = ip.bytes := by
  simp [frameIpBytes, sizeofEthHdr, sizeofIpHdr, List.append_assoc]

theorem frameSegment_parts : frameSegment (eth.bytes ++ ip.bytes ++ rest) = rest := by
  exact List.drop_left' (by simp [sizeofEthHdr, sizeofIpHdr])

theorem frameUdp_parts {udp : UdpHdr} :
    frameUdp (eth.bytes ++ ip.bytes ++ (udp.bytes ++ rest)) = udp := by
  have stored := ofBytes_bytesAt (eth.bytes ++ ip.bytes) udp.bytes rest
  rw [List.length_append, EthHdr.bytes_length, IpHdr.bytes_length, List.append_assoc] at stored
  exact UdpHdr.read_stored stored

/-- A frame of an Ethernet header, a verified IP header and its payload is well formed. -/
theorem ipv4WellFormed_parts {protocol : UINT8} (header : checksum ip.bytes = 0#16)
    (proto : ip.protocol = protocol) (length : (ntohs ip.totLen).toNat = sizeofIpHdr + rest.length) :
    Ipv4WellFormed (eth.bytes ++ ip.bytes ++ rest) protocol where
  length := by
    rw [frameIp_parts, length]
    simp [sizeofEthHdr, sizeofIpHdr]
  header := by rw [frameIpBytes_parts, header]
  proto := by rw [frameIp_parts, proto]

open OnesComplement

/-- The sum of the words of an IP header splits off its checksum field. -/
theorem IpHdr.wordSum_check (ip : IpHdr) (check : UINT16) :
    wordSum (IpHdr.bytes { ip with check }) =
      wordSum (IpHdr.bytes { ip with check := 0#16 }) + check.toNat := by
  simp only [IpHdr.bytes, List.append_assoc, List.cons_append, List.nil_append, wordSum_cons_cons,
    wordSum_le16_append, BitVec.toNat_ofNat, Nat.zero_mod]
  omega

/-- A header with its own checksum verifies. -/
theorem IpHdr.checksum_stored (ip : IpHdr) (zero : ip.check = 0#16) :
    checksum (IpHdr.bytes { ip with check := checksum ip.bytes }) = 0#16 := by
  have bound := wordSum_le (IpHdr.bytes { ip with check := 0#16 })
  rw [IpHdr.bytes_length] at bound
  have stored := NetMath.checksum_stored (fun check => IpHdr.bytes { ip with check }) _
    (IpHdr.wordSum_check ip) (by omega)
  have same : ({ ip with check := 0#16 } : IpHdr) = ip := by cases ip; cases zero; rfl
  simpa only [same] using stored

namespace NetStack

variable (s : NetStack) (protocol : UINT8) (random daddr : UINT32)

theorem ipHeader_checksum (payloadLen : Nat) :
    checksum (s.ipHeader protocol payloadLen random daddr).bytes = 0#16 :=
  IpHdr.checksum_stored _ rfl

theorem ipHeader_totLen {payloadLen : Nat} (fits : sizeofIpHdr + payloadLen < 2 ^ 16) :
    (ntohs (s.ipHeader protocol payloadLen random daddr).totLen).toNat = sizeofIpHdr + payloadLen := by
  simp only [ipHeader, swap16_swap16, BitVec.toNat_ofNat]
  exact Nat.mod_eq_of_lt fits

end NetStack
end UefiNetstack
