import UefiNetstack.Session.Moves

namespace UefiNetstack
open Words Memory Constants

/-- A TCP segment in an Ethernet frame: the headers with their options, the payload and what pads
the frame. The length fields describe the parts. -/
structure SegmentFrame where
  eth : EthHdr
  ip : IpHdr
  ipOptions : Bytes
  tcp : TcpHdr
  tcpOptions : Bytes
  data : Bytes
  padding : Bytes
  type : eth.type = htons ethertypeIpv4
  protocol : ip.protocol = ipProtoTcp
  ihl : (ip.ihlVersion &&& 0x0F#8).toNat * 4 = sizeofIpHdr + ipOptions.length
  doff : ((ntohs tcp.res1DoffFlags >>> 0x0C) &&& 0x0F#16).toNat * 4 = sizeofTcpHdr + tcpOptions.length
  totLen : (ntohs ip.totLen).toNat =
    sizeofIpHdr + ipOptions.length + (sizeofTcpHdr + tcpOptions.length) + data.length

/-- The header length counts four bits of words. -/
theorem nibble_toNat {x : BitVec 64} {words total : Nat} (value : x.toNat = words) (small : words < 16)
    (bytes : words * 4 = total) : (x * 0x04#64).toNat = total := by
  rw [BitVec.toNat_mul, value]
  simp only [BitVec.toNat_ofNat]
  omega

/-- The IP header length counts the options. -/
theorem ihl_of_options {ip : IpHdr} {options : Nat}
    (ihl : (ip.ihlVersion &&& 0x0F#8).toNat * 4 = sizeofIpHdr + options) :
    ((ip.ihlVersion &&& 0x0F#8).setWidth 64 * 0x04#64).toNat = sizeofIpHdr + options := by
  refine nibble_toNat ?_ ?_ ihl
  · rw [BitVec.toNat_setWidth]
    exact Nat.mod_eq_of_lt (by have := (ip.ihlVersion &&& 0x0F#8).isLt; omega)
  · rw [BitVec.toNat_and]
    exact Nat.lt_of_le_of_lt Nat.and_le_right (by decide)

/-- A header that is not shorter than the smallest one has its own length for the dispatcher. -/
theorem ipHlen_of_options {ip : IpHdr} {options : Nat}
    (ihl : (ip.ihlVersion &&& 0x0F#8).toNat * 4 = sizeofIpHdr + options) :
    (ipHlen ip).toNat = sizeofIpHdr + options := by
  have value := ihl_of_options ihl
  unfold ipHlen
  dsimp only
  rw [if_neg]
  · exact value
  · rw [BitVec.lt_def, value]
    simp [ipHdrMinLen, sizeofIpHdr]

namespace SegmentFrame

variable (f : SegmentFrame)

def bytes : Bytes :=
  f.eth.bytes ++ f.ip.bytes ++ f.ipOptions ++ f.tcp.bytes ++ f.tcpOptions ++ f.data ++ f.padding

/-- Where the TCP header starts. -/
def tcpAt : Nat := sizeofEthHdr + (sizeofIpHdr + f.ipOptions.length)

/-- What the handler computes from the headers. -/
def input : TcpInput := TcpInput.ofHeaders f.ip f.tcp

theorem ihl_toNat : ((f.ip.ihlVersion &&& 0x0F#8).setWidth 64 * 0x04#64).toNat =
    sizeofIpHdr + f.ipOptions.length :=
  ihl_of_options f.ihl

/-- The dispatcher finds where the header ends. -/
theorem ipHlen_toNat : (ipHlen f.ip).toNat = sizeofIpHdr + f.ipOptions.length := ipHlen_of_options f.ihl

theorem input_tcpHlen : f.input.tcpHlen.toNat = sizeofTcpHdr + f.tcpOptions.length := by
  refine nibble_toNat ?_ ?_ f.doff
  · rw [BitVec.toNat_setWidth]
    exact Nat.mod_eq_of_lt (by have := ((ntohs f.tcp.res1DoffFlags >>> 0x0C) &&& 0x0F#16).isLt; omega)
  · rw [BitVec.toNat_and]
    exact Nat.lt_of_le_of_lt Nat.and_le_right (by decide)

/-- The difference of the length fields is the length of the payload. -/
theorem input_payloadLen : f.input.payloadLen.toNat = f.data.length := by
  have total := f.totLen
  have small := (ntohs f.ip.totLen).isLt
  have ihl := f.ihl_toNat
  have hlen := f.input_tcpHlen
  change ((ntohs f.ip.totLen).setWidth 64 - (f.ip.ihlVersion &&& 0x0F#8).setWidth 64 * 0x04#64 -
    f.input.tcpHlen).toNat = _
  rw [BitVec.toNat_sub, BitVec.toNat_sub, ihl, hlen, BitVec.toNat_setWidth, total]
  rw [total] at small
  omega

variable {f} {s : NetStack} {frame : RxFrame}

/-- The received bytes lie at the start of the page. -/
theorem landed_stored (same : frame.bytes = f.bytes) : BytesAt (s.landed frame).rxPkt.byte 0 f.bytes := by
  rw [← same]
  exact write_bytesAt s.rxPkt.byte 0 frame.bytes

/-- The parts of the frame lie one behind the other. -/
theorem stored_parts {m : Memory} (stored : BytesAt m 0 f.bytes) :
    EthHdr.read m 0 = f.eth ∧ IpHdr.read m sizeofEthHdr = f.ip ∧ TcpHdr.read m f.tcpAt = f.tcp ∧
      m.slice (f.tcpAt + f.input.tcpHlen.toNat) f.data.length = f.data := by
  simp only [bytes, bytesAt_append_iff, List.length_append, EthHdr.bytes_length, IpHdr.bytes_length,
    TcpHdr.bytes_length, Nat.zero_add] at stored
  obtain ⟨⟨⟨⟨⟨⟨eth, ip⟩, -⟩, tcp⟩, -⟩, data⟩, -⟩ := stored
  refine ⟨EthHdr.read_stored eth, IpHdr.read_stored ip, ?_, ?_⟩
  · have place : f.tcpAt = 14 + 20 + f.ipOptions.length := by simp only [tcpAt, sizeofEthHdr, sizeofIpHdr]; omega
    rw [place]
    exact TcpHdr.read_stored tcp
  · have place : f.tcpAt + f.input.tcpHlen.toNat = 14 + 20 + f.ipOptions.length + 20 + f.tcpOptions.length := by
      rw [f.input_tcpHlen]
      simp only [tcpAt, sizeofEthHdr, sizeofIpHdr, sizeofTcpHdr]
      omega
    rw [place]
    exact bytesAt_iff_slice.mp data

/-- A frame for the local port arrives as the segment that was sent. -/
theorem arrivalOn_eq (same : frame.bytes = f.bytes) (dest : ntohs f.tcp.dest = s.tcp.localPort)
    (bound : s.tcp.localPort ≠ 0#16) : s.arrivalOn (.frame frame) = some (f.input, f.tcpAt) := by
  obtain ⟨eth, ip, tcp, -⟩ := stored_parts (landed_stored same (s := s))
  have place : sizeofEthHdr + (ipHlen f.ip).toNat = f.tcpAt := by rw [f.ipHlen_toNat]; rfl
  change (s.landed frame).arrival = _
  unfold NetStack.arrival
  dsimp only
  rw [eth, ip, place, tcp]
  exact if_pos ⟨f.type, f.protocol, dest, bound⟩

end SegmentFrame

namespace Scenario

theorem noData_fits : ([] : Bytes).length ≤ 1460 := Nat.zero_le _

/-- A segment from an address and a port to the local port of the scenario. -/
def segmentFrom (saddr : UINT32) (source : UINT16) (flags : UINT8) (seq ack : UINT32) (data : Bytes)
    (fits : data.length ≤ 1460) : SegmentFrame where
  eth := { dst := localMac, src := gatewayMac, type := htons ethertypeIpv4 }
  ip :=
    { ihlVersion := ipVersionIhlDefault
      totLen := htons (BitVec.ofNat 16 (sizeofIpHdr + sizeofTcpHdr + data.length))
      protocol := ipProtoTcp
      saddr
      daddr := localIp }
  ipOptions := []
  tcp :=
    { source := htons source
      dest := htons localPort
      seq := htonl seq
      ackSeq := htonl ack
      res1DoffFlags := htons ((tcpDataOffset5.setWidth 16 <<< 0x0C) ||| flags.setWidth 16) }
  tcpOptions := []
  data
  padding := []
  type := rfl
  protocol := rfl
  ihl := by
    change (ipVersionIhlDefault &&& 0x0F#8).toNat * 4 = 20
    decide
  doff := by
    have words : ∀ flags : UINT8, ((tcpDataOffset5.setWidth 16 <<< 0x0C ||| flags.setWidth 16) >>> 0x0C &&&
        0x0F#16) = 5#16 := by decide
    simp only [swap16_swap16, words]
    rfl
  totLen := by
    simp only [swap16_swap16, BitVec.toNat_ofNat, sizeofIpHdr, sizeofTcpHdr, List.length_nil]
    omega

end Scenario
end UefiNetstack
