import UefiNetstack.Reception.Unchecked
import UefiNetstack.Session.Segment
import UefiNetstack.Api.Init

namespace UefiNetstack
open Constants NetMath Memory

/-- Where the dispatcher looks for the transport header on a page. -/
def transportOf (m : Memory) : Nat := sizeofEthHdr + (ipHlen (IpHdr.read m sizeofEthHdr)).toNat

/-- A header length below 20 counts as 20. -/
theorem transportOf_eq (m : Memory) :
    transportOf m = sizeofEthHdr + max sizeofIpHdr (((IpHdr.read m sizeofEthHdr).ihlVersion &&& 0x0F#8).toNat * 4) := by
  have small : ((IpHdr.read m sizeofEthHdr).ihlVersion &&& 0x0F#8).toNat < 16 := by
    rw [BitVec.toNat_and]
    exact Nat.lt_of_le_of_lt Nat.and_le_right (by decide)
  have value : (((IpHdr.read m sizeofEthHdr).ihlVersion &&& 0x0F#8).setWidth 64 * 0x04#64).toNat =
      ((IpHdr.read m sizeofEthHdr).ihlVersion &&& 0x0F#8).toNat * 4 := by
    refine nibble_toNat ?_ small rfl
    rw [BitVec.toNat_setWidth]
    exact Nat.mod_eq_of_lt (by omega)
  have least : ipHdrMinLen.toNat = sizeofIpHdr := rfl
  rw [transportOf, ipHlen]
  split
  · rename_i short
    rw [BitVec.lt_def, value, least] at short
    rw [least, Nat.max_eq_left (Nat.le_of_lt short)]
  · rename_i long
    rw [BitVec.lt_def, value, least] at long
    rw [value, Nat.max_eq_right (Nat.le_of_not_lt long)]

theorem transportOf_ge (m : Memory) : 34 ≤ transportOf m := by
  rw [transportOf_eq]
  exact Nat.add_le_add_left (Nat.le_max_left sizeofIpHdr _) sizeofEthHdr

theorem transportOf_le (m : Memory) : transportOf m ≤ 74 := by
  have small : ((IpHdr.read m sizeofEthHdr).ihlVersion &&& 0x0F#8).toNat ≤ 15 := by
    rw [BitVec.toNat_and]
    exact Nat.and_le_right
  rw [transportOf_eq]
  generalize ((IpHdr.read m sizeofEthHdr).ihlVersion &&& 0x0F#8).toNat = words at small
  rw [sizeofEthHdr, sizeofIpHdr]
  omega

/-- A byte of the fragment fields, the header checksum, the destination address or the transport checksum.
A TCP checksum is one of the data where the data offset is below five. -/
inductive Ignored (m : Memory) (p : Nat) : Prop
  | fragOff (lower : 20 ≤ p) (upper : p < 22)
  | check (lower : 24 ≤ p) (upper : p < 26)
  | daddr (lower : 30 ≤ p) (upper : p < 34)
  | icmp (protocol : (IpHdr.read m sizeofEthHdr).protocol = ipProtoIcmp)
      (lower : transportOf m + 2 ≤ p) (upper : p < transportOf m + 4)
  | udp (protocol : (IpHdr.read m sizeofEthHdr).protocol = ipProtoUdp)
      (lower : transportOf m + 6 ≤ p) (upper : p < transportOf m + 8)
  | tcp (protocol : (IpHdr.read m sizeofEthHdr).protocol = ipProtoTcp)
      (offset : 5 ≤ ((ntohs (TcpHdr.read m (transportOf m)).res1DoffFlags >>> 0x0C) &&& 0x0F#16).toNat)
      (lower : transportOf m + 16 ≤ p) (upper : p < transportOf m + 18)

/-- Two pages carry the same packet but for the IP version and the ignored bytes. -/
structure Alike (m m' : Memory) : Prop where
  ihl : m' sizeofEthHdr &&& 0x0F#8 = m sizeofEthHdr &&& 0x0F#8
  same : ∀ p, p ≠ sizeofEthHdr → ¬Ignored m p → m' p = m p

namespace Alike

variable {m m' : Memory} (alike : Alike m m')

theorem refl (m : Memory) : Alike m m := ⟨rfl, fun _ _ _ => rfl⟩

include alike

/-- In front of the transport header the pages agree outside of three fields. -/
theorem header {p : Nat} (front : p < 34) (version : p ≠ sizeofEthHdr) (fragOff : p < 20 ∨ 22 ≤ p)
    (check : p < 24 ∨ 26 ≤ p) (daddr : p < 30) : m' p = m p := by
  have behind := transportOf_ge m
  refine alike.same p version fun ignored => ?_
  cases ignored
  all_goals omega

theorem type : (EthHdr.read m' 0).type = (EthHdr.read m 0).type := by
  have low := @header m m' alike 12 (by decide) (by decide) (by decide) (by decide) (by decide)
  have high := @header m m' alike 13 (by decide) (by decide) (by decide) (by decide) (by decide)
  simp only [EthHdr.read, Memory.load16, Nat.zero_add, low, high]

theorem totLen : (IpHdr.read m' sizeofEthHdr).totLen = (IpHdr.read m sizeofEthHdr).totLen := by
  have low := @header m m' alike 16 (by decide) (by decide) (by decide) (by decide) (by decide)
  have high := @header m m' alike 17 (by decide) (by decide) (by decide) (by decide) (by decide)
  simp only [IpHdr.read, Memory.load16, sizeofEthHdr, Nat.reduceAdd, low, high]

theorem protocol : (IpHdr.read m' sizeofEthHdr).protocol = (IpHdr.read m sizeofEthHdr).protocol :=
  alike.header (by decide) (by decide) (by decide) (by decide) (by decide)

theorem saddr : (IpHdr.read m' sizeofEthHdr).saddr = (IpHdr.read m sizeofEthHdr).saddr := by
  have byte (p : Nat) (lower : 26 ≤ p) (upper : p < 30) : m' p = m p :=
    alike.header (by omega) (by simp only [sizeofEthHdr]; omega) (by omega) (by omega) upper
  simp only [IpHdr.read, Memory.load32, sizeofEthHdr, Nat.reduceAdd, byte 26 (by decide) (by decide),
    byte 27 (by decide) (by decide), byte 28 (by decide) (by decide), byte 29 (by decide) (by decide)]

theorem hlen : ipHlen (IpHdr.read m' sizeofEthHdr) = ipHlen (IpHdr.read m sizeofEthHdr) := by
  have ihl : (IpHdr.read m' sizeofEthHdr).ihlVersion &&& 0x0F#8 = (IpHdr.read m sizeofEthHdr).ihlVersion &&& 0x0F#8 :=
    alike.ihl
  simp only [ipHlen, ihl]

/-- Behind the IP header the pages agree outside of the checksum of the protocol. -/
theorem behind {p : Nat} (late : transportOf m ≤ p)
    (icmp : (IpHdr.read m sizeofEthHdr).protocol = ipProtoIcmp → p < transportOf m + 2 ∨ transportOf m + 4 ≤ p)
    (udp : (IpHdr.read m sizeofEthHdr).protocol = ipProtoUdp → p < transportOf m + 6 ∨ transportOf m + 8 ≤ p)
    (tcp : (IpHdr.read m sizeofEthHdr).protocol = ipProtoTcp →
      5 ≤ ((ntohs (TcpHdr.read m (transportOf m)).res1DoffFlags >>> 0x0C) &&& 0x0F#16).toNat →
      p < transportOf m + 16 ∨ transportOf m + 18 ≤ p) : m' p = m p := by
  have reached := transportOf_ge m
  refine alike.same p (by simp only [sizeofEthHdr]; omega) fun ignored => ?_
  cases ignored with
  | fragOff lower upper => omega
  | check lower upper => omega
  | daddr lower upper => omega
  | icmp protocol lower upper => have outside := icmp protocol; omega
  | udp protocol lower upper => have outside := udp protocol; omega
  | tcp protocol offset lower upper => have outside := tcp protocol offset; omega

end Alike

namespace NetStack

variable {s : NetStack} {m : Memory} {past : List Event}

/-- The header length of a segment is its data offset in bytes. -/
theorem tcpHlen_toNat (ip : IpHdr) (tcp : TcpHdr) : (TcpInput.ofHeaders ip tcp).tcpHlen.toNat =
    ((ntohs tcp.res1DoffFlags >>> 0x0C) &&& 0x0F#16).toNat * 4 := by
  have small : ((ntohs tcp.res1DoffFlags >>> 0x0C) &&& 0x0F#16).toNat < 16 := by
    rw [BitVec.toNat_and]
    exact Nat.lt_of_le_of_lt Nat.and_le_right (by decide)
  refine nibble_toNat ?_ small rfl
  rw [BitVec.toNat_setWidth]
  exact Nat.mod_eq_of_lt (by omega)

/-- A segment on an alike page is the same segment with the same payload. -/
theorem handleTcp_follows (alike : Alike s.rxPkt.byte m)
    (protocol : (IpHdr.read s.rxPkt.byte sizeofEthHdr).protocol = ipProtoTcp) :
    (s.onPage m past).handleTcp (IpHdr.read m sizeofEthHdr) (transportOf s.rxPkt.byte) =
      (s.handleTcp (IpHdr.read s.rxPkt.byte sizeofEthHdr) (transportOf s.rxPkt.byte)).map (onPage m past) := by
  have notIcmp : (IpHdr.read s.rxPkt.byte sizeofEthHdr).protocol ≠ ipProtoIcmp := by rw [protocol]; decide
  have notUdp : (IpHdr.read s.rxPkt.byte sizeofEthHdr).protocol ≠ ipProtoUdp := by rw [protocol]; decide
  generalize place : transportOf s.rxPkt.byte = tcpAt
  have byte (offset : Nat) (front : offset < 16) : m (tcpAt + offset) = s.rxPkt.byte (tcpAt + offset) :=
    alike.behind (by omega) (fun icmp => absurd icmp notIcmp) (fun udp => absurd udp notUdp)
      fun _ _ => Or.inl (by omega)
  have word (offset : Nat) (front : offset < 15) :
      m.load16 (tcpAt + offset) = s.rxPkt.byte.load16 (tcpAt + offset) := by
    have high := byte (offset + 1) (by omega)
    simp only [Memory.load16, Nat.add_assoc, byte offset (by omega), high]
  have long (offset : Nat) (front : offset < 13) :
      m.load32 (tcpAt + offset) = s.rxPkt.byte.load32 (tcpAt + offset) := by
    have second := byte (offset + 1) (by omega)
    have third := byte (offset + 2) (by omega)
    have fourth := byte (offset + 3) (by omega)
    simp only [Memory.load32, Nat.add_assoc, byte offset (by omega), second, third, fourth]
  have dest : (TcpHdr.read m tcpAt).dest = (TcpHdr.read s.rxPkt.byte tcpAt).dest := word 2 (by decide)
  have seq : (TcpHdr.read m tcpAt).seq = (TcpHdr.read s.rxPkt.byte tcpAt).seq := long 4 (by decide)
  have ackSeq : (TcpHdr.read m tcpAt).ackSeq = (TcpHdr.read s.rxPkt.byte tcpAt).ackSeq := long 8 (by decide)
  have flags : (TcpHdr.read m tcpAt).res1DoffFlags = (TcpHdr.read s.rxPkt.byte tcpAt).res1DoffFlags :=
    word 12 (by decide)
  have ihl : (IpHdr.read m sizeofEthHdr).ihlVersion &&& 0x0F#8 =
      (IpHdr.read s.rxPkt.byte sizeofEthHdr).ihlVersion &&& 0x0F#8 := alike.ihl
  have input : TcpInput.ofHeaders (IpHdr.read m sizeofEthHdr) (TcpHdr.read m tcpAt) =
      TcpInput.ofHeaders (IpHdr.read s.rxPkt.byte sizeofEthHdr) (TcpHdr.read s.rxPkt.byte tcpAt) := by
    simp only [TcpInput.ofHeaders, alike.totLen, ihl, seq, ackSeq, flags]
  have agrees : s.AgreesFrom m (tcpAt +
      (TcpInput.ofHeaders (IpHdr.read s.rxPkt.byte sizeofEthHdr) (TcpHdr.read s.rxPkt.byte tcpAt)).tcpHlen.toNat) := by
    intro p late
    rw [tcpHlen_toNat] at late
    refine (alike.behind (by omega) (fun icmp => absurd icmp notIcmp) (fun udp => absurd udp notUdp) ?_).symm
    intro _ offset
    rw [place] at offset ⊢
    exact Or.inr (by omega)
  have follows := @onSegment_follows s m past _ tcpAt agrees
  unfold handleTcp
  change (if ntohs (TcpHdr.read m tcpAt).dest ≠ s.tcp.localPort ∨ s.tcp.localPort = 0#16 then _ else
    (s.onPage m past).onSegment (TcpInput.ofHeaders (IpHdr.read m sizeofEthHdr) (TcpHdr.read m tcpAt)) tcpAt) = _
  rw [dest, input]
  split
  · rw [if_pos (by assumption)]
    rfl
  · rw [if_neg (by assumption)]
    exact follows

/-- The dispatcher does the same on alike pages. -/
theorem dispatch_follows (alike : Alike s.rxPkt.byte m)
    (ipv4 : (EthHdr.read s.rxPkt.byte 0).type = htons ethertypeIpv4) : Follows m past dispatch s := by
  have here : s.dispatch = s.dispatchIp := dispatch_ipv4 ipv4
  have there : (s.onPage m past).dispatch = (s.onPage m past).dispatchIp := dispatch_ipv4 (alike.type.trans ipv4)
  have place : sizeofEthHdr + (ipHlen (IpHdr.read m sizeofEthHdr)).toNat = transportOf s.rxPkt.byte := by
    rw [alike.hlen]
    rfl
  rw [Follows, here, there]
  unfold dispatchIp
  change (if (IpHdr.read m sizeofEthHdr).protocol = ipProtoIcmp then
      (s.onPage m past).handleIcmp (IpHdr.read m sizeofEthHdr)
        (sizeofEthHdr + (ipHlen (IpHdr.read m sizeofEthHdr)).toNat)
        ((ntohs (IpHdr.read m sizeofEthHdr).totLen).setWidth 64 - ipHlen (IpHdr.read m sizeofEthHdr))
    else if (IpHdr.read m sizeofEthHdr).protocol = ipProtoUdp then
      (s.onPage m past).handleUdp (sizeofEthHdr + (ipHlen (IpHdr.read m sizeofEthHdr)).toNat)
    else if (IpHdr.read m sizeofEthHdr).protocol = ipProtoTcp then
      (s.onPage m past).handleTcp (IpHdr.read m sizeofEthHdr)
        (sizeofEthHdr + (ipHlen (IpHdr.read m sizeofEthHdr)).toNat)
    else some (s.onPage m past)) = Option.map (onPage m past)
      (if (IpHdr.read s.rxPkt.byte sizeofEthHdr).protocol = ipProtoIcmp then
        s.handleIcmp (IpHdr.read s.rxPkt.byte sizeofEthHdr) (transportOf s.rxPkt.byte) _
      else if (IpHdr.read s.rxPkt.byte sizeofEthHdr).protocol = ipProtoUdp then
        s.handleUdp (transportOf s.rxPkt.byte)
      else if (IpHdr.read s.rxPkt.byte sizeofEthHdr).protocol = ipProtoTcp then
        s.handleTcp (IpHdr.read s.rxPkt.byte sizeofEthHdr) (transportOf s.rxPkt.byte)
      else some s)
  rw [place, alike.hlen, alike.totLen, alike.protocol]
  split
  · rename_i icmp
    refine handleIcmp_follows alike.saddr fun index second third => ?_
    refine alike.behind (Nat.le_add_right _ _) (fun _ => by omega) (fun udp => ?_) fun tcp => ?_
    · exact absurd (icmp.symm.trans udp) (by decide)
    · exact absurd (icmp.symm.trans tcp) (by decide)
  · rename_i notIcmp
    split
    · rename_i udp
      have byte (p : Nat) (late : transportOf s.rxPkt.byte ≤ p)
          (outside : p < transportOf s.rxPkt.byte + 6 ∨ transportOf s.rxPkt.byte + 8 ≤ p) : m p = s.rxPkt.byte p :=
        alike.behind late (fun icmp => absurd icmp notIcmp) (fun _ => outside)
          fun tcp => absurd (udp.symm.trans tcp) (by decide)
      have word (offset : Nat) (front : offset < 5) : m.load16 (transportOf s.rxPkt.byte + offset) =
          s.rxPkt.byte.load16 (transportOf s.rxPkt.byte + offset) := by
        have low := byte (transportOf s.rxPkt.byte + offset) (by omega) (by omega)
        have high := byte (transportOf s.rxPkt.byte + offset + 1) (by omega) (by omega)
        simp only [Memory.load16, low, high]
      exact handleUdp_follows (word 0 (by decide)) (word 2 (by decide)) (word 4 (by decide)) fun p late =>
        (byte p (Nat.le_of_add_right_le late) (Or.inr late)).symm
    · split
      · rename_i tcp
        exact handleTcp_follows alike tcp
      · rfl

/-- The packet on the page is an echo request, the awaited echo reply, a datagram for the user's receive or
for the resolver, or a segment for the session. -/
inductive Addressed (s : NetStack) : Prop
  | echoRequest (protocol : (IpHdr.read s.rxPkt.byte sizeofEthHdr).protocol = ipProtoIcmp)
      (type : (IcmpHdr.read s.rxPkt.byte (transportOf s.rxPkt.byte)).type = icmpTypeEchoRequest)
      (code : (IcmpHdr.read s.rxPkt.byte (transportOf s.rxPkt.byte)).code = icmpCodeZero)
  | echoReply (protocol : (IpHdr.read s.rxPkt.byte sizeofEthHdr).protocol = ipProtoIcmp)
      (type : (IcmpHdr.read s.rxPkt.byte (transportOf s.rxPkt.byte)).type = icmpTypeEchoReply)
      (id : ntohs (IcmpHdr.read s.rxPkt.byte (transportOf s.rxPkt.byte)).id = s.ping.id)
      (seq : ntohs (IcmpHdr.read s.rxPkt.byte (transportOf s.rxPkt.byte)).seq = s.ping.seq)
  | user (protocol : (IpHdr.read s.rxPkt.byte sizeofEthHdr).protocol = ipProtoUdp)
      (dest : ntohs (UdpHdr.read s.rxPkt.byte (transportOf s.rxPkt.byte)).dest = s.udp.localPort)
      (bound : s.udp.localPort ≠ 0#16)
  | resolver (protocol : (IpHdr.read s.rxPkt.byte sizeofEthHdr).protocol = ipProtoUdp)
      (forDns : s.ForDns (UdpHdr.read s.rxPkt.byte (transportOf s.rxPkt.byte)))
  | segment (protocol : (IpHdr.read s.rxPkt.byte sizeofEthHdr).protocol = ipProtoTcp)
      (forTcp : s.ForTcp (TcpHdr.read s.rxPkt.byte (transportOf s.rxPkt.byte)))

/-- A packet for nobody is dropped. -/
theorem dispatch_drops (ipv4 : (EthHdr.read s.rxPkt.byte 0).type = htons ethertypeIpv4) (nobody : ¬s.Addressed) :
    s.dispatch = some s := by
  rw [dispatch_ipv4 ipv4]
  unfold dispatchIp
  change (if (IpHdr.read s.rxPkt.byte sizeofEthHdr).protocol = ipProtoIcmp then
      s.handleIcmp (IpHdr.read s.rxPkt.byte sizeofEthHdr) (transportOf s.rxPkt.byte) _
    else if (IpHdr.read s.rxPkt.byte sizeofEthHdr).protocol = ipProtoUdp then
      s.handleUdp (transportOf s.rxPkt.byte)
    else if (IpHdr.read s.rxPkt.byte sizeofEthHdr).protocol = ipProtoTcp then
      s.handleTcp (IpHdr.read s.rxPkt.byte sizeofEthHdr) (transportOf s.rxPkt.byte)
    else some s) = some s
  split
  · rename_i icmp
    unfold handleIcmp
    dsimp only
    rw [if_neg fun request => nobody (.echoRequest icmp request.1 request.2)]
    split
    · rename_i reply
      exact if_neg fun own => nobody (.echoReply icmp reply own.1 own.2)
    · rfl
  · split
    · rename_i udp
      have user : s.receiveUser (UdpHdr.read s.rxPkt.byte (transportOf s.rxPkt.byte)) (transportOf s.rxPkt.byte) = some s :=
        if_neg fun wanted => nobody (.user udp wanted.1 wanted.2)
      have dns : s.receiveDns (UdpHdr.read s.rxPkt.byte (transportOf s.rxPkt.byte)) (transportOf s.rxPkt.byte) = some s :=
        if_neg fun wanted => nobody (.resolver udp wanted)
      exact Option.bind_eq_some_iff.mpr ⟨s, user, dns⟩
    · split
      · rename_i tcp
        exact handleTcp_elsewhere fun here => nobody (.segment tcp here)
      · rfl

/-- The stack with a frame on its page and no trace. -/
def fresh (s : NetStack) (frame : RxFrame) : NetStack := { s with rxPkt := s.rxPkt.receive frame, trace := [] }

theorem landed_eq_onPage (s : NetStack) (frame frame' : RxFrame) : s.landed frame' =
    (s.fresh frame).onPage (s.rxPkt.byte.write 0 frame'.bytes) (s.trace ++ [.receive (.frame frame')]) := by
  unfold onPage fresh
  rw [List.append_nil]
  rfl

/-- A poll that changes no protocol variable, sends nothing and copies nothing. -/
def Drops (s : NetStack) (frame : RxFrame) : Prop :=
  ∃ s' : NetStack, s.pollOn (.frame frame) = some s' ∧ SameProtocolState s s' ∧ s'.sent = s.sent ∧ s'.copies = s.copies

/-- Of the packets in IPv4 frames a poll drops those that are not for the stack. It counts a header length
below 20 as 20, and what it does is the same for every frame that puts an alike packet on the page: with any
IP version, fragment fields, header checksum, destination address and transport checksum, and of any length. -/
theorem poll_acceptance (s : NetStack) (frame : RxFrame)
    (ipv4 : (EthHdr.read (s.landed frame).rxPkt.byte 0).type = htons ethertypeIpv4) :
    (¬(s.landed frame).Addressed → s.Drops frame) ∧
    transportOf (s.landed frame).rxPkt.byte = sizeofEthHdr + max sizeofIpHdr
      (((IpHdr.read (s.landed frame).rxPkt.byte sizeofEthHdr).ihlVersion &&& 0x0F#8).toNat * 4) ∧
    ∀ frame' : RxFrame, Alike (s.landed frame).rxPkt.byte (s.landed frame').rxPkt.byte →
      ∃ outcome : Option NetStack,
        s.pollOn (.frame frame) =
          outcome.map (onPage (s.landed frame).rxPkt.byte (s.trace ++ [.receive (.frame frame)])) ∧
        s.pollOn (.frame frame') =
          outcome.map (onPage (s.landed frame').rxPkt.byte (s.trace ++ [.receive (.frame frame')])) := by
  refine ⟨?_, transportOf_eq _, ?_⟩
  · intro nobody
    refine ⟨s.landed frame, dispatch_drops ipv4 nobody, ⟨rfl, rfl, rfl, rfl, rfl, rfl, rfl, rfl⟩, ?_, ?_⟩
    · exact received_landed_sent s frame
    · exact (s.landed_copiesNothing frame).copies
  · intro frame' alike
    refine ⟨(s.fresh frame).dispatch, ?_, ?_⟩
    · refine (congrArg dispatch (landed_eq_onPage s frame frame)).trans ?_
      exact dispatch_follows (Alike.refl _) ipv4
    · refine (congrArg dispatch (landed_eq_onPage s frame frame')).trans ?_
      exact dispatch_follows alike ipv4

end NetStack

/-- The payload of the packet in a frame, as its length fields give it. -/
def RxFrame.transport (frame : RxFrame) : Bytes :=
  frame.alone.byte.slice frame.transportAt ((ntohs frame.ip.totLen).toNat - (ipHlen frame.ip).toNat)

/-- A host that verifies what it receives would take the packet of a frame. -/
structure RxFrame.Acceptable (frame : RxFrame) (myIp : UINT32) : Prop where
  version : frame.ip.ihlVersion >>> 4 = 0x04#8
  ihl : 5 ≤ (frame.ip.ihlVersion &&& 0x0F#8).toNat
  check : checksum (frame.alone.byte.slice sizeofEthHdr (ipHlen frame.ip).toNat) = 0#16
  totLen : sizeofEthHdr + (ntohs frame.ip.totLen).toNat ≤ frame.bytes.length
  whole : ntohs frame.ip.fragOff &&& 0x3FFF#16 = 0#16
  daddr : frame.ip.daddr = myIp
  icmp : frame.ip.protocol = ipProtoIcmp → checksum frame.transport = 0#16
  udp : frame.ip.protocol = ipProtoUdp → frame.udp.check = 0#16 ∨ pseudoChecksum frame.ip.saddr frame.ip.daddr
    ipProtoUdp frame.transport (BitVec.ofNat 16 frame.transport.length) = 0#16
  tcp : frame.ip.protocol = ipProtoTcp → pseudoChecksum frame.ip.saddr frame.ip.daddr ipProtoTcp frame.transport
    (BitVec.ofNat 16 frame.transport.length) = 0#16

namespace Scenario

/-- The packet of an ICMP message without data. -/
def icmpPacket (ip : IpHdr) (icmp : IcmpHdr) : RxFrame where
  bytes := EthHdr.bytes { dst := localMac, src := gatewayMac, type := htons ethertypeIpv4 } ++ ip.bytes ++ icmp.bytes
  fits := by simp [pktBufSize]

/-- An echo request for the local address. -/
def plainEcho : RxFrame :=
  let ip : IpHdr :=
    { ihlVersion := ipVersionIhlDefault, totLen := htons 28, ttl := ipDefaultTtl, protocol := ipProtoIcmp
      saddr := gatewayIp, daddr := localIp }
  let icmp : IcmpHdr := { type := icmpTypeEchoRequest }
  icmpPacket { ip with check := checksum ip.bytes } { icmp with checksum := checksum icmp.bytes }

/-- The same request as a fragment of IP version 6 for another address, with wrong checksums. -/
def garbledEcho : RxFrame :=
  icmpPacket
    { ihlVersion := 0x65, totLen := htons 28, fragOff := htons 0x2005, ttl := ipDefaultTtl, protocol := ipProtoIcmp
      check := 0xBEEF, saddr := gatewayIp, daddr := remoteIp }
    { type := icmpTypeEchoRequest, checksum := 0xBEEF }

/-- An echo reply that nobody waits for. -/
def strayReply : RxFrame :=
  icmpPacket
    { ihlVersion := ipVersionIhlDefault, totLen := htons 28, ttl := ipDefaultTtl, protocol := ipProtoIcmp
      saddr := gatewayIp, daddr := localIp }
    { type := icmpTypeEchoReply, id := htons 7 }

theorem strayReply_unaddressed : ¬((powered []).landed strayReply).Addressed := by
  intro addressed
  cases addressed with
  | echoRequest protocol type code => exact absurd type (by decide +kernel)
  | echoReply protocol type id seq => exact absurd id (by decide +kernel)
  | user protocol dest bound => exact absurd protocol (by decide +kernel)
  | resolver protocol forDns => exact absurd protocol (by decide +kernel)
  | segment protocol forTcp => exact absurd protocol (by decide +kernel)

theorem echo_alike : Alike ((powered []).landed plainEcho).rxPkt.byte ((powered []).landed garbledEcho).rxPkt.byte where
  ihl := by decide +kernel
  same := by
    intro p version checked
    by_cases inside : p < 42
    · have bytes : ∀ p < 42, p = sizeofEthHdr ∨ (20 ≤ p ∧ p < 22) ∨ (24 ≤ p ∧ p < 26) ∨ (30 ≤ p ∧ p < 34) ∨
          (transportOf ((powered []).landed plainEcho).rxPkt.byte + 2 ≤ p ∧
            p < transportOf ((powered []).landed plainEcho).rxPkt.byte + 4) ∨
          ((powered []).landed garbledEcho).rxPkt.byte p = ((powered []).landed plainEcho).rxPkt.byte p := by
        decide +kernel
      rcases bytes p inside with first | fragOff | check | daddr | icmp | same
      · exact absurd first version
      · exact absurd (.fragOff fragOff.1 fragOff.2) checked
      · exact absurd (.check check.1 check.2) checked
      · exact absurd (.daddr daddr.1 daddr.2) checked
      · exact absurd (.icmp (by decide +kernel) icmp.1 icmp.2) checked
      · exact same
    · have outside (frame : RxFrame) (length : frame.bytes.length = 42) :
          ((powered []).landed frame).rxPkt.byte p = (powered []).rxPkt.byte p :=
        @write_outside (powered []).rxPkt.byte 0 p frame.bytes (Or.inr (by omega))
      rw [outside garbledEcho (by decide +kernel), outside plainEcho (by decide +kernel)]

end Scenario

open Scenario in
/-- The stack drops a stray reply, and answers the garbled request as it answers the plain one. -/
theorem NetStack.poll_acceptance_echo : (powered []).Drops strayReply ∧ ∃ outcome : Option NetStack,
    (powered []).pollOn (.frame plainEcho) = outcome.map (NetStack.onPage ((powered []).landed plainEcho).rxPkt.byte
      ((powered []).trace ++ [.receive (.frame plainEcho)])) ∧
    (powered []).pollOn (.frame garbledEcho) = outcome.map (NetStack.onPage
      ((powered []).landed garbledEcho).rxPkt.byte ((powered []).trace ++ [.receive (.frame garbledEcho)])) :=
  ⟨(NetStack.poll_acceptance (powered []) strayReply (by decide +kernel)).1 strayReply_unaddressed,
    (NetStack.poll_acceptance (powered []) plainEcho (by decide +kernel)).2.2 garbledEcho echo_alike⟩

open Scenario in
/-- The poll answers an echo request that fails the checks. -/
theorem NetStack.garbled_echo_answered : ¬∀ (s : NetStack) (frame : RxFrame),
    (EthHdr.read (s.landed frame).rxPkt.byte 0).type = htons ethertypeIpv4 →
      ¬frame.Acceptable s.identity.myIp → s.Drops frame := by
  intro drops
  have rejected : ¬garbledEcho.Acceptable (powered []).identity.myIp := fun acceptable =>
    absurd acceptable.version (by decide +kernel)
  obtain ⟨s', done, -, sent, -⟩ := drops (powered []) garbledEcho (by decide +kernel) rejected
  have answered : ((powered []).pollOn (.frame garbledEcho)).map NetStack.sent ≠ some (powered []).sent := by
    decide +kernel
  rw [done, Option.map_some, sent] at answered
  exact answered rfl

end UefiNetstack
