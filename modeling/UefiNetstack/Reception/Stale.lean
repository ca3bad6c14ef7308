import UefiNetstack.Reception.Settled
import UefiNetstack.Api.Init

namespace UefiNetstack
open Constants NetMath Words Memory

namespace NetStack

variable {s : NetStack} {frame : RxFrame}

/-- A poll on a frame ends in one state, whatever the packet memory held before Receive. -/
def StaleFree (s : NetStack) (frame : RxFrame) : Prop :=
  ∃ s' : NetStack, ∀ m : Memory,
    (s.withBytes m).pollOn (.frame frame) = some (s'.withBytes (m.write 0 frame.bytes))

/-- A poll dispatches with the frame on the page. -/
theorem pollOn_withBytes (s : NetStack) (frame : RxFrame) (m : Memory) : (s.withBytes m).pollOn (.frame frame) =
    ((s.log (.receive (.frame frame))).withBytes (m.write 0 frame.bytes)).dispatch :=
  rfl

theorem ReadsInside.staleFree (inside : s.ReadsInside frame) : s.StaleFree frame := by
  have logged : (s.log (.receive (.frame frame))).ReadsInside frame :=
    { type := inside.type
      arp := fun isArp => ⟨(inside.arp isArp).oper, (inside.arp isArp).sender, (inside.arp isArp).target⟩
      protocol := inside.protocol
      icmp := fun isIp isIcmp =>
        let message := inside.icmp isIp isIcmp
        ⟨message.type, message.code, message.echo, message.id, message.seq⟩
      udp := fun isIp isUdp =>
        let datagram := inside.udp isIp isUdp
        ⟨datagram.ports, datagram.len, datagram.user, fun forDns => (datagram.dns forDns).of_dns rfl⟩
      tcp := fun isIp isTcp =>
        let segment := inside.tcp isIp isTcp
        ⟨segment.ports, segment.fields, segment.segment⟩ }
  obtain ⟨s', every⟩ := logged.settles
  exact ⟨s', fun m => (pollOn_withBytes s frame m).trans (every _ (received_agree frame m))⟩

/-- A frame with its fixed headers inside, with what its handler copies and with what the resolver parses. -/
structure Contained (s : NetStack) (frame : RxFrame) : Prop where
  headers : frame.HeadersInside
  copies : frame.CopiesInside s
  dns : frame.IsDns s → s.DnsInside frame.alone (frame.transportAt + sizeofUdpHdr)

theorem Contained.staleFree (contained : s.Contained frame) : s.StaleFree frame :=
  (readsInside_of_headers contained.headers contained.copies contained.dns).staleFree

/-- The packet memory with the frame in front of one stale byte. -/
def stalePage (frame : RxFrame) (stale : UINT8) : Memory := Memory.write (fun _ => stale) 0 frame.bytes

theorem stalePage_behind (frame : RxFrame) (stale : UINT8) {p : Nat} (behind : frame.bytes.length ≤ p) :
    stalePage frame stale p = stale :=
  write_outside _ (Or.inr (by omega))

/-- A block that does not show the stale byte lies in the frame. -/
theorem inside_of_same {start len : Nat} (positive : 0 < len)
    (last : ((stalePage frame 0#8).slice start len).getLast? = ((stalePage frame 1#8).slice start len).getLast?) :
    start + len ≤ frame.bytes.length := by
  by_contra outside
  have value (stale : UINT8) : ((stalePage frame stale).slice start len).getLast? = some stale := by
    obtain ⟨short, rfl⟩ := Nat.exists_eq_succ_of_ne_zero (Nat.ne_of_gt positive)
    have behind := stalePage_behind frame stale (show frame.bytes.length ≤ start + short by omega)
    rw [Nat.succ_eq_add_one, Memory.slice_add, List.getLast?_append]
    simp [Memory.slice, behind]
  rw [value, value] at last
  exact absurd last (by decide)

/-- Behind the type and the checksum a reply repeats the message. -/
theorem icmpReply_getLast? {message : Bytes} (long : 4 < message.length) :
    (icmpReply message).getLast? = message.getLast? := by
  have apart (index : Nat) (low : index ≤ 3) : index ≠ message.length - 1 := by omega
  rw [List.getLast?_eq_getElem?, List.getLast?_eq_getElem?, icmpReply_length]
  simp only [icmpReply, put16]
  rw [List.getElem?_take_of_lt (by omega), List.getElem?_set_ne (apart 3 (by decide)),
    List.getElem?_set_ne (apart 2 (by decide)), List.getElem?_set_ne (apart 3 (by decide)),
    List.getElem?_set_ne (apart 2 (by decide)), List.getElem?_set_ne (apart 0 (by decide)),
    List.getElem?_append_left (by omega)]

theorem icmpReplyFrame_getLast? (s : NetStack) (saddr : UINT32) {message : Bytes} (random : UINT32)
    (long : 4 < message.length) : (s.icmpReplyFrame saddr message random).getLast? = message.getLast? := by
  have last : message.getLast? = some (message.getLast (List.ne_nil_of_length_pos (by omega))) :=
    List.getLast?_eq_some_getLast _
  rw [icmpReplyFrame, List.getLast?_append, icmpReply_getLast? long, last, Option.some_or]

/-- An echo sends one frame with the copied message. -/
theorem replyToPing_sent {s s' : NetStack} {ip : IpHdr} {icmpAt : Nat} {len : UINTN}
    (small : (BitVec.ofNat 64 (sizeofEthHdr + sizeofIpHdr) + len).toNat ≤ maxPktSize)
    (done : s.replyToPing ip icmpAt len = some s') : s'.sent = s.sent ++
      [s.getU32.2.icmpReplyFrame ip.saddr (s.rxPkt.byte.slice icmpAt len.toNat) s.getU32.1] := by
  unfold replyToPing at done
  dsimp only at done
  rw [if_neg (Nat.not_lt_of_le small)] at done
  split at done
  · obtain ⟨message, copied, sent⟩ := Option.bind_eq_some_iff.mp done
    have bytes : message.val = s.rxPkt.byte.slice icmpAt len.toNat := MappedMemory.copy_val copied
    have same : s.getU32.2.sent = s.sent := getU32_sent s
    rw [← Option.some.inj sent, sendFrame_sent, ← bytes, ← same]
  · cases done

/-- The user's receive logs what it copies. -/
theorem receiveUser_trace {s s' : NetStack} {udp : UdpHdr} {udpAt : Nat} (copies : s.UserCopies udp)
    (done : s.receiveUser udp udpAt = some s') : s'.dns = s.dns ∧
      s'.trace = s.trace ++ [.udpCopy (s.rxPkt.byte.slice (udpAt + sizeofUdpHdr) (s.userCopyLen udp).toNat)] := by
  obtain ⟨dest, bound, pending, positive⟩ := copies
  obtain ⟨buffer, buffered⟩ := Option.isSome_iff_exists.mp pending
  rw [receiveUser, if_pos ⟨dest, bound⟩, udpDeliver, buffered] at done
  dsimp only at done
  rw [if_pos positive] at done
  obtain ⟨data, copied, stored⟩ := Option.bind_eq_some_iff.mp done
  have bytes : data.val = s.rxPkt.byte.slice (udpAt + sizeofUdpHdr) (s.userCopyLen udp).toNat :=
    MappedMemory.copy_val copied
  rw [← Option.some.inj stored, ← bytes]
  exact ⟨rfl, rfl⟩

/-- The state machine delivers the payload that it copies. -/
theorem onSegment_delivers {s s' : NetStack} {input : TcpInput} {tcpAt : Nat} (copies : s.SegmentCopies input)
    (done : s.onSegment input tcpAt = some s') :
    s'.tcpDelivered = s.tcpDelivered ++ s.rxPkt.byte.slice (tcpAt + input.tcpHlen.toNat) (s.takenLen input) := by
  obtain ⟨noRst, listening, taken⟩ := copies
  have data : input.payloadLen > 0#64 := Nat.lt_of_lt_of_le taken (s.takenLen_le input)
  exact ((onSegment_reaction done).taken_of noRst listening (Or.inl data)).delivered

/-- A stack whose page starts with the frame. -/
structure HasFrame (s : NetStack) (frame : RxFrame) : Prop where
  headers : frame.HeadersInside
  agree : AgreeOn frame.alone.byte s.rxPkt.byte 0 frame.alone.limit

namespace HasFrame

variable (has : s.HasFrame frame)

include has

theorem eth : EthHdr.read s.rxPkt.byte 0 = frame.eth :=
  (EthHdr.read_agree has.agree (Nat.zero_le _) (by rw [Nat.zero_add]; exact has.headers.eth)).symm

theorem ip (isIp : frame.eth.type = htons ethertypeIpv4) : IpHdr.read s.rxPkt.byte sizeofEthHdr = frame.ip :=
  (IpHdr.read_agree has.agree (Nat.zero_le _) (has.headers.ip isIp)).symm

theorem dispatch_icmp (isIp : frame.eth.type = htons ethertypeIpv4) (isIcmp : frame.ip.protocol = ipProtoIcmp) :
    s.dispatch = s.handleIcmp frame.ip frame.transportAt frame.icmpLen :=
  dispatch_toIcmp (has.eth ▸ isIp) (has.ip isIp) isIcmp

theorem dispatch_udp (isIp : frame.eth.type = htons ethertypeIpv4) (isUdp : frame.ip.protocol = ipProtoUdp) :
    s.dispatch = (s.receiveUser frame.udp frame.transportAt).bind (receiveDns frame.udp frame.transportAt) := by
  have udp : UdpHdr.read s.rxPkt.byte frame.transportAt = frame.udp :=
    (UdpHdr.read_agree has.agree (Nat.zero_le _) (has.headers.udp isIp isUdp)).symm
  rw [dispatch_toUdp (has.eth ▸ isIp) (has.ip isIp) isUdp, handleUdp,
    show sizeofEthHdr + (ipHlen frame.ip).toNat = frame.transportAt from rfl, udp]
  rfl

theorem dispatch_tcp (isIp : frame.eth.type = htons ethertypeIpv4) (isTcp : frame.ip.protocol = ipProtoTcp)
    (forTcp : s.ForTcp frame.tcp) : s.dispatch = s.onSegment frame.tcpInput frame.transportAt := by
  have tcp : TcpHdr.read s.rxPkt.byte frame.transportAt = frame.tcp :=
    (TcpHdr.read_agree has.agree (Nat.zero_le _) (has.headers.tcp isIp isTcp)).symm
  rw [← tcp] at forTcp
  rw [dispatch_toTcp (has.eth ▸ isIp) (has.ip isIp) isTcp,
    show sizeofEthHdr + (ipHlen frame.ip).toNat = frame.transportAt from rfl, handleTcp_here forTcp.1 forTcp.2, tcp]
  rfl

theorem dispatch_echo (isIp : frame.eth.type = htons ethertypeIpv4) (isIcmp : frame.ip.protocol = ipProtoIcmp)
    (asks : frame.AsksEcho) : s.dispatch = s.replyToPing frame.ip frame.transportAt frame.icmpLen := by
  have icmp : IcmpHdr.read s.rxPkt.byte frame.transportAt = frame.icmp :=
    (IcmpHdr.read_agree has.agree (Nat.zero_le _) (has.headers.icmp isIp isIcmp)).symm
  rw [has.dispatch_icmp isIp isIcmp, handleIcmp, icmp]
  exact if_pos ⟨asks.1, asks.2.1⟩

end HasFrame

/-- The stack with a frame in front of one stale byte. -/
def staleStack (s : NetStack) (frame : RxFrame) (stale : UINT8) : NetStack :=
  (s.log (.receive (.frame frame))).withBytes (stalePage frame stale)

theorem staleStack_hasFrame (headers : frame.HeadersInside) (stale : UINT8) :
    (s.staleStack frame stale).HasFrame frame where
  headers := headers
  agree := received_agree frame _

/-- A copy of a poll that is free of stale bytes lies in the frame. -/
theorem StaleFree.copiesInside (free : s.StaleFree frame) (headers : frame.HeadersInside) (other : ¬frame.IsDns s) :
    frame.CopiesInside s := by
  obtain ⟨s', every⟩ := free
  have ends (stale : UINT8) : (s.staleStack frame stale).dispatch = some (s'.withBytes (stalePage frame stale)) :=
    every fun _ => stale
  have has (stale : UINT8) := @staleStack_hasFrame s frame headers stale
  refine ⟨fun isIp isIcmp asks => ?_, fun isIp isUdp copies => ?_, fun isIp isTcp forTcp copies => ?_⟩
  · have header := headers.icmp isIp isIcmp
    rw [sizeofIcmpHdr] at header
    by_contra outside
    have sent (stale : UINT8) := replyToPing_sent asks.2.2
      (((has stale).dispatch_echo isIp isIcmp asks).symm.trans (ends stale))
    have frames := List.append_cancel_left ((sent 0#8).symm.trans (sent 1#8))
    have last := congrArg List.getLast? (List.singleton_inj.mp frames)
    rw [icmpReplyFrame_getLast? _ _ _ (by rw [Memory.slice_length]; omega),
      icmpReplyFrame_getLast? _ _ _ (by rw [Memory.slice_length]; omega)] at last
    exact outside (inside_of_same (by omega) last)
  · by_cases positive : 0 < (s.userCopyLen frame.udp).toNat
    · have trace (stale : UINT8) : s'.trace = (s.log (.receive (.frame frame))).trace ++ [.udpCopy
          ((stalePage frame stale).slice (frame.transportAt + sizeofUdpHdr) (s.userCopyLen frame.udp).toNat)] := by
        obtain ⟨middle, user, dns⟩ := Option.bind_eq_some_iff.mp
          (((has stale).dispatch_udp isIp isUdp).symm.trans (ends stale))
        have kept := receiveUser_trace (show (s.staleStack frame stale).UserCopies frame.udp from copies) user
        have skipped : receiveDns frame.udp frame.transportAt middle = some middle := by
          refine if_neg fun forDns => other ⟨isIp, isUdp, ?_⟩
          rw [kept.1] at forDns
          exact forDns
        have same := Option.some.inj (skipped.symm.trans dns)
        exact (congrArg NetStack.trace same).symm.trans kept.2
      have events := List.append_cancel_left ((trace 0#8).symm.trans (trace 1#8))
      have blocks := Event.udpCopy.inj (List.singleton_inj.mp events)
      exact inside_of_same positive (congrArg List.getLast? blocks)
    · have header := headers.udp isIp isUdp
      omega
  · have delivered (stale : UINT8) := onSegment_delivers (show (s.staleStack frame stale).SegmentCopies _ from copies)
      (((has stale).dispatch_tcp isIp isTcp forTcp).symm.trans (ends stale))
    have blocks := List.append_cancel_left ((delivered 0#8).symm.trans (delivered 1#8))
    exact inside_of_same copies.2.2 (congrArg List.getLast? blocks)

/-- A poll is free of stale bytes when all that it reads of the frame lies in it. Of a frame with its
headers inside that is no response for the resolver, it is so only then. -/
theorem poll_staleFree (s : NetStack) (frame : RxFrame) : (s.ReadsInside frame → s.StaleFree frame) ∧
    (frame.HeadersInside → ¬frame.IsDns s → (s.StaleFree frame ↔ s.ReadsInside frame)) := by
  refine ⟨ReadsInside.staleFree, fun headers other => ⟨fun free => ?_, ReadsInside.staleFree⟩⟩
  exact readsInside_of_headers headers (free.copiesInside headers other) fun isDns => absurd isDns other

end NetStack

namespace Scenario

/-- An echo request whose IP length counts sixteen bytes more than the frame has. -/
def shortEcho : RxFrame where
  bytes :=
    EthHdr.bytes { dst := localMac, src := gatewayMac, type := htons ethertypeIpv4 } ++
      IpHdr.bytes
        { ihlVersion := ipVersionIhlDefault, totLen := htons 44, ttl := ipDefaultTtl, protocol := ipProtoIcmp
          saddr := gatewayIp, daddr := localIp } ++
      IcmpHdr.bytes { type := icmpTypeEchoRequest }
  fits := by simp [pktBufSize]

end Scenario

open Scenario in
/-- The echo of a short frame carries old bytes of the page. -/
theorem short_echo_leaks : ¬∀ (s : NetStack) (frame : RxFrame), s.StaleFree frame := by
  intro free
  obtain ⟨s', every⟩ := free (powered []) shortEcho
  have sent (stale : UINT8) : (((powered []).withBytes fun _ => stale).pollOn (.frame shortEcho)).map NetStack.sent =
      some s'.sent := by
    rw [every]
    rfl
  have differ : (((powered []).withBytes fun _ => 0#8).pollOn (.frame shortEcho)).map NetStack.sent ≠
      (((powered []).withBytes fun _ => 1#8).pollOn (.frame shortEcho)).map NetStack.sent := by
    decide +kernel
  exact differ ((sent 0#8).trans (sent 1#8).symm)

end UefiNetstack
