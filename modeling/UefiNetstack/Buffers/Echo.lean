import UefiNetstack.Reception.Acceptance

namespace UefiNetstack
open Constants Memory

namespace NetStack

variable {s : NetStack}

/-- The IPv4 header on the receive page. -/
def pageIp (s : NetStack) : IpHdr := IpHdr.read s.rxPkt.byte sizeofEthHdr

/-- The ICMP header that the dispatcher finds on the page. -/
def pageIcmp (s : NetStack) : IcmpHdr := IcmpHdr.read s.rxPkt.byte (transportOf s.rxPkt.byte)

/-- The length that the dispatcher hands to the handler. -/
def pageIcmpLen (s : NetStack) : UINTN := (ntohs s.pageIp.totLen).setWidth 64 - ipHlen s.pageIp

/-- The dispatcher hands the page to `handle_icmp`. -/
def ReachesIcmp (s : NetStack) : Prop :=
  (EthHdr.read s.rxPkt.byte 0).type = htons ethertypeIpv4 ∧ s.pageIp.protocol = ipProtoIcmp

/-- The handler takes the message for an echo request and uses its length. -/
def AsksEcho (s : NetStack) : Prop := s.pageIcmp.type = icmpTypeEchoRequest ∧ s.pageIcmp.code = icmpCodeZero

instance : Decidable s.ReachesIcmp := inferInstanceAs (Decidable (_ ∧ _))

instance : Decidable s.AsksEcho := inferInstanceAs (Decidable (_ ∧ _))

theorem dispatch_icmp (reaches : s.ReachesIcmp) :
    s.dispatch = s.handleIcmp s.pageIp (transportOf s.rxPkt.byte) s.pageIcmpLen :=
  dispatch_toIcmp reaches.1 rfl reaches.2

theorem handleIcmp_request (asks : s.AsksEcho) (ip : IpHdr) (len : UINTN) :
    s.handleIcmp ip (transportOf s.rxPkt.byte) len = s.replyToPing ip (transportOf s.rxPkt.byte) len :=
  if_pos asks

/-- A message that asks for no echo is not answered, whatever its length is. -/
theorem handleIcmp_silent (asks : ¬s.AsksEcho) (ip : IpHdr) (len : UINTN) :
    ∃ s', s.handleIcmp ip (transportOf s.rxPkt.byte) len = some s' ∧ s'.sent = s.sent := by
  have other : s.handleIcmp ip (transportOf s.rxPkt.byte) len =
      if s.pageIcmp.type = icmpTypeEchoReply then
        if ntohs s.pageIcmp.id = s.ping.id ∧ ntohs s.pageIcmp.seq = s.ping.seq then
          some { s with ping := { s.ping with replyReceived := true } }
        else some s
      else some s := if_neg asks
  rw [other]
  split
  · split
    all_goals exact ⟨_, rfl, rfl⟩
  · exact ⟨_, rfl, rfl⟩

/-- The header lies between 20 and 60 bytes behind the Ethernet header. -/
theorem pageIp_hlen (s : NetStack) :
    sizeofEthHdr + (ipHlen s.pageIp).toNat = transportOf s.rxPkt.byte ∧ 20 ≤ (ipHlen s.pageIp).toNat ∧
      (ipHlen s.pageIp).toNat ≤ 60 := by
  have place : sizeofEthHdr + (ipHlen s.pageIp).toNat = transportOf s.rxPkt.byte := rfl
  have lower := transportOf_ge s.rxPkt.byte
  have upper := transportOf_le s.rxPkt.byte
  rw [← place, sizeofEthHdr] at lower upper
  exact ⟨place, by omega, by omega⟩

/-- The length wraps when the IP length does not reach the transport header. -/
theorem pageIcmpLen_toNat (s : NetStack) : s.pageIcmpLen.toNat =
    if (ipHlen s.pageIp).toNat ≤ (ntohs s.pageIp.totLen).toNat then
      (ntohs s.pageIp.totLen).toNat - (ipHlen s.pageIp).toNat
    else 2 ^ 64 - ((ipHlen s.pageIp).toNat - (ntohs s.pageIp.totLen).toNat) := by
  obtain ⟨-, lower, upper⟩ := s.pageIp_hlen
  have small := (ntohs s.pageIp.totLen).isLt
  rw [pageIcmpLen, BitVec.toNat_sub, BitVec.toNat_setWidth]
  split
  all_goals omega

/-- The page with nothing mapped behind it. -/
def pageOnly (s : NetStack) : NetStack :=
  { s with rxPkt := { s.rxPkt with limit := pktBufSize, page := Nat.le_refl _ } }

/-- The sum that the handler compares with the packet size. -/
def echoTotal (s : NetStack) : UINTN := BitVec.ofNat 64 (sizeofEthHdr + sizeofIpHdr) + s.pageIcmpLen

/-- The handler stays within its buffers: it uses the true length of the message, its guard rejects every
message that does not fit the packet, it runs on the page alone without a fault, and it does not answer a
message without a whole header. -/
structure EchoWithinBuffers (s : NetStack) : Prop where
  length : s.AsksEcho → (ipHlen s.pageIp).toNat + s.pageIcmpLen.toNat = (ntohs s.pageIp.totLen).toNat
  guarded : s.AsksEcho → maxPktSize < sizeofEthHdr + sizeofIpHdr + s.pageIcmpLen.toNat → maxPktSize < s.echoTotal.toNat
  header : transportOf s.rxPkt.byte + sizeofIcmpHdr ≤ pktBufSize
  inside : ∃ s', s.pageOnly.dispatch = some s'
  short : (ntohs s.pageIp.totLen).toNat < (ipHlen s.pageIp).toNat + sizeofIcmpHdr →
    ∀ s', s.dispatch = some s' → s'.sent = s.sent

/-- A message whose length does not wrap is answered, or it is too long for the packet. -/
theorem dispatch_echo (reaches : s.ReachesIcmp) (asks : s.AsksEcho)
    (whole : (ipHlen s.pageIp).toNat ≤ (ntohs s.pageIp.totLen).toNat) :
    (s.echoTotal.toNat = sizeofEthHdr + sizeofIpHdr + s.pageIcmpLen.toNat) ∧
      ((maxPktSize < s.echoTotal.toNat ∧ s.dispatch = some s) ∨
        ∃ frame : TxFrame, s.dispatch = some (s.getU32.2.sendFrame frame)) := by
  have length := s.pageIcmpLen_toNat
  rw [if_pos whole] at length
  have small := (ntohs s.pageIp.totLen).isLt
  have total : s.echoTotal.toNat = sizeofEthHdr + sizeofIpHdr + s.pageIcmpLen.toNat := by
    simp only [echoTotal, BitVec.toNat_add, BitVec.toNat_ofNat, sizeofEthHdr, sizeofIpHdr]
    omega
  refine ⟨total, ?_⟩
  rw [dispatch_icmp reaches, handleIcmp_request asks]
  by_cases exceeds : maxPktSize < s.echoTotal.toNat
  · exact Or.inl ⟨exceeds, if_pos exceeds⟩
  · have fits : s.pageIcmpLen.toNat ≤ 1466 := by
      simp only [sizeofEthHdr, sizeofIpHdr, maxPktSize] at total exceeds
      omega
    have mapped : transportOf s.rxPkt.byte + s.pageIcmpLen.toNat ≤ s.rxPkt.limit := by
      have place := transportOf_le s.rxPkt.byte
      have page := s.rxPkt.page
      rw [pktBufSize] at page
      omega
    obtain ⟨frame, answered, -⟩ := s.replyToPing_eq s.pageIp (transportOf s.rxPkt.byte) s.pageIcmpLen fits mapped
    exact Or.inr ⟨frame, answered⟩

/-- A page that `poll` hands to `handle_icmp` stays within the buffers exactly when it asks for no echo or
its IP length covers both headers. -/
theorem echo_within_buffers_iff (reaches : s.ReachesIcmp) : s.EchoWithinBuffers ↔
    (s.AsksEcho → (ipHlen s.pageIp).toNat + sizeofIcmpHdr ≤ (ntohs s.pageIp.totLen).toNat) := by
  constructor
  · intro within asks
    by_contra cut
    have length := within.length asks
    obtain ⟨total, ⟨exceeds, -⟩ | ⟨frame, answered⟩⟩ := dispatch_echo reaches asks (by omega)
    · simp only [total, sizeofEthHdr, sizeofIpHdr, maxPktSize, sizeofIcmpHdr] at exceeds cut
      omega
    · have silent := within.short (Nat.lt_of_not_le cut) _ answered
      rw [sendFrame_sent, getU32_sent] at silent
      exact absurd silent (by simp)
  · intro whole
    have header : transportOf s.rxPkt.byte + sizeofIcmpHdr ≤ pktBufSize := by
      have place := transportOf_le s.rxPkt.byte
      rw [sizeofIcmpHdr, pktBufSize]
      omega
    have onPage : s.pageOnly.ReachesIcmp := reaches
    by_cases asks : s.AsksEcho
    · have covers := whole asks
      have reached : (ipHlen s.pageIp).toNat ≤ (ntohs s.pageIp.totLen).toNat := Nat.le_of_add_right_le covers
      have length := s.pageIcmpLen_toNat
      rw [if_pos reached] at length
      have pageAsks : s.pageOnly.AsksEcho := asks
      refine
        { length := fun _ => by omega
          guarded := fun _ exceeds => by
            rw [(dispatch_echo reaches asks reached).1]
            exact exceeds
          header
          inside := ?_
          short := fun cut => absurd covers (Nat.not_le_of_lt cut) }
      obtain ⟨-, ⟨-, done⟩ | ⟨frame, done⟩⟩ := dispatch_echo onPage pageAsks reached
      all_goals exact ⟨_, done⟩
    · have pageAsks : ¬s.pageOnly.AsksEcho := asks
      refine
        { length := fun asked => absurd asked asks
          guarded := fun asked => absurd asked asks
          header
          inside := ?_
          short := ?_ }
      · obtain ⟨s', done, -⟩ := handleIcmp_silent pageAsks s.pageOnly.pageIp s.pageOnly.pageIcmpLen
        exact ⟨s', (dispatch_icmp onPage).trans done⟩
      · intro _ s' done
        obtain ⟨same, silent, sent⟩ := handleIcmp_silent asks s.pageIp s.pageIcmpLen
        rw [dispatch_icmp reaches, silent] at done
        rw [← Option.some.inj done, sent]

end NetStack

namespace Scenario

/-- An echo request whose IP length is one byte less than its header. -/
def cutEcho : RxFrame :=
  icmpPacket
    { ihlVersion := ipVersionIhlDefault, totLen := htons 19, ttl := ipDefaultTtl, protocol := ipProtoIcmp
      saddr := gatewayIp, daddr := localIp }
    { type := icmpTypeEchoRequest }

end Scenario

open Scenario in
theorem NetStack.echo_within_buffers_plain : ((powered []).landed plainEcho).EchoWithinBuffers :=
  (@NetStack.echo_within_buffers_iff ((powered []).landed plainEcho) (by decide +kernel)).mpr (by decide +kernel)

open Scenario in
/-- The wrapped length passes the guard. -/
theorem NetStack.cut_echo_faults : ¬∀ s : NetStack, s.ReachesIcmp → s.EchoWithinBuffers := by
  intro always
  obtain ⟨s', done⟩ := (always ((powered []).landed cutEcho) (by decide +kernel)).inside
  have faults : (((powered []).landed cutEcho).pageOnly.dispatch).isSome = false := by decide +kernel
  rw [done] at faults
  cases faults

end UefiNetstack
