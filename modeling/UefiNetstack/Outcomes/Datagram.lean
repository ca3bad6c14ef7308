import UefiNetstack.Buffers.Datagram
import UefiNetstack.Exchange.Reply
import UefiNetstack.Outcomes.Inbox

namespace UefiNetstack
open Constants Memory NetStack Search

/-- An echo reply with an id and a sequence number. -/
structure RxPkt.IsEchoReply (page : RxPkt) (id seq : UINT16) : Prop where
  type : (EthHdr.read page.byte 0).type = htons ethertypeIpv4
  protocol : (IpHdr.read page.byte sizeofEthHdr).protocol = ipProtoIcmp
  reply : (IcmpHdr.read page.byte (transportOf page.byte)).type = icmpTypeEchoReply
  id : ntohs (IcmpHdr.read page.byte (transportOf page.byte)).id = id
  seq : ntohs (IcmpHdr.read page.byte (transportOf page.byte)).seq = seq

/-- The UDP header on a page. -/
def RxPkt.udpHdr (page : RxPkt) : UdpHdr := UdpHdr.read page.byte (transportOf page.byte)

/-- What a receive takes of it: the announced bytes behind the header, as far as there is room. -/
def RxPkt.datagram (page : RxPkt) (maxLen : UINTN) : Bytes :=
  page.byte.slice (transportOf page.byte + sizeofUdpHdr)
    (min ((ntohs page.udpHdr.len).setWidth 64 - BitVec.ofNat 64 sizeofUdpHdr : UINTN).toNat maxLen.toNat)

namespace NetStack

variable {s s' : NetStack}

/-- Such a loop looks for an echo reply. -/
theorem ping_searches (id seq : UINT16) :
    Searches (fun s => s.ping.replyReceived) (fun s => s.ping.id = id ∧ s.ping.seq = seq)
      (fun page => page.IsEchoReply id seq) where
  done_same _ _ _ _ := rfl
  holds_same _ _ _ _ held := held
  hits := by
    intro s s' held waits done
    obtain ⟨rfl, rfl⟩ := held
    by_cases own : s.MatchesReply
    · obtain rfl := Option.some.inj ((dispatch_matches own).symm.trans done)
      exact iff_of_true rfl ⟨own.reaches.1, own.reaches.2, own.type, own.id, own.seq⟩
    · have kept := dispatch_ping own done
      rw [kept, waits]
      refine iff_of_false Bool.false_ne_true ?_
      intro reply
      exact own ⟨⟨reply.type, reply.protocol⟩, reply.reply, reply.id, reply.seq⟩
  keeps := by
    intro s s' held waits done _
    by_cases own : s.MatchesReply
    · obtain rfl := Option.some.inj ((dispatch_matches own).symm.trans done)
      exact held
    · rw [dispatch_ping own done]
      exact held

theorem pingStart_inbox (s : NetStack) (targetIp : UINT32) : (s.pingStart targetIp).inbox = s.inbox :=
  sendFrame_inbox _ _

/-- The first reply to a ping among its answers decides it. -/
theorem ping_outcome {targetIp timeoutMs : UINT32} {status : EfiStatus}
    (returned : Api.ping targetIp timeoutMs s = some (status, s')) :
    Inbox.Decided (·.IsEchoReply (s.pingStart targetIp).ping.id (s.pingStart targetIp).ping.seq) (maxLoops timeoutMs)
      s.inbox s'.inbox status := by
  obtain ⟨ended, waits, result⟩ := Option.bind_eq_some_iff.mp returned
  obtain ⟨rfl, rfl⟩ := Prod.mk.inj (Option.some.inj result)
  have searches := ping_searches (s.pingStart targetIp).ping.id (s.pingStart targetIp).ping.seq
  rw [← s.pingStart_inbox targetIp]
  cases searches.wait ⟨rfl, rfl⟩ rfl waits with
  | found i inside last polled finds held open_ handled halts =>
      have raised : polled.ping.replyReceived = true := (searches.hits held open_ handled).mpr finds.of_kind
      rw [halts] at finds ⊢
      have success : (if (polled.stall stall100us).ping.replyReceived then EfiStatus.success else .timeout) = .success :=
        if_pos raised
      rw [success]
      exact .success i inside last.rxPkt finds
  | missed misses held open_ =>
      rw [open_]
      exact .timeout misses

end NetStack

open Scenario in
/-- A ping without answers times out. -/
theorem NetStack.ping_outcome_silent : ∃ s', Api.ping gatewayIp 1 (powered []) = some (.timeout, s') ∧
    Inbox.Decided
      (·.IsEchoReply ((powered []).pingStart gatewayIp).ping.id ((powered []).pingStart gatewayIp).ping.seq) 10
      (powered []).inbox s'.inbox .timeout := by
  have returns : (Api.ping gatewayIp 1 (powered [])).map (·.1) = some .timeout := by decide +kernel
  obtain ⟨⟨status, s'⟩, done, rfl⟩ := Option.map_eq_some_iff.mp returns
  exact ⟨s', done, ping_outcome done⟩

end UefiNetstack
