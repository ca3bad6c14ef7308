import UefiNetstack.Reception.Frame
import UefiNetstack.Session.Reaction

namespace UefiNetstack
open Constants Memory

namespace NetStack

/-- The stack with other bytes in its packet memory. -/
def withBytes (m : Memory) (s : NetStack) : NetStack := { s with rxPkt := { s.rxPkt with byte := m } }

/-- A run settles when it does the same on every packet memory that starts with a small one. -/
def Settles (s : NetStack) (small : MappedMemory) (run : NetStack → Option NetStack) : Prop :=
  ∃ s' : NetStack, ∀ m, AgreeOn small.byte m 0 small.limit → run (s.withBytes m) = some (s'.withBytes m)

variable {s s' : NetStack} {small : MappedMemory} {run : NetStack → Option NetStack}

theorem withBytes_extends (within : small.limit ≤ pktBufSize) {m : Memory} (agree : AgreeOn small.byte m 0 small.limit) :
    MappedMemory.Extends (s.withBytes m).rxPkt.toMappedMemory small where
  limit := Nat.le_trans within (s.withBytes m).rxPkt.page
  agree := agree

theorem Settles.done (same : ∀ m, AgreeOn small.byte m 0 small.limit → run (s.withBytes m) = some (s.withBytes m)) :
    Settles s small run :=
  ⟨s, same⟩

theorem Settles.congr {run' : NetStack → Option NetStack} (settles : Settles s small run')
    (same : ∀ m, AgreeOn small.byte m 0 small.limit → run (s.withBytes m) = run' (s.withBytes m)) :
    Settles s small run := by
  obtain ⟨ended, every⟩ := settles
  exact ⟨ended, fun m agree => (same m agree).trans (every m agree)⟩

theorem Settles.bind {next : NetStack → Option NetStack} (first : Settles s small run)
    (second : ∀ middle, Settles middle small next) : Settles s small fun s => (run s).bind next := by
  obtain ⟨middle, every⟩ := first
  obtain ⟨ended, later⟩ := second middle
  refine ⟨ended, fun m agree => ?_⟩
  dsimp only
  rw [every m agree, Option.bind_some]
  exact later m agree

theorem handleArp_settles (arp : ArpHdr) : Settles s small fun s => some (s.handleArp arp) := by
  refine ⟨s.handleArp arp, fun m _ => congrArg some ?_⟩
  unfold handleArp
  dsimp only
  split
  · rw [learnArp_eq, learnArp_eq]
    rfl
  · split
    · change (if arp.tpa = s.identity.myIp ∧ s.identity.myIp ≠ 0#32 then _ else _) = _
      split
      all_goals rfl
    · rfl

/-- A handler looks at the sender of a reply, and at the sender and the target of a request where it has an address. -/
theorem handleArp_congr {arp arp' : ArpHdr} (oper : arp.oper = arp'.oper)
    (reply : ntohs arp'.oper = arpOperReply → arp.sha = arp'.sha ∧ arp.spa = arp'.spa)
    (request : ntohs arp'.oper = arpOperRequest → s.identity.myIp ≠ 0#32 →
      arp.sha = arp'.sha ∧ arp.spa = arp'.spa ∧ arp.tpa = arp'.tpa) : s.handleArp arp = s.handleArp arp' := by
  unfold handleArp
  dsimp only
  rw [oper]
  split
  · rename_i replies
    obtain ⟨sha, spa⟩ := reply replies
    rw [learnArp, learnArp, sha, spa]
  · split
    · rename_i requests
      by_cases address : s.identity.myIp = 0#32
      · rw [if_neg fun both => both.2 address, if_neg fun both => both.2 address]
      · obtain ⟨sha, spa, tpa⟩ := request requests address
        have same : s.arpReplyFrame arp = s.arpReplyFrame arp' := by rw [arpReplyFrame, arpReplyFrame, sha, spa]
        simp only [tpa, same]
    · rfl

/-- What `handle_arp` reads of a packet lies in a memory. -/
structure ArpInside (s : NetStack) (small : MappedMemory) (arpAt : Nat) : Prop where
  oper : arpAt + 8 ≤ small.limit
  sender : ntohs (ArpHdr.read small.byte arpAt).oper = arpOperReply → arpAt + 18 ≤ small.limit
  target : ntohs (ArpHdr.read small.byte arpAt).oper = arpOperRequest → s.identity.myIp ≠ 0#32 →
    arpAt + sizeofArpHdr ≤ small.limit

theorem ArpInside.settles {arpAt : Nat} (inside : s.ArpInside small arpAt) :
    Settles s small fun s => some (s.handleArp (ArpHdr.read s.rxPkt.byte arpAt)) := by
  refine (handleArp_settles (ArpHdr.read small.byte arpAt)).congr fun m agree => congrArg some ?_
  have oper : (ArpHdr.read m arpAt).oper = (ArpHdr.read small.byte arpAt).oper :=
    (agree.load16 (Nat.zero_le _) (Nat.le_trans (by omega) inside.oper)).symm
  have sender (long : arpAt + 18 ≤ small.limit) : (ArpHdr.read m arpAt).sha = (ArpHdr.read small.byte arpAt).sha ∧
      (ArpHdr.read m arpAt).spa = (ArpHdr.read small.byte arpAt).spa :=
    ⟨(ByteArr.read_agree agree (Nat.zero_le _) (by omega)).symm, (agree.load32 (Nat.zero_le _) (by omega)).symm⟩
  refine handleArp_congr oper (fun replies => sender (inside.sender replies)) fun requests address => ?_
  have long := inside.target requests address
  rw [sizeofArpHdr] at long
  obtain ⟨sha, spa⟩ := sender (by omega)
  exact ⟨sha, spa, (agree.load32 (Nat.zero_le _) (by omega)).symm⟩

theorem replyToPing_settles (within : small.limit ≤ pktBufSize) {ip : IpHdr} {icmpAt : Nat} {len : UINTN}
    (inside : (BitVec.ofNat 64 (sizeofEthHdr + sizeofIpHdr) + len).toNat ≤ maxPktSize →
      icmpAt + len.toNat ≤ small.limit) : Settles s small (replyToPing ip icmpAt len) := by
  by_cases large : (BitVec.ofNat 64 (sizeofEthHdr + sizeofIpHdr) + len).toNat > maxPktSize
  · exact Settles.done fun m _ => if_pos large
  · have mapped := inside (Nat.le_of_not_lt large)
    obtain ⟨data, copied⟩ := small.copy_mapped mapped
    have fits : sizeofEthHdr + sizeofIpHdr + len.toNat ≤ maxPktSize := by
      rw [BitVec.toNat_add, BitVec.toNat_ofNat] at large
      simp only [sizeofEthHdr, sizeofIpHdr, maxPktSize, pktBufSize] at *
      omega
    refine ⟨s.getU32.2.sendFrame ⟨s.getU32.2.icmpReplyFrame ip.saddr data.val s.getU32.1, ?_⟩, fun m agree => ?_⟩
    · simp only [icmpReplyFrame_length, data.property, pktBufSize]
      simp only [sizeofEthHdr, sizeofIpHdr, maxPktSize] at fits
      omega
    · have same : (s.withBytes m).getU32.2.rxPkt.copy icmpAt len.toNat = some data :=
        (MappedMemory.copy_extends (@withBytes_extends s _ within _ agree) mapped).trans copied
      unfold replyToPing
      dsimp only
      rw [if_neg large, dif_pos fits]
      rw [same]
      rfl

/-- What `handle_icmp` reads of a message lies in a memory: the type, of a request the code and what it echoes, of a
reply the numbers. -/
structure IcmpInside (s : NetStack) (small : MappedMemory) (icmpAt : Nat) (len : UINTN) : Prop where
  type : icmpAt + 1 ≤ small.limit
  code : (IcmpHdr.read small.byte icmpAt).type = icmpTypeEchoRequest → icmpAt + 2 ≤ small.limit
  echo : (IcmpHdr.read small.byte icmpAt).type = icmpTypeEchoRequest →
    (IcmpHdr.read small.byte icmpAt).code = icmpCodeZero →
      (BitVec.ofNat 64 (sizeofEthHdr + sizeofIpHdr) + len).toNat ≤ maxPktSize → icmpAt + len.toNat ≤ small.limit
  id : (IcmpHdr.read small.byte icmpAt).type = icmpTypeEchoReply → icmpAt + 6 ≤ small.limit
  seq : (IcmpHdr.read small.byte icmpAt).type = icmpTypeEchoReply →
    ntohs (IcmpHdr.read small.byte icmpAt).id = s.ping.id → icmpAt + 8 ≤ small.limit

theorem IcmpInside.settles (within : small.limit ≤ pktBufSize) {ip : IpHdr} {icmpAt : Nat} {len : UINTN}
    (inside : s.IcmpInside small icmpAt len) : Settles s small (handleIcmp ip icmpAt len) := by
  have type (m : Memory) (agree : AgreeOn small.byte m 0 small.limit) :
      (IcmpHdr.read m icmpAt).type = (IcmpHdr.read small.byte icmpAt).type :=
    (agree icmpAt (Nat.zero_le _) (Nat.lt_of_succ_le inside.type)).symm
  have differ : icmpTypeEchoRequest ≠ icmpTypeEchoReply := by decide
  by_cases request : (IcmpHdr.read small.byte icmpAt).type = icmpTypeEchoRequest
  · have code (m : Memory) (agree : AgreeOn small.byte m 0 small.limit) :
        (IcmpHdr.read m icmpAt).code = (IcmpHdr.read small.byte icmpAt).code :=
      (agree (icmpAt + 1) (Nat.zero_le _) (Nat.lt_of_succ_le (inside.code request))).symm
    by_cases zero : (IcmpHdr.read small.byte icmpAt).code = icmpCodeZero
    · refine (@replyToPing_settles s small within ip icmpAt len (inside.echo request zero)).congr fun m agree => ?_
      exact if_pos ⟨(type m agree).trans request, (code m agree).trans zero⟩
    · refine Settles.done fun m agree => ?_
      exact (if_neg fun both => zero ((code m agree).symm.trans both.2)).trans
        (if_neg fun replies => differ (request.symm.trans ((type m agree).symm.trans replies)))
  · by_cases reply : (IcmpHdr.read small.byte icmpAt).type = icmpTypeEchoReply
    · have id (m : Memory) (agree : AgreeOn small.byte m 0 small.limit) :
          (IcmpHdr.read m icmpAt).id = (IcmpHdr.read small.byte icmpAt).id :=
        (agree.load16 (Nat.zero_le _) (Nat.le_trans (by omega) (inside.id reply))).symm
      have enters (m : Memory) (agree : AgreeOn small.byte m 0 small.limit) :
          (s.withBytes m).handleIcmp ip icmpAt len =
            if ntohs (IcmpHdr.read m icmpAt).id = s.ping.id ∧ ntohs (IcmpHdr.read m icmpAt).seq = s.ping.seq then
              some { s.withBytes m with ping := { s.ping with replyReceived := true } }
            else some (s.withBytes m) :=
        (if_neg fun both => request ((type m agree).symm.trans both.1)).trans (if_pos ((type m agree).trans reply))
      by_cases own : ntohs (IcmpHdr.read small.byte icmpAt).id = s.ping.id
      · have seq (m : Memory) (agree : AgreeOn small.byte m 0 small.limit) :
            (IcmpHdr.read m icmpAt).seq = (IcmpHdr.read small.byte icmpAt).seq :=
          (agree.load16 (Nat.zero_le _) (Nat.le_trans (by omega) (inside.seq reply own))).symm
        refine ⟨if ntohs (IcmpHdr.read small.byte icmpAt).id = s.ping.id ∧
          ntohs (IcmpHdr.read small.byte icmpAt).seq = s.ping.seq then
            { s with ping := { s.ping with replyReceived := true } } else s, fun m agree => ?_⟩
        rw [enters m agree, id m agree, seq m agree]
        split
        · rfl
        · rfl
      · refine Settles.done fun m agree => ?_
        rw [enters m agree, id m agree]
        exact if_neg fun both => own both.1
    · refine Settles.done fun m agree => ?_
      exact (if_neg fun both => request ((type m agree).symm.trans both.1)).trans
        (if_neg fun replies => reply ((type m agree).symm.trans replies))

/-- The length that the user's receive copies. -/
def userCopyLen (s : NetStack) (udp : UdpHdr) : UINTN :=
  let payloadLen : UINTN := (ntohs udp.len).setWidth 64 - BitVec.ofNat 64 sizeofUdpHdr
  if payloadLen > s.udp.rxMaxLen then s.udp.rxMaxLen else payloadLen

/-- The user's receive copies the payload of a datagram. -/
def UserCopies (s : NetStack) (udp : UdpHdr) : Prop :=
  ntohs udp.dest = s.udp.localPort ∧ s.udp.localPort ≠ 0#16 ∧ s.udp.rxBuffer.isSome ∧
    (ntohs udp.len).setWidth 64 - BitVec.ofNat 64 sizeofUdpHdr > 0#64

/-- The user's receive settles and keeps the resolver. -/
theorem receiveUser_settles (within : small.limit ≤ pktBufSize) {udp : UdpHdr} {udpAt : Nat}
    (inside : s.UserCopies udp → udpAt + sizeofUdpHdr + (s.userCopyLen udp).toNat ≤ small.limit) :
    ∃ s' : NetStack, s'.dns = s.dns ∧ ∀ m, AgreeOn small.byte m 0 small.limit →
      (s.withBytes m).receiveUser udp udpAt = some (s'.withBytes m) := by
  by_cases wanted : ntohs udp.dest = s.udp.localPort ∧ s.udp.localPort ≠ 0#16
  · cases buffer : s.udp.rxBuffer with
    | none =>
      refine ⟨s, rfl, fun m agree => ?_⟩
      have noBuffer : (s.withBytes m).udp.rxBuffer = none := buffer
      exact (if_pos wanted).trans (by rw [udpDeliver, noBuffer])
    | some target =>
      by_cases positive : (ntohs udp.len).setWidth 64 - BitVec.ofNat 64 sizeofUdpHdr > 0#64
      · have mapped := inside ⟨wanted.1, wanted.2, by rw [buffer]; rfl, positive⟩
        obtain ⟨data, copied⟩ := small.copy_mapped mapped
        refine ⟨{ s.log (.udpCopy data.val) with
          udp := { s.udp with
            rxBuffer := some (target.write 0 data.val), rxCurrentLen := s.userCopyLen udp, rxDone := true } },
          rfl, fun m agree => ?_⟩
        have buffered : (s.withBytes m).udp.rxBuffer = some target := buffer
        have same : (s.withBytes m).rxPkt.copy (udpAt + sizeofUdpHdr) (s.userCopyLen udp).toNat = some data :=
          (MappedMemory.copy_extends (@withBytes_extends s _ within _ agree) mapped).trans copied
        refine (if_pos wanted).trans ?_
        rw [udpDeliver, buffered]
        refine (if_pos positive).trans ?_
        exact congrArg (fun copy : Option _ => copy.bind _) same
      · refine ⟨s, rfl, fun m agree => ?_⟩
        have buffered : (s.withBytes m).udp.rxBuffer = some target := buffer
        refine (if_pos wanted).trans ?_
        rw [udpDeliver, buffered]
        exact if_neg positive
  · exact ⟨s, rfl, fun m _ => if_neg wanted⟩

/-- The parser passes a header with the id of the query that is a response with answers. -/
def DnsParses (s : NetStack) (dns : DnsHdr) : Prop :=
  dns.id = htons s.dns.currentId ∧ ntohs dns.flags &&& dnsFlagResponse ≠ 0#16 ∧ ntohs dns.ancount ≠ 0#16

/-- What the resolver reads of a response lies in a memory: the id, the flags, the counts and what it walks over. -/
structure DnsInside (s : NetStack) (small : MappedMemory) (dnsAt : Nat) : Prop where
  id : dnsAt + 2 ≤ small.limit
  flags : (DnsHdr.read small.byte dnsAt).id = htons s.dns.currentId → dnsAt + 4 ≤ small.limit
  counts : (DnsHdr.read small.byte dnsAt).id = htons s.dns.currentId →
    ntohs (DnsHdr.read small.byte dnsAt).flags &&& dnsFlagResponse ≠ 0#16 → dnsAt + 8 ≤ small.limit
  parse : s.DnsParses (DnsHdr.read small.byte dnsAt) → ∃ p answer,
    small.skipQuestions (ntohs (DnsHdr.read small.byte dnsAt).qdcount).toNat (dnsAt + sizeofDnsHdr) = some p ∧
    small.findAddress (ntohs (DnsHdr.read small.byte dnsAt).ancount).toNat p = some answer

theorem DnsInside.of_dns {s'' : NetStack} {dnsAt : Nat} (inside : DnsInside s small dnsAt) (dns : s''.dns = s.dns) :
    DnsInside s'' small dnsAt where
  id := inside.id
  flags own := inside.flags (dns ▸ own)
  counts own := inside.counts (dns ▸ own)
  parse parses := inside.parse (by rw [DnsParses, ← dns]; exact parses)

theorem DnsInside.settles (within : small.limit ≤ pktBufSize) {dnsAt : Nat} (inside : s.DnsInside small dnsAt) :
    Settles s small (handleDns dnsAt) := by
  have sameId (m : Memory) (agree : AgreeOn small.byte m 0 small.limit) :
      (DnsHdr.read m dnsAt).id = (DnsHdr.read small.byte dnsAt).id :=
    (agree.load16 (Nat.zero_le _) inside.id).symm
  by_cases id : (DnsHdr.read small.byte dnsAt).id = htons s.dns.currentId
  · have own (m : Memory) (agree : AgreeOn small.byte m 0 small.limit) :
        ¬(DnsHdr.read m dnsAt).id ≠ htons s.dns.currentId := not_not_intro ((sameId m agree).trans id)
    have sameFlags (m : Memory) (agree : AgreeOn small.byte m 0 small.limit) :
        (DnsHdr.read m dnsAt).flags = (DnsHdr.read small.byte dnsAt).flags :=
      (agree.load16 (Nat.zero_le _) (Nat.le_trans (by omega) (inside.flags id))).symm
    by_cases response : ntohs (DnsHdr.read small.byte dnsAt).flags &&& dnsFlagResponse = 0#16
    · refine Settles.done fun m agree => ?_
      exact (if_neg (own m agree)).trans (if_pos ((sameFlags m agree).symm ▸ response))
    · have counts := inside.counts id response
      have responds (m : Memory) (agree : AgreeOn small.byte m 0 small.limit) :
          ¬ntohs (DnsHdr.read m dnsAt).flags &&& dnsFlagResponse = 0#16 := (sameFlags m agree).symm ▸ response
      have ancount (m : Memory) (agree : AgreeOn small.byte m 0 small.limit) :
          (DnsHdr.read m dnsAt).ancount = (DnsHdr.read small.byte dnsAt).ancount :=
        (agree.load16 (Nat.zero_le _) (Nat.le_trans (by omega) counts)).symm
      have qdcount (m : Memory) (agree : AgreeOn small.byte m 0 small.limit) :
          (DnsHdr.read m dnsAt).qdcount = (DnsHdr.read small.byte dnsAt).qdcount :=
        (agree.load16 (Nat.zero_le _) (Nat.le_trans (by omega) counts)).symm
      by_cases answers : ntohs (DnsHdr.read small.byte dnsAt).ancount = 0#16
      · refine Settles.done fun m agree => ?_
        exact (if_neg (own m agree)).trans
          ((if_neg (responds m agree)).trans (if_pos ((ancount m agree).symm ▸ answers)))
      · obtain ⟨p, answer, skipped, found⟩ := inside.parse ⟨id, response, answers⟩
        refine ⟨match answer with
          | some address => { s with dns := { s.dns with resolvedIp := address, resolved := true } }
          | none => s, fun m agree => ?_⟩
        have grows := @withBytes_extends s small within m agree
        refine (if_neg (own m agree)).trans
          ((if_neg (responds m agree)).trans ((if_neg ((ancount m agree).symm ▸ answers)).trans ?_))
        have walks := MappedMemory.skipQuestions_extends grows skipped
        have finds := MappedMemory.findAddress_extends grows found
        rw [← qdcount m agree] at walks
        rw [← ancount m agree] at finds
        refine (congrArg (fun start : Option Nat => start.bind _) walks).trans ?_
        refine (congrArg (fun address : Option (Option UINT32) => address.bind _) finds).trans ?_
        cases answer with
        | some address => rfl
        | none => rfl
  · refine Settles.done fun m agree => ?_
    exact if_pos fun own => id ((sameId m agree).symm.trans own)

/-- A segment without payload does not depend on the packet memory. -/
theorem sendTcpControl_withBytes (flags : UINT8) (s : NetStack) :
    ∃ s' : NetStack, ∀ m, (s.withBytes m).sendTcpControl flags = some (s'.withBytes m) := by
  obtain ⟨s', -, sent, -⟩ := s.sendTcpControl_eq flags
  refine ⟨s', fun m => ?_⟩
  unfold sendTcpControl sendTcpInternal at sent ⊢
  split at sent
  · rename_i fits
    rw [dif_pos fits, ← Option.some.inj sent]
    rfl
  · cases sent

theorem acceptSynAck_settles (input : TcpInput) : Settles s small (acceptSynAck input) := by
  obtain ⟨sent, sends⟩ := sendTcpControl_withBytes tcpFlagAck
    { s with tcp := { s.tcp with seq := input.rxAck, ack := input.rxSeq + 0x01#32 } }
  refine ⟨{ sent with tcp := { sent.tcp with state := .established } }, fun m _ => ?_⟩
  unfold acceptSynAck
  exact Option.bind_eq_some_iff.mpr ⟨_, sends m, rfl⟩

theorem receiveData_settles (within : small.limit ≤ pktBufSize) {input : TcpInput} {tcpAt : Nat}
    (inside : 0 < s.takenLen input → tcpAt + input.tcpHlen.toNat + s.takenLen input ≤ small.limit) :
    Settles s small (receiveData input tcpAt) := by
  cases pending : s.tcp.rxBuffer with
  | none =>
    refine Settles.done fun m agree => ?_
    have noBuffer : (s.withBytes m).tcp.rxBuffer = none := pending
    rw [receiveData, noBuffer]
  | some buffer =>
    have taken : s.takenLen input = (s.copyLen input).toNat := by simp [takenLen, pending]
    have buffered (m : Memory) : (s.withBytes m).tcp.rxBuffer = some buffer := pending
    by_cases data : input.payloadLen > 0#64
    · by_cases room : s.copyLen input > 0#64
      · have positive : 0 < (s.copyLen input).toNat := room
        rw [taken] at inside
        have mapped := inside positive
        obtain ⟨block, copied⟩ := small.copy_mapped mapped
        refine ⟨{ s.log (.tcpCopy s.tcp.rxCurrentLen block.val) with
          tcp := { s.tcp with
            rxBuffer := some (buffer.write s.tcp.rxCurrentLen.toNat block.val)
            rxCurrentLen := s.tcp.rxCurrentLen + s.copyLen input
            rxDone := true } }, fun m agree => ?_⟩
        have same : (s.withBytes m).rxPkt.copy (tcpAt + input.tcpHlen.toNat) (s.copyLen input).toNat = some block :=
          (MappedMemory.copy_extends (@withBytes_extends s _ within _ agree) mapped).trans copied
        rw [receiveData, buffered m]
        refine (if_pos data).trans ((if_pos room).trans ?_)
        exact Option.bind_eq_some_iff.mpr ⟨block, same, rfl⟩
      · refine Settles.done fun m agree => ?_
        rw [receiveData, buffered m]
        exact (if_pos data).trans (if_neg room)
    · refine Settles.done fun m agree => ?_
      rw [receiveData, buffered m]
      exact if_neg data

theorem acknowledgeData_settles (input : TcpInput) : Settles s small (acknowledgeData input) := by
  by_cases data : input.payloadLen > 0#64
  · obtain ⟨sent, sends⟩ := sendTcpControl_withBytes tcpFlagAck
      { s with
        tcp := { s.tcp with
          seq := input.rxAck
          ack := (input.rxSeq.setWidth 64 + input.payloadLen).setWidth 32 } }
    exact ⟨sent, fun m _ => (if_pos data).trans (sends m)⟩
  · exact Settles.done fun m _ => if_neg data

theorem receiveFin_settles (input : TcpInput) : Settles s small (receiveFin input) := by
  by_cases fin : input.has tcpFlagFin
  · obtain ⟨sent, sends⟩ := sendTcpControl_withBytes tcpFlagFinAck
      { s with
        tcp := { s.tcp with
          seq := input.rxAck
          ack := (input.rxSeq.setWidth 64 + input.payloadLen + 0x01#64).setWidth 32 } }
    refine ⟨{ sent with tcp := { sent.tcp with state := .closedDone } }, fun m _ => (if_pos fin).trans ?_⟩
    exact Option.bind_eq_some_iff.mpr ⟨_, sends m, rfl⟩
  · exact Settles.done fun m _ => if_neg fin

/-- The state machine copies the payload of a segment. -/
def SegmentCopies (s : NetStack) (input : TcpInput) : Prop :=
  ¬input.has tcpFlagRst ∧ s.Listening ∧ 0 < s.takenLen input

theorem onSegment_settles (within : small.limit ≤ pktBufSize) {input : TcpInput} {tcpAt : Nat}
    (inside : s.SegmentCopies input → tcpAt + input.tcpHlen.toNat + s.takenLen input ≤ small.limit) :
    Settles s small (onSegment input tcpAt) := by
  by_cases rst : input.has tcpFlagRst
  · exact ⟨s.abortTcp, fun m _ => if_pos rst⟩
  · by_cases waiting : s.tcp.state = .synSent
    · by_cases synAck : input.isSynAck
      · obtain ⟨ended, every⟩ := @acceptSynAck_settles s small input
        refine ⟨ended, fun m agree => ?_⟩
        exact (if_neg rst).trans ((if_pos waiting).trans ((if_pos synAck).trans (every m agree)))
      · refine Settles.done fun m agree => ?_
        exact (if_neg rst).trans ((if_pos waiting).trans (if_neg synAck))
    · by_cases listening : s.tcp.state = .established ∨ s.tcp.state = .finWait
      · have copies := @receiveData_settles s small within input tcpAt fun positive =>
          inside ⟨rst, listening, positive⟩
        have all := copies.bind fun _ => (acknowledgeData_settles input).bind fun _ => receiveFin_settles input
        obtain ⟨ended, every⟩ := all
        refine ⟨ended, fun m agree => ?_⟩
        exact (if_neg rst).trans ((if_neg waiting).trans ((if_pos listening).trans (every m agree)))
      · refine Settles.done fun m agree => ?_
        exact (if_neg rst).trans ((if_neg waiting).trans (if_neg listening))

/-- A datagram from port 53 to the port of the query. -/
def ForDns (s : NetStack) (udp : UdpHdr) : Prop :=
  ntohs udp.dest = s.dns.localPort ∧ s.dns.localPort ≠ 0#16 ∧ ntohs udp.source = udpPortDns

/-- The user's receive looks at the port, and where it waits for a datagram of this port at the length. -/
theorem receiveUser_congr {udp udp' : UdpHdr} {udpAt : Nat} (dest : udp.dest = udp'.dest)
    (len : ntohs udp'.dest = s.udp.localPort → s.udp.localPort ≠ 0#16 → s.udp.rxBuffer.isSome → udp.len = udp'.len) :
    s.receiveUser udp udpAt = s.receiveUser udp' udpAt := by
  unfold receiveUser
  rw [dest]
  split
  · rename_i wanted
    cases buffer : s.udp.rxBuffer with
    | none => rw [udpDeliver, udpDeliver, buffer]
    | some waiting => rw [udpDeliver, udpDeliver, len wanted.1 wanted.2 (by rw [buffer]; rfl)]
  · rfl

/-- What `handle_udp` reads of a datagram lies in a memory: the port where one is bound, the length and the payload
where the user waits for it, and what the resolver reads where it is a response. -/
structure UdpInside (s : NetStack) (small : MappedMemory) (udpAt : Nat) : Prop where
  ports : s.udp.localPort ≠ 0#16 ∨ s.dns.localPort ≠ 0#16 → udpAt + 4 ≤ small.limit
  len : ntohs (UdpHdr.read small.byte udpAt).dest = s.udp.localPort → s.udp.localPort ≠ 0#16 →
    s.udp.rxBuffer.isSome → udpAt + 6 ≤ small.limit
  user : s.UserCopies (UdpHdr.read small.byte udpAt) →
    udpAt + sizeofUdpHdr + (s.userCopyLen (UdpHdr.read small.byte udpAt)).toNat ≤ small.limit
  dns : s.ForDns (UdpHdr.read small.byte udpAt) → s.DnsInside small (udpAt + sizeofUdpHdr)

theorem UdpInside.settles (within : small.limit ≤ pktBufSize) {udpAt : Nat} (inside : s.UdpInside small udpAt) :
    Settles s small (handleUdp udpAt) := by
  by_cases bound : s.udp.localPort ≠ 0#16 ∨ s.dns.localPort ≠ 0#16
  · have ports := inside.ports bound
    have dest (m : Memory) (agree : AgreeOn small.byte m 0 small.limit) :
        (UdpHdr.read m udpAt).dest = (UdpHdr.read small.byte udpAt).dest :=
      (agree.load16 (Nat.zero_le _) (Nat.le_trans (by omega) ports)).symm
    have source (m : Memory) (agree : AgreeOn small.byte m 0 small.limit) :
        (UdpHdr.read m udpAt).source = (UdpHdr.read small.byte udpAt).source :=
      (agree.load16 (Nat.zero_le _) (Nat.le_trans (by omega) ports)).symm
    obtain ⟨middle, kept, receives⟩ := receiveUser_settles within inside.user
    have user (m : Memory) (agree : AgreeOn small.byte m 0 small.limit) :
        (s.withBytes m).receiveUser (UdpHdr.read m udpAt) udpAt = some (middle.withBytes m) := by
      refine (receiveUser_congr (dest m agree) fun wanted open_ pending => ?_).trans (receives m agree)
      exact (agree.load16 (Nat.zero_le _) (Nat.le_trans (by omega) (inside.len wanted open_ pending))).symm
    have resolves : Settles middle small (receiveDns (UdpHdr.read small.byte udpAt) udpAt) := by
      by_cases forDns : middle.ForDns (UdpHdr.read small.byte udpAt)
      · have response := inside.dns (by rw [ForDns, ← kept]; exact forDns)
        obtain ⟨ended, every⟩ := DnsInside.settles within (response.of_dns kept)
        exact ⟨ended, fun m agree => (if_pos forDns).trans (every m agree)⟩
      · exact Settles.done fun m _ => if_neg forDns
    obtain ⟨ended, every⟩ := resolves
    refine ⟨ended, fun m agree => Option.bind_eq_some_iff.mpr ⟨_, user m agree, ?_⟩⟩
    have later := every m agree
    unfold receiveDns at later ⊢
    rw [← dest m agree, ← source m agree] at later
    exact later
  · obtain ⟨closed, idle⟩ := not_or.mp bound
    refine Settles.done fun m _ => Option.bind_eq_some_iff.mpr ⟨s.withBytes m, ?_, ?_⟩
    · exact if_neg fun wanted => closed wanted.2
    · exact if_neg fun wanted => idle wanted.2.1

/-- A segment for the port of the session. -/
def ForTcp (s : NetStack) (tcp : TcpHdr) : Prop := ntohs tcp.dest = s.tcp.localPort ∧ s.tcp.localPort ≠ 0#16

/-- What `handle_tcp` reads of a segment lies in a memory: the port where there is a session, the fields up to the flags
of a segment for it, and the payload that it copies. -/
structure TcpInside (s : NetStack) (small : MappedMemory) (ip : IpHdr) (tcpAt : Nat) : Prop where
  ports : s.tcp.localPort ≠ 0#16 → tcpAt + 4 ≤ small.limit
  fields : s.ForTcp (TcpHdr.read small.byte tcpAt) → tcpAt + 14 ≤ small.limit
  segment : s.ForTcp (TcpHdr.read small.byte tcpAt) →
    s.SegmentCopies (TcpInput.ofHeaders ip (TcpHdr.read small.byte tcpAt)) →
      tcpAt + (TcpInput.ofHeaders ip (TcpHdr.read small.byte tcpAt)).tcpHlen.toNat +
        s.takenLen (TcpInput.ofHeaders ip (TcpHdr.read small.byte tcpAt)) ≤ small.limit

theorem TcpInside.settles (within : small.limit ≤ pktBufSize) {ip : IpHdr} {tcpAt : Nat}
    (inside : s.TcpInside small ip tcpAt) : Settles s small (handleTcp ip tcpAt) := by
  by_cases open_ : s.tcp.localPort = 0#16
  · exact Settles.done fun m _ => if_pos (Or.inr open_)
  · have dest (m : Memory) (agree : AgreeOn small.byte m 0 small.limit) :
        (TcpHdr.read m tcpAt).dest = (TcpHdr.read small.byte tcpAt).dest :=
      (agree.load16 (Nat.zero_le _) (Nat.le_trans (by omega) (inside.ports open_))).symm
    by_cases here : s.ForTcp (TcpHdr.read small.byte tcpAt)
    · have fields := inside.fields here
      have same (m : Memory) (agree : AgreeOn small.byte m 0 small.limit) :
          TcpInput.ofHeaders ip (TcpHdr.read m tcpAt) = TcpInput.ofHeaders ip (TcpHdr.read small.byte tcpAt) := by
        have flags : (TcpHdr.read m tcpAt).res1DoffFlags = (TcpHdr.read small.byte tcpAt).res1DoffFlags :=
          (agree.load16 (Nat.zero_le _) (by omega)).symm
        have seq : (TcpHdr.read m tcpAt).seq = (TcpHdr.read small.byte tcpAt).seq :=
          (agree.load32 (Nat.zero_le _) (by omega)).symm
        have ackSeq : (TcpHdr.read m tcpAt).ackSeq = (TcpHdr.read small.byte tcpAt).ackSeq :=
          (agree.load32 (Nat.zero_le _) (by omega)).symm
        simp only [TcpInput.ofHeaders, flags, seq, ackSeq]
      refine (onSegment_settles within (inside.segment here)).congr fun m agree => ?_
      rw [← same m agree]
      exact handleTcp_here ((dest m agree).symm ▸ here.1) here.2
    · refine Settles.done fun m agree => if_pos ?_
      by_contra both
      obtain ⟨own, bound⟩ := not_or.mp both
      exact here ⟨(dest m agree) ▸ not_not.mp own, bound⟩

end NetStack

namespace RxFrame

variable (frame : RxFrame)

def eth : EthHdr := EthHdr.read frame.alone.byte 0
def ip : IpHdr := IpHdr.read frame.alone.byte sizeofEthHdr

/-- Where the dispatcher looks for the transport header. -/
def transportAt : Nat := sizeofEthHdr + (ipHlen frame.ip).toNat

def icmp : IcmpHdr := IcmpHdr.read frame.alone.byte frame.transportAt
def udp : UdpHdr := UdpHdr.read frame.alone.byte frame.transportAt
def tcp : TcpHdr := TcpHdr.read frame.alone.byte frame.transportAt

/-- The length that the dispatcher computes of an ICMP message. -/
def icmpLen : UINTN := (ntohs frame.ip.totLen).setWidth 64 - ipHlen frame.ip

def tcpInput : TcpInput := TcpInput.ofHeaders frame.ip frame.tcp

/-- The fixed headers that the handlers overlay lie in the frame. -/
structure HeadersInside : Prop where
  eth : sizeofEthHdr ≤ frame.bytes.length
  arp : frame.eth.type = htons ethertypeArp → sizeofEthHdr + sizeofArpHdr ≤ frame.bytes.length
  ip : frame.eth.type = htons ethertypeIpv4 → sizeofEthHdr + sizeofIpHdr ≤ frame.bytes.length
  icmp : frame.eth.type = htons ethertypeIpv4 → frame.ip.protocol = ipProtoIcmp →
    frame.transportAt + sizeofIcmpHdr ≤ frame.bytes.length
  udp : frame.eth.type = htons ethertypeIpv4 → frame.ip.protocol = ipProtoUdp →
    frame.transportAt + sizeofUdpHdr ≤ frame.bytes.length
  tcp : frame.eth.type = htons ethertypeIpv4 → frame.ip.protocol = ipProtoTcp →
    frame.transportAt + sizeofTcpHdr ≤ frame.bytes.length

/-- The frame asks for an echo that passes the size guard. -/
def AsksEcho : Prop :=
  frame.icmp.type = icmpTypeEchoRequest ∧ frame.icmp.code = icmpCodeZero ∧
    (BitVec.ofNat 64 (sizeofEthHdr + sizeofIpHdr) + frame.icmpLen).toNat ≤ maxPktSize

/-- What a handler copies out of the packet memory lies in the frame: the message of an echo, the
payload for the user's receive and the payload of a segment. -/
structure CopiesInside (s : NetStack) : Prop where
  echo : frame.eth.type = htons ethertypeIpv4 → frame.ip.protocol = ipProtoIcmp → frame.AsksEcho →
    frame.transportAt + frame.icmpLen.toNat ≤ frame.bytes.length
  user : frame.eth.type = htons ethertypeIpv4 → frame.ip.protocol = ipProtoUdp → s.UserCopies frame.udp →
    frame.transportAt + sizeofUdpHdr + (s.userCopyLen frame.udp).toNat ≤ frame.bytes.length
  segment : frame.eth.type = htons ethertypeIpv4 → frame.ip.protocol = ipProtoTcp → s.ForTcp frame.tcp →
    s.SegmentCopies frame.tcpInput →
    frame.transportAt + frame.tcpInput.tcpHlen.toNat + s.takenLen frame.tcpInput ≤ frame.bytes.length

/-- A response for the resolver. -/
def IsDns (s : NetStack) : Prop :=
  frame.eth.type = htons ethertypeIpv4 ∧ frame.ip.protocol = ipProtoUdp ∧ s.ForDns frame.udp

end RxFrame

namespace NetStack

variable {s : NetStack} {frame : RxFrame}

/-- All that a poll reads of a frame lies in it: the Ethernet type, what `handle_arp` reads of an ARP packet, and of an
IPv4 packet the header length and the protocol and what the handler of the protocol reads. -/
structure ReadsInside (s : NetStack) (frame : RxFrame) : Prop where
  type : sizeofEthHdr ≤ frame.bytes.length
  arp : frame.eth.type = htons ethertypeArp → s.ArpInside frame.alone sizeofEthHdr
  protocol : frame.eth.type = htons ethertypeIpv4 → sizeofEthHdr + 10 ≤ frame.bytes.length
  icmp : frame.eth.type = htons ethertypeIpv4 → frame.ip.protocol = ipProtoIcmp →
    s.IcmpInside frame.alone frame.transportAt frame.icmpLen
  udp : frame.eth.type = htons ethertypeIpv4 → frame.ip.protocol = ipProtoUdp →
    s.UdpInside frame.alone frame.transportAt
  tcp : frame.eth.type = htons ethertypeIpv4 → frame.ip.protocol = ipProtoTcp →
    s.TcpInside frame.alone frame.ip frame.transportAt

/-- The transport header is behind the fixed part of the IP header. -/
theorem transportAt_ge (frame : RxFrame) : sizeofEthHdr + sizeofIpHdr ≤ frame.transportAt := by
  refine Nat.add_le_add_left ?_ sizeofEthHdr
  unfold ipHlen
  dsimp only
  split
  · decide
  · rename_i long
    exact Nat.le_of_not_lt long

/-- The dispatcher settles on a frame that holds all that is read of it. -/
theorem ReadsInside.settles (inside : s.ReadsInside frame) : Settles s frame.alone dispatch := by
  have within : frame.alone.limit ≤ pktBufSize := frame.fits
  have behind := transportAt_ge frame
  have type (m : Memory) (agree : AgreeOn frame.alone.byte m 0 frame.alone.limit) :
      (EthHdr.read m 0).type = frame.eth.type :=
    (agree.load16 (Nat.zero_le _) inside.type).symm
  by_cases isArp : frame.eth.type = htons ethertypeArp
  · refine (inside.arp isArp).settles.congr fun m agree => ?_
    exact if_pos ((type m agree).trans isArp)
  · by_cases isIp : frame.eth.type = htons ethertypeIpv4
    · have fields := inside.protocol isIp
      rw [sizeofEthHdr] at fields
      have protocol (m : Memory) (agree : AgreeOn frame.alone.byte m 0 frame.alone.limit) :
          (IpHdr.read m sizeofEthHdr).protocol = frame.ip.protocol :=
        (agree (sizeofEthHdr + 9) (Nat.zero_le _) fields).symm
      have place (m : Memory) (agree : AgreeOn frame.alone.byte m 0 frame.alone.limit) :
          ipHlen (IpHdr.read m sizeofEthHdr) = ipHlen frame.ip := by
        have ihl : (IpHdr.read m sizeofEthHdr).ihlVersion = frame.ip.ihlVersion :=
          (agree sizeofEthHdr (Nat.zero_le _) (Nat.lt_of_lt_of_le (by decide) fields)).symm
        rw [ipHlen, ipHlen, ihl]
      have header (long : frame.transportAt ≤ frame.bytes.length) (m : Memory)
          (agree : AgreeOn frame.alone.byte m 0 frame.alone.limit) : IpHdr.read m sizeofEthHdr = frame.ip :=
        (IpHdr.read_agree agree (Nat.zero_le _) (Nat.le_trans behind long)).symm
      have enter (m : Memory) (agree : AgreeOn frame.alone.byte m 0 frame.alone.limit) :
          (s.withBytes m).dispatch = (s.withBytes m).dispatchIp :=
        (if_neg fun arp => isArp ((type m agree).symm.trans arp)).trans (if_pos ((type m agree).trans isIp))
      by_cases isIcmp : frame.ip.protocol = ipProtoIcmp
      · have message := inside.icmp isIp isIcmp
        refine (@IcmpInside.settles s frame.alone within frame.ip _ _ message).congr fun m agree => ?_
        rw [enter m agree]
        have ip := header (Nat.le_of_succ_le message.type) m agree
        unfold dispatchIp
        dsimp only
        rw [show IpHdr.read (s.withBytes m).rxPkt.byte sizeofEthHdr = frame.ip from ip]
        exact if_pos isIcmp
      · have noIcmp (m : Memory) (agree : AgreeOn frame.alone.byte m 0 frame.alone.limit) :
            (IpHdr.read m sizeofEthHdr).protocol ≠ ipProtoIcmp := (protocol m agree).symm ▸ isIcmp
        by_cases isUdp : frame.ip.protocol = ipProtoUdp
        · refine (UdpInside.settles within (inside.udp isIp isUdp)).congr fun m agree => ?_
          rw [enter m agree]
          refine (if_neg (noIcmp m agree)).trans ((if_pos ((protocol m agree).trans isUdp)).trans ?_)
          exact congrArg (fun hlen : UINTN => (s.withBytes m).handleUdp (sizeofEthHdr + hlen.toNat)) (place m agree)
        · have noUdp (m : Memory) (agree : AgreeOn frame.alone.byte m 0 frame.alone.limit) :
              (IpHdr.read m sizeofEthHdr).protocol ≠ ipProtoUdp := (protocol m agree).symm ▸ isUdp
          by_cases isTcp : frame.ip.protocol = ipProtoTcp
          · have segment := inside.tcp isIp isTcp
            refine (TcpInside.settles within segment).congr fun m agree => ?_
            rw [enter m agree]
            refine (if_neg (noIcmp m agree)).trans
              ((if_neg (noUdp m agree)).trans ((if_pos ((protocol m agree).trans isTcp)).trans ?_))
            by_cases open_ : s.tcp.localPort = 0#16
            · exact (if_pos (Or.inr open_)).trans (if_pos (Or.inr open_)).symm
            · have long : frame.transportAt ≤ frame.bytes.length :=
                Nat.le_trans (Nat.le_add_right _ _) (segment.ports open_)
              rw [show IpHdr.read (s.withBytes m).rxPkt.byte sizeofEthHdr = frame.ip from header long m agree]
              rfl
          · refine Settles.done fun m agree => ?_
            rw [enter m agree]
            exact (if_neg (noIcmp m agree)).trans
              ((if_neg (noUdp m agree)).trans (if_neg ((protocol m agree).symm ▸ isTcp)))
    · refine Settles.done fun m agree => ?_
      exact (if_neg fun arp => isArp ((type m agree).symm.trans arp)).trans
        (if_neg fun ip => isIp ((type m agree).symm.trans ip))

/-- A frame with its fixed headers, its copies and its responses inside holds all that is read of it. -/
theorem readsInside_of_headers (headers : frame.HeadersInside) (copies : frame.CopiesInside s)
    (dns : frame.IsDns s → s.DnsInside frame.alone (frame.transportAt + sizeofUdpHdr)) : s.ReadsInside frame where
  type := headers.eth
  arp isArp := by
    have long := headers.arp isArp
    rw [sizeofArpHdr] at long
    exact
      { oper := Nat.le_trans (by omega) long
        sender := fun _ => Nat.le_trans (by omega) long
        target := fun _ _ => long }
  protocol isIp := Nat.le_trans (by decide) (headers.ip isIp)
  icmp isIp isIcmp := by
    have long := headers.icmp isIp isIcmp
    rw [sizeofIcmpHdr] at long
    exact
      { type := Nat.le_trans (by omega) long
        code := fun _ => Nat.le_trans (by omega) long
        echo := fun type code size => copies.echo isIp isIcmp ⟨type, code, size⟩
        id := fun _ => Nat.le_trans (by omega) long
        seq := fun _ _ => long }
  udp isIp isUdp := by
    have long := headers.udp isIp isUdp
    rw [sizeofUdpHdr] at long
    exact
      { ports := fun _ => Nat.le_trans (by omega) long
        len := fun _ _ _ => Nat.le_trans (by omega) long
        user := copies.user isIp isUdp
        dns := fun forDns => dns ⟨isIp, isUdp, forDns⟩ }
  tcp isIp isTcp := by
    have long := headers.tcp isIp isTcp
    rw [sizeofTcpHdr] at long
    exact
      { ports := fun _ => Nat.le_trans (by omega) long
        fields := fun _ => Nat.le_trans (by omega) long
        segment := copies.segment isIp isTcp }

end NetStack
end UefiNetstack
