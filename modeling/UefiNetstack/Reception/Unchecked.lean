import UefiNetstack.Reception.Taken

namespace UefiNetstack
open Constants NetMath Memory

namespace MappedMemory

variable {memory memory' : MappedMemory} {start p q : Nat}

/-- Two memories map as much and agree from an offset on. -/
structure AgreeFrom (memory memory' : MappedMemory) (start : Nat) : Prop where
  limit : memory'.limit = memory.limit
  byte : ∀ p, start ≤ p → memory.byte p = memory'.byte p

namespace AgreeFrom

variable (agree : AgreeFrom memory memory' start)

include agree

theorem on (stop : Nat) : AgreeOn memory.byte memory'.byte start stop := fun p lower _ => agree.byte p lower

theorem copy (late : start ≤ p) (len : Nat) : memory'.copy p len = memory.copy p len := by
  have same : memory.byte.slice p len = memory'.byte.slice p len := (agree.on (p + len)).slice late (Nat.le_refl _)
  simp only [MappedMemory.copy, agree.limit, same]

theorem read (late : start ≤ p) : memory'.read p = memory.read p := by
  rw [MappedMemory.read, MappedMemory.read, agree.limit, agree.byte p late]

theorem readWord (late : start ≤ p) : memory'.readWord p = memory.readWord p := by
  rw [MappedMemory.readWord, MappedMemory.readWord, agree.read late, agree.read (Nat.le_succ_of_le late)]

theorem skipLabelsWithin (late : start ≤ p) (rounds : Nat) :
    memory'.skipLabelsWithin rounds p = memory.skipLabelsWithin rounds p := by
  induction rounds generalizing p with
  | zero => rfl
  | succ rounds ih =>
      simp only [MappedMemory.skipLabelsWithin, agree.read late]
      refine congrArg _ (funext fun length => ?_)
      rw [ih (Nat.le_add_right_of_le late)]

theorem skipLabels (late : start ≤ p) : memory'.skipLabels p = memory.skipLabels p := by
  rw [MappedMemory.skipLabels, MappedMemory.skipLabels, agree.limit, agree.skipLabelsWithin late]

end AgreeFrom

/-- Labels are skipped forwards. -/
theorem skipLabelsWithin_le {rounds : Nat} (done : memory.skipLabelsWithin rounds p = some q) : p ≤ q := by
  induction rounds generalizing p with
  | zero => cases done
  | succ rounds ih =>
      obtain ⟨length, -, done⟩ := Option.bind_eq_some_iff.mp done
      split at done
      · exact Nat.le_of_eq (Option.some.inj done)
      · exact Nat.le_trans (Nat.le_add_right _ _) (ih done)

theorem skipLabels_le (done : memory.skipLabels p = some q) : p ≤ q := skipLabelsWithin_le done

theorem skipQuestions_le {count : Nat} (done : memory.skipQuestions count p = some q) : p ≤ q := by
  induction count generalizing p with
  | zero => exact Nat.le_of_eq (Option.some.inj done)
  | succ count ih =>
      obtain ⟨root, skipped, done⟩ := Option.bind_eq_some_iff.mp done
      exact Nat.le_trans (skipLabels_le skipped) (Nat.le_trans (Nat.le_add_right _ _) (ih done))

theorem skipName_le (done : memory.skipName p = some q) : p ≤ q := by
  obtain ⟨first, -, done⟩ := Option.bind_eq_some_iff.mp done
  split at done
  · exact Option.some.inj done ▸ Nat.le_add_right _ _
  · obtain ⟨root, skipped, done⟩ := Option.bind_eq_some_iff.mp done
    exact Nat.le_trans (skipLabels_le skipped) (Option.some.inj done ▸ Nat.le_add_right _ _)

/-- Equal first steps and equal rests behind them give equal runs. -/
theorem bind_congr_some {α β : Type} {first : Option α} {next next' : α → Option β}
    (same : ∀ a, first = some a → next' a = next a) : first.bind next' = first.bind next := by
  cases first with
  | none => rfl
  | some a => exact same a rfl

namespace AgreeFrom

variable (agree : AgreeFrom memory memory' start)

include agree

theorem skipQuestions (late : start ≤ p) (count : Nat) :
    memory'.skipQuestions count p = memory.skipQuestions count p := by
  induction count generalizing p with
  | zero => rfl
  | succ count ih =>
      rw [MappedMemory.skipQuestions, MappedMemory.skipQuestions, agree.skipLabels late]
      refine bind_congr_some fun root skipped => ih ?_
      exact Nat.le_trans late (Nat.le_add_right_of_le (skipLabels_le skipped))

theorem skipName (late : start ≤ p) : memory'.skipName p = memory.skipName p := by
  rw [MappedMemory.skipName, MappedMemory.skipName, agree.read late, agree.skipLabels late]

/-- The answer loop reads forwards from where it starts. -/
theorem findAddress (late : start ≤ p) (count : Nat) : memory'.findAddress count p = memory.findAddress count p := by
  induction count generalizing p with
  | zero => rfl
  | succ count ih =>
      rw [MappedMemory.findAddress, MappedMemory.findAddress, agree.skipName late]
      refine bind_congr_some fun q name => ?_
      have reached : start ≤ q := Nat.le_trans late (skipName_le name)
      have data : start ≤ q + 0x08 + 0x02 := Nat.le_trans reached (by omega)
      rw [agree.readWord reached, agree.readWord (Nat.le_add_right_of_le reached)]
      refine bind_congr_some fun rtype _ => bind_congr_some fun rdlen _ => ?_
      dsimp only
      rw [agree.copy data, ih (Nat.le_add_right_of_le data), (agree.on _).load32 data (Nat.le_refl _)]

end AgreeFrom
end MappedMemory

namespace NetStack

variable {s s' : NetStack} {m : Memory} {past : List Event}

/-- The stack with another page and an earlier past. -/
def onPage (m : Memory) (past : List Event) (s : NetStack) : NetStack :=
  { s with rxPkt := { s.rxPkt with byte := m }, trace := past ++ s.trace }

/-- A run does the same on another page. -/
def Follows (m : Memory) (past : List Event) (run : NetStack → Option NetStack) (s : NetStack) : Prop :=
  run (s.onPage m past) = (run s).map (onPage m past)

theorem Follows.done {run : NetStack → Option NetStack} (here : run s = some s')
    (there : run (s.onPage m past) = some (s'.onPage m past)) : Follows m past run s := by
  rw [Follows, here, there]
  rfl

theorem Follows.bind {run next : NetStack → Option NetStack} (first : Follows m past run s)
    (second : ∀ middle, run s = some middle → Follows m past next middle) :
    Follows m past (fun s => (run s).bind next) s := by
  unfold Follows at first ⊢
  dsimp only
  rw [first]
  cases ran : run s with
  | none => rfl
  | some middle => exact second middle ran

theorem log_onPage (s : NetStack) (event : Event) : (s.onPage m past).log event = (s.log event).onPage m past := by
  simp [onPage, log]

theorem sendFrame_onPage (s : NetStack) (data : TxFrame) :
    (s.onPage m past).sendFrame data = (s.sendFrame data).onPage m past := by
  simp [onPage, sendFrame, sendRaw]

/-- A frame to send is its bytes. -/
theorem sameFrame {frame frame' : TxFrame} (bytes : frame'.bytes = frame.bytes) : frame' = frame := by
  obtain ⟨content, fits⟩ := frame
  obtain ⟨content', fits'⟩ := frame'
  obtain rfl : content' = content := bytes
  rfl

theorem sendTcpControl_follows (s : NetStack) (flags : UINT8) : Follows m past (sendTcpControl flags) s := by
  obtain ⟨frame, sends, bytes⟩ := sendTcpInternal_eq s flags s.tcp.seq s.tcp.ack [] (Nat.zero_le _)
  obtain ⟨frame', sends', bytes'⟩ :=
    sendTcpInternal_eq (s.onPage m past) flags s.tcp.seq s.tcp.ack [] (Nat.zero_le _)
  have same : frame' = frame := sameFrame (bytes'.trans bytes.symm)
  refine Follows.done sends (sends'.trans ?_)
  rw [same]
  exact congrArg some (sendFrame_onPage s.getU32.2 frame)

/-- The reply computes the checksum of the message anew, whatever its field held. -/
theorem icmpReply_congr {message message' : Bytes} (length : message'.length = message.length)
    (same : ∀ index, index ≠ 2 → index ≠ 3 → message'[index]? = message[index]?) :
    icmpReply message' = icmpReply message := by
  have cleared : put16 ((message' ++ List.replicate sizeofIcmpHdr 0#8).set 0 icmpTypeEchoReply) 2 0#16 =
      put16 ((message ++ List.replicate sizeofIcmpHdr 0#8).set 0 icmpTypeEchoReply) 2 0#16 := by
    apply List.ext_getElem?
    intro index
    simp only [put16, List.getElem?_set, List.length_set, List.length_append, length]
    by_cases third : 3 = index
    · simp [third]
    · by_cases second : 2 = index
      · simp [second]
      · simp only [if_neg third, if_neg second, Nat.reduceAdd, List.getElem?_append, length,
          same index (Ne.symm second) (Ne.symm third)]
  simp only [icmpReply, length, cleared]

/-- Two echoes of messages that differ in the checksum alone are one reply. -/
theorem replyToPing_follows {ip ip' : IpHdr} {icmpAt : Nat} {len : UINTN} (saddr : ip'.saddr = ip.saddr)
    (same : ∀ index, index ≠ 2 → index ≠ 3 → m (icmpAt + index) = s.rxPkt.byte (icmpAt + index)) :
    (s.onPage m past).replyToPing ip' icmpAt len = (s.replyToPing ip icmpAt len).map (onPage m past) := by
  unfold replyToPing
  dsimp only
  split
  · rfl
  · split
    · rename_i fits
      unfold MappedMemory.copy
      change (if icmpAt + len.toNat ≤ s.rxPkt.limit then _ else none).bind _ =
        ((if icmpAt + len.toNat ≤ s.rxPkt.limit then _ else none).bind _).map _
      split
      · have reply : icmpReply (m.slice icmpAt len.toNat) = icmpReply (s.rxPkt.byte.slice icmpAt len.toNat) := by
          refine icmpReply_congr (by rw [slice_length, slice_length]) fun index second third => ?_
          rw [slice_getElem?, slice_getElem?, same index second third]
        have frame : (s.onPage m past).getU32.2.icmpReplyFrame ip'.saddr (m.slice icmpAt len.toNat) s.getU32.1 =
            s.getU32.2.icmpReplyFrame ip.saddr (s.rxPkt.byte.slice icmpAt len.toNat) s.getU32.1 := by
          simp only [icmpReplyFrame, reply, slice_length, saddr]
          rfl
        refine congrArg some (Eq.trans ?_ (sendFrame_onPage s.getU32.2 _))
        refine congrArg (fun data => sendFrame data (s.getU32.2.onPage m past)) ?_
        exact sameFrame frame
      · rfl
    · rfl

theorem handleIcmp_follows {ip ip' : IpHdr} {icmpAt : Nat} {len : UINTN} (saddr : ip'.saddr = ip.saddr)
    (same : ∀ index, index ≠ 2 → index ≠ 3 → m (icmpAt + index) = s.rxPkt.byte (icmpAt + index)) :
    (s.onPage m past).handleIcmp ip' icmpAt len = (s.handleIcmp ip icmpAt len).map (onPage m past) := by
  have word (offset : Nat) (behind : 4 ≤ offset) : m.load16 (icmpAt + offset) = s.rxPkt.byte.load16 (icmpAt + offset) := by
    have low := same offset (by omega) (by omega)
    have high := same (offset + 1) (by omega) (by omega)
    simp only [Memory.load16, Nat.add_assoc, low, high]
  have type : (IcmpHdr.read m icmpAt).type = (IcmpHdr.read s.rxPkt.byte icmpAt).type :=
    same 0 (by decide) (by decide)
  have code : (IcmpHdr.read m icmpAt).code = (IcmpHdr.read s.rxPkt.byte icmpAt).code :=
    same 1 (by decide) (by decide)
  have id : (IcmpHdr.read m icmpAt).id = (IcmpHdr.read s.rxPkt.byte icmpAt).id := word 4 (by decide)
  have seq : (IcmpHdr.read m icmpAt).seq = (IcmpHdr.read s.rxPkt.byte icmpAt).seq := word 6 (by decide)
  unfold handleIcmp
  change (if (IcmpHdr.read m icmpAt).type = _ ∧ (IcmpHdr.read m icmpAt).code = _ then _
    else if (IcmpHdr.read m icmpAt).type = _ then
      (if ntohs (IcmpHdr.read m icmpAt).id = s.ping.id ∧ ntohs (IcmpHdr.read m icmpAt).seq = s.ping.seq then _ else _)
    else _) = _
  rw [type, code, id, seq]
  dsimp only
  split
  · exact replyToPing_follows saddr same
  · split
    · split
      all_goals rfl
    · rfl

/-- A page agrees with the page of a stack from an offset on. -/
def AgreesFrom (s : NetStack) (m : Memory) (start : Nat) : Prop := ∀ p, start ≤ p → s.rxPkt.byte p = m p

theorem AgreesFrom.memory {start : Nat} (agrees : s.AgreesFrom m start) :
    MappedMemory.AgreeFrom s.rxPkt.toMappedMemory (s.onPage m past).rxPkt.toMappedMemory start where
  limit := rfl
  byte := agrees

theorem AgreesFrom.of_rxPkt {start : Nat} (agrees : s.AgreesFrom m start) (rxPkt : s'.rxPkt = s.rxPkt) :
    s'.AgreesFrom m start := by
  unfold AgreesFrom
  rw [rxPkt]
  exact agrees

theorem receiveUser_follows {udp udp' : UdpHdr} {udpAt : Nat} (dest : udp'.dest = udp.dest) (len : udp'.len = udp.len)
    (agrees : s.AgreesFrom m (udpAt + sizeofUdpHdr)) :
    (s.onPage m past).receiveUser udp' udpAt = (s.receiveUser udp udpAt).map (onPage m past) := by
  unfold receiveUser
  rw [dest]
  change (if ntohs udp.dest = s.udp.localPort ∧ s.udp.localPort ≠ 0#16 then _ else _) = _
  split
  · cases pending : s.udp.rxBuffer with
    | none =>
      have noBuffer : (s.onPage m past).udp.rxBuffer = none := pending
      rw [udpDeliver, udpDeliver, noBuffer, pending]
      rfl
    | some buffer =>
      have buffered : (s.onPage m past).udp.rxBuffer = some buffer := pending
      rw [udpDeliver, udpDeliver, buffered, pending, len]
      dsimp only
      split
      · rw [agrees.memory.copy (Nat.le_refl _)]
        change (s.rxPkt.copy _ (if _ > s.udp.rxMaxLen then s.udp.rxMaxLen else _).toNat).bind _ =
          ((s.rxPkt.copy _ _).bind _).map _
        cases s.rxPkt.copy (udpAt + sizeofUdpHdr)
            (if (ntohs udp.len).setWidth 64 - BitVec.ofNat 64 sizeofUdpHdr > s.udp.rxMaxLen then s.udp.rxMaxLen
              else (ntohs udp.len).setWidth 64 - BitVec.ofNat 64 sizeofUdpHdr).toNat with
        | none => rfl
        | some data =>
          simp only [Option.bind_some, Option.map_some, log_onPage]
          rfl
      · rfl
  · rfl

/-- The resolver reads from the DNS header on. -/
theorem handleDns_follows {dnsAt : Nat} (agrees : s.AgreesFrom m dnsAt) : Follows m past (handleDns dnsAt) s := by
  have same : DnsHdr.read m dnsAt = DnsHdr.read s.rxPkt.byte dnsAt :=
    (DnsHdr.read_agree ((@AgreesFrom.memory s m past dnsAt agrees).on _) (Nat.le_refl _) (Nat.le_refl _)).symm
  have late : dnsAt ≤ dnsAt + sizeofDnsHdr := Nat.le_add_right _ _
  unfold Follows handleDns
  change (if (DnsHdr.read m dnsAt).id ≠ htons s.dns.currentId then _ else _) = _
  rw [same]
  dsimp only
  split
  · rfl
  · change (if ntohs (DnsHdr.read m dnsAt).flags &&& dnsFlagResponse = 0#16 then _ else _) = _
    rw [same]
    split
    · rfl
    · change (if ntohs (DnsHdr.read m dnsAt).ancount = 0#16 then _ else
        ((s.onPage m past).rxPkt.skipQuestions (ntohs (DnsHdr.read m dnsAt).qdcount).toNat _).bind fun p =>
          ((s.onPage m past).rxPkt.findAddress (ntohs (DnsHdr.read m dnsAt).ancount).toNat p).bind _) = _
      rw [same, agrees.memory.skipQuestions late]
      split
      · rfl
      · cases skipped : s.rxPkt.skipQuestions (ntohs (DnsHdr.read s.rxPkt.byte dnsAt).qdcount).toNat
            (dnsAt + sizeofDnsHdr) with
        | none => rfl
        | some p =>
          have reached := Nat.le_trans late (MappedMemory.skipQuestions_le skipped)
          dsimp only [Option.bind_some, Option.bind_eq_bind]
          rw [agrees.memory.findAddress reached]
          cases s.rxPkt.findAddress (ntohs (DnsHdr.read s.rxPkt.byte dnsAt).ancount).toNat p with
          | none => rfl
          | some answer =>
            cases answer with
            | none => rfl
            | some address => rfl

theorem receiveDns_follows {udp udp' : UdpHdr} {udpAt : Nat} (source : udp'.source = udp.source)
    (dest : udp'.dest = udp.dest) (agrees : s.AgreesFrom m (udpAt + sizeofUdpHdr)) :
    (s.onPage m past).receiveDns udp' udpAt = (s.receiveDns udp udpAt).map (onPage m past) := by
  have resolves := @handleDns_follows s m past (udpAt + sizeofUdpHdr) agrees
  unfold receiveDns
  rw [dest, source]
  change (if ntohs udp.dest = s.dns.localPort ∧ s.dns.localPort ≠ 0#16 ∧ ntohs udp.source = udpPortDns
    then _ else _) = _
  split
  · exact resolves
  · rfl

theorem handleUdp_follows {udpAt : Nat} (source : (UdpHdr.read m udpAt).source = (UdpHdr.read s.rxPkt.byte udpAt).source)
    (dest : (UdpHdr.read m udpAt).dest = (UdpHdr.read s.rxPkt.byte udpAt).dest)
    (len : (UdpHdr.read m udpAt).len = (UdpHdr.read s.rxPkt.byte udpAt).len)
    (agrees : s.AgreesFrom m (udpAt + sizeofUdpHdr)) : Follows m past (handleUdp udpAt) s := by
  have user := @receiveUser_follows s m past _ _ udpAt dest len agrees
  unfold Follows
  change ((s.onPage m past).receiveUser (UdpHdr.read m udpAt) udpAt).bind
      (receiveDns (UdpHdr.read m udpAt) udpAt) =
    ((s.receiveUser (UdpHdr.read s.rxPkt.byte udpAt) udpAt).bind
      (receiveDns (UdpHdr.read s.rxPkt.byte udpAt) udpAt)).map (onPage m past)
  rw [user]
  cases received : s.receiveUser (UdpHdr.read s.rxPkt.byte udpAt) udpAt with
  | none => rfl
  | some middle =>
    have behind := agrees.of_rxPkt (receiveUser_keepsResolver received).rxPkt
    exact receiveDns_follows source dest behind

/-- A segment is sent and the state set after it. -/
theorem sendThen_follows (s : NetStack) (flags : UINT8) (state : TcpState) :
    Follows m past (fun s => (s.sendTcpControl flags).bind fun t => some { t with tcp := { t.tcp with state } }) s := by
  refine Follows.bind (sendTcpControl_follows s flags) fun middle _ => ?_
  exact Follows.done rfl rfl

theorem acceptSynAck_follows (input : TcpInput) : Follows m past (acceptSynAck input) s :=
  sendThen_follows { s with tcp := { s.tcp with seq := input.rxAck, ack := input.rxSeq + 0x01#32 } } tcpFlagAck
    .established

theorem receiveData_follows {input : TcpInput} {tcpAt : Nat} (agrees : s.AgreesFrom m (tcpAt + input.tcpHlen.toNat)) :
    Follows m past (receiveData input tcpAt) s := by
  unfold Follows
  cases pending : s.tcp.rxBuffer with
  | none =>
    have noBuffer : (s.onPage m past).tcp.rxBuffer = none := pending
    rw [receiveData, receiveData, noBuffer, pending]
    rfl
  | some buffer =>
    have buffered : (s.onPage m past).tcp.rxBuffer = some buffer := pending
    rw [receiveData, receiveData, buffered, pending]
    dsimp only
    split
    · change (if s.copyLen input > 0#64 then _ else _) = _
      split
      · change ((s.onPage m past).rxPkt.copy (tcpAt + input.tcpHlen.toNat) (s.copyLen input).toNat).bind _ =
          ((s.rxPkt.copy (tcpAt + input.tcpHlen.toNat) (s.copyLen input).toNat).bind _).map _
        rw [agrees.memory.copy (Nat.le_refl _)]
        cases s.rxPkt.copy (tcpAt + input.tcpHlen.toNat) (s.copyLen input).toNat with
        | none => rfl
        | some data =>
          simp only [Option.bind_some, Option.map_some, log_onPage]
          rfl
      · rfl
    · rfl

theorem acknowledgeData_follows (input : TcpInput) : Follows m past (acknowledgeData input) s := by
  have sends := @sendTcpControl_follows m past
    { s with
      tcp := { s.tcp with
        seq := input.rxAck
        ack := (input.rxSeq.setWidth 64 + input.payloadLen).setWidth 32 } } tcpFlagAck
  unfold Follows acknowledgeData
  split
  · exact sends
  · rfl

theorem receiveFin_follows (input : TcpInput) : Follows m past (receiveFin input) s := by
  have sends := @sendThen_follows m past
    { s with
      tcp := { s.tcp with
        seq := input.rxAck
        ack := (input.rxSeq.setWidth 64 + input.payloadLen + 0x01#64).setWidth 32 } } tcpFlagFinAck .closedDone
  unfold Follows receiveFin
  split
  · exact sends
  · rfl

/-- The state machine reads the page at the payload only. -/
theorem onSegment_follows {input : TcpInput} {tcpAt : Nat} (agrees : s.AgreesFrom m (tcpAt + input.tcpHlen.toNat)) :
    Follows m past (onSegment input tcpAt) s := by
  unfold Follows onSegment
  change (if input.has tcpFlagRst then _ else if s.tcp.state = .synSent then _
    else if s.tcp.state = .established ∨ s.tcp.state = .finWait then _ else _) = _
  split
  · rfl
  · split
    · split
      · exact acceptSynAck_follows input
      · rfl
    · split
      · exact Follows.bind (receiveData_follows agrees) fun taken _ =>
          Follows.bind (acknowledgeData_follows input) fun acknowledged _ => receiveFin_follows input
      · rfl

end NetStack
end UefiNetstack
