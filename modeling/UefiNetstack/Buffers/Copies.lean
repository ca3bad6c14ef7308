import UefiNetstack.Session.Reaction

namespace UefiNetstack
open Constants

/-- A pending receive: the caller's buffer, its size and how much of it is counted as filled. -/
structure Pending where
  buffer : Option Memory
  maxLen : UINTN
  currentLen : UINTN

def TcpSession.pending (tcp : TcpSession) : Pending :=
  { buffer := tcp.rxBuffer, maxLen := tcp.rxMaxLen, currentLen := tcp.rxCurrentLen }

def UdpReceiver.pending (udp : UdpReceiver) : Pending :=
  { buffer := udp.rxBuffer, maxLen := udp.rxMaxLen, currentLen := udp.rxCurrentLen }

/-- A copy that a handler makes through one of the two buffer pointers. -/
inductive Copy where
  | tcp (offset : UINTN) (data : Bytes)
  | udp (data : Bytes)

/-- The copy that an event records. -/
def Event.copy? : Event → Option Copy
  | .tcpCopy offset data => some (.tcp offset data)
  | .udpCopy data => some (.udp data)
  | _ => none

theorem Snp.Quiet.copy?_eq_none {event : Event} (quiet : Snp.Quiet event) : event.copy? = none := by
  rcases quiet with ⟨_, rfl⟩ | ⟨_, rfl⟩ <;> rfl

namespace NetStack

variable {s s' s'' : NetStack}

/-- The copies that were made, in order. -/
def copies (s : NetStack) : List Copy := s.trace.filterMap Event.copy?

/-- A step that keeps what the receive calls wait with and copies nothing. -/
structure CopiesNothing (s s' : NetStack) : Prop where
  tcp : s'.tcp.pending = s.tcp.pending
  udp : s'.udp = s.udp
  copies : s'.copies = s.copies

/-- A poll copies nothing, appends to the stream buffer or fills the datagram buffer. -/
inductive BufferStep (s s' : NetStack) : Prop
  | nothing (nothing : CopiesNothing s s')
  | tcp (buffer : Memory) (data : Bytes) (pending : s.tcp.rxBuffer = some buffer)
      (room : data.length ≤ (s.tcp.rxMaxLen - s.tcp.rxCurrentLen).toNat)
      (stored : s'.tcp.pending =
        { buffer := some (buffer.write s.tcp.rxCurrentLen.toNat data)
          maxLen := s.tcp.rxMaxLen
          currentLen := s.tcp.rxCurrentLen + BitVec.ofNat 64 data.length })
      (udp : s'.udp = s.udp) (copies : s'.copies = s.copies ++ [.tcp s.tcp.rxCurrentLen data])
  | udp (buffer : Memory) (data : Bytes) (pending : s.udp.rxBuffer = some buffer)
      (room : data.length ≤ s.udp.rxMaxLen.toNat)
      (stored : s'.udp =
        { s.udp with rxBuffer := some (buffer.write 0 data), rxCurrentLen := BitVec.ofNat 64 data.length, rxDone := true })
      (tcp : s'.tcp.pending = s.tcp.pending) (copies : s'.copies = s.copies ++ [.udp data])

theorem CopiesNothing.refl (s : NetStack) : CopiesNothing s s := ⟨rfl, rfl, rfl⟩

theorem CopiesNothing.trans (first : CopiesNothing s s') (second : CopiesNothing s' s'') : CopiesNothing s s'' where
  tcp := second.tcp.trans first.tcp
  udp := second.udp.trans first.udp
  copies := second.copies.trans first.copies

/-- Steps that copy nothing may stand before and after a step. -/
theorem CopiesNothing.then (first : CopiesNothing s s') (second : BufferStep s' s'') : BufferStep s s'' := by
  have rxBuffer : s'.tcp.rxBuffer = s.tcp.rxBuffer := congrArg Pending.buffer first.tcp
  have rxMaxLen : s'.tcp.rxMaxLen = s.tcp.rxMaxLen := congrArg Pending.maxLen first.tcp
  have rxCurrentLen : s'.tcp.rxCurrentLen = s.tcp.rxCurrentLen := congrArg Pending.currentLen first.tcp
  cases second with
  | nothing nothing => exact .nothing (first.trans nothing)
  | tcp buffer data pending room stored udp copies =>
      rw [rxMaxLen, rxCurrentLen] at room stored
      exact .tcp buffer data (rxBuffer.symm.trans pending) room stored (udp.trans first.udp)
        (by rw [copies, first.copies, rxCurrentLen])
  | udp buffer data pending room stored tcp copies =>
      rw [first.udp] at pending room stored
      exact .udp buffer data pending room stored (tcp.trans first.tcp) (by rw [copies, first.copies])

theorem BufferStep.then (first : BufferStep s s') (second : CopiesNothing s' s'') : BufferStep s s'' := by
  cases first with
  | nothing nothing => exact .nothing (nothing.trans second)
  | tcp buffer data pending room stored udp copies =>
      exact .tcp buffer data pending room (second.tcp.trans stored) (second.udp.trans udp)
        (second.copies.trans copies)
  | udp buffer data pending room stored tcp copies =>
      exact .udp buffer data pending room (second.udp.trans stored) (second.tcp.trans tcp)
        (second.copies.trans copies)

theorem log_copies (s : NetStack) {event : Event} (noCopy : event.copy? = none) : (s.log event).copies = s.copies := by
  simp [copies, log, noCopy]

theorem log_copiesNothing (s : NetStack) {event : Event} (noCopy : event.copy? = none) : CopiesNothing s (s.log event) :=
  ⟨rfl, rfl, s.log_copies noCopy⟩

theorem sendFrame_copies (data : TxFrame) (s : NetStack) : (s.sendFrame data).copies = s.copies := by
  have seen := sendFrame_filterMap Event.copy? (fun _ quiet => quiet.copy?_eq_none) data s
  exact seen.trans (List.append_nil _)

theorem sendFrame_copiesNothing (data : TxFrame) (s : NetStack) : CopiesNothing s (s.sendFrame data) :=
  ⟨rfl, rfl, sendFrame_copies data s⟩

theorem sendTcpInternal_copiesNothing {flags : UINT8} {seq ack : UINT32} {data : Bytes}
    (done : s.sendTcpInternal flags seq ack data = some s') : CopiesNothing s s' := by
  obtain ⟨frame, -, rfl⟩ := sendTcpInternal_cases done
  exact ⟨rfl, rfl, sendFrame_copies frame s.getU32.2⟩

theorem handleArp_copiesNothing (s : NetStack) (arp : ArpHdr) : CopiesNothing s (s.handleArp arp) := by
  rcases s.handleArp_cases arp with ⟨-, learned⟩ | ⟨-, ⟨frame, -, sent⟩ | same⟩
  · rw [learned, learnArp_eq]
    exact ⟨rfl, rfl, rfl⟩
  · rw [sent]
    exact sendFrame_copiesNothing frame s
  · rw [same]
    exact CopiesNothing.refl s

theorem replyToPing_copiesNothing {ip : IpHdr} {icmpAt : Nat} {len : UINTN}
    (done : s.replyToPing ip icmpAt len = some s') : CopiesNothing s s' := by
  rcases replyToPing_cases done with rfl | ⟨message, frame, -, -, rfl⟩
  · exact CopiesNothing.refl s'
  · exact ⟨rfl, rfl, sendFrame_copies frame s.getU32.2⟩

theorem handleIcmp_copiesNothing {ip : IpHdr} {icmpAt : Nat} {len : UINTN}
    (done : s.handleIcmp ip icmpAt len = some s') : CopiesNothing s s' := by
  rcases handleIcmp_cases done with echoed | rfl | rfl
  · exact replyToPing_copiesNothing echoed
  · exact ⟨rfl, rfl, rfl⟩
  · exact CopiesNothing.refl s'

theorem receiveDns_copiesNothing {udp : UdpHdr} {udpAt : Nat} (done : s.receiveDns udp udpAt = some s') :
    CopiesNothing s s' := by
  rcases receiveDns_cases done with ⟨-, handled⟩ | rfl
  · rcases handleDns_cases handled with rfl | ⟨address, -, rfl⟩
    · exact CopiesNothing.refl s'
    · exact ⟨rfl, rfl, rfl⟩
  · exact CopiesNothing.refl s'

theorem udpDeliver_bufferStep {udp : UdpHdr} {udpAt : Nat} (done : s.udpDeliver udp udpAt = some s') :
    BufferStep s s' := by
  rcases udpDeliver_cases done with rfl | ⟨buffer, copyLen, data, pending, room, -, rfl⟩
  · exact .nothing (CopiesNothing.refl s')
  · refine .udp buffer data.val pending (data.property.trans_le room) ?_ rfl ?_
    · rw [data.property, BitVec.ofNat_toNat, BitVec.setWidth_eq]
    · simp [copies, log, Event.copy?]

theorem handleUdp_bufferStep {udpAt : Nat} (done : s.handleUdp udpAt = some s') : BufferStep s s' := by
  obtain ⟨middle, user, dns⟩ := Option.bind_eq_some_iff.mp done
  refine BufferStep.then ?_ (receiveDns_copiesNothing dns)
  rcases receiveUser_cases user with delivered | rfl
  · exact udpDeliver_bufferStep delivered
  · exact .nothing (CopiesNothing.refl middle)

/-- The space computation bounds the copy. -/
theorem copyLen_le_space (s : NetStack) (input : TcpInput) :
    (s.copyLen input).toNat ≤ (s.tcp.rxMaxLen - s.tcp.rxCurrentLen).toNat := by
  unfold copyLen
  dsimp only
  split
  · exact Nat.le_refl _
  · rename_i fits
    exact Nat.le_of_not_lt fits

theorem receiveData_bufferStep {input : TcpInput} {tcpAt : Nat} (done : s.receiveData input tcpAt = some s') :
    BufferStep s s' := by
  rcases receiveData_cases done with ⟨-, rfl⟩ | ⟨buffer, pending, -, copied⟩
  · exact .nothing (CopiesNothing.refl s')
  · obtain ⟨data, -, rfl⟩ := copyPayload_cases copied
    refine .tcp buffer data.val pending (data.property.trans_le (s.copyLen_le_space input)) ?_ rfl ?_
    · rw [data.property, BitVec.ofNat_toNat, BitVec.setWidth_eq]
      rfl
    · simp [copies, log, Event.copy?]

theorem acknowledgeData_copiesNothing {input : TcpInput} (done : s.acknowledgeData input = some s') :
    CopiesNothing s s' := by
  rcases acknowledgeData_cases done with ⟨-, rfl⟩ | ⟨-, acknowledged⟩
  · exact CopiesNothing.refl s'
  · have sent := sendTcpInternal_copiesNothing acknowledged
    exact ⟨sent.tcp, sent.udp, sent.copies⟩

theorem receiveFin_copiesNothing {input : TcpInput} (done : s.receiveFin input = some s') : CopiesNothing s s' := by
  rcases receiveFin_cases done with ⟨-, rfl⟩ | ⟨-, out, answered, rfl⟩
  · exact CopiesNothing.refl s'
  · have sent := sendTcpInternal_copiesNothing answered
    exact ⟨sent.tcp, sent.udp, sent.copies⟩

theorem acceptSynAck_copiesNothing {input : TcpInput} (done : s.acceptSynAck input = some s') :
    CopiesNothing s s' := by
  obtain ⟨out, answered, rfl⟩ := acceptSynAck_cases done
  have sent := sendTcpInternal_copiesNothing answered
  exact ⟨sent.tcp, sent.udp, sent.copies⟩

theorem onSegment_bufferStep {input : TcpInput} {tcpAt : Nat} (done : s.onSegment input tcpAt = some s') :
    BufferStep s s' := by
  cases onSegment_branch done with
  | abort rst aborted =>
      subst aborted
      exact .nothing ⟨rfl, rfl, rfl⟩
  | accept noRst waiting synAck accepted => exact .nothing (acceptSynAck_copiesNothing accepted)
  | receive noRst listening copied acked copies acknowledges ends =>
      exact (receiveData_bufferStep copies).then
        ((acknowledgeData_copiesNothing acknowledges).trans (receiveFin_copiesNothing ends))
  | ignore noRst notSynAck deaf unchanged =>
      subst unchanged
      exact .nothing (CopiesNothing.refl s')

theorem dispatch_bufferStep (done : s.dispatch = some s') : BufferStep s s' := by
  cases dispatch_branch done with
  | arp type handled =>
      subst handled
      exact .nothing (s.handleArp_copiesNothing _)
  | icmp type ip header protocol handled => exact .nothing (handleIcmp_copiesNothing handled)
  | udp type ip header protocol handled => exact handleUdp_bufferStep handled
  | tcp type ip header protocol handled =>
      rcases handleTcp_cases handled with ⟨-, rfl⟩ | ⟨-, -, segment⟩
      · exact .nothing (CopiesNothing.refl s')
      · exact onSegment_bufferStep segment
  | drop notArp notTcp unchanged =>
      subst unchanged
      exact .nothing (CopiesNothing.refl s')

theorem landed_copiesNothing (s : NetStack) (frame : RxFrame) : CopiesNothing s (s.landed frame) :=
  ⟨rfl, rfl, s.log_copies rfl⟩

theorem resetNic_copiesNothing (s : NetStack) : CopiesNothing s s.resetNic := by
  have reset : CopiesNothing s (s.log .reset) := s.log_copiesNothing rfl
  have filters : CopiesNothing (s.log .reset) ((s.log .reset).log .receiveFilters) := log_copiesNothing _ rfl
  have stalled : CopiesNothing ((s.log .reset).log .receiveFilters) s.resetNic :=
    @log_copiesNothing _ (.stall stall10ms) rfl
  exact (reset.trans filters).trans stalled

theorem pollOn_bufferStep {answer : Receive} (done : s.pollOn answer = some s') : BufferStep s s' := by
  cases answer with
  | frame frame => exact (s.landed_copiesNothing frame).then (dispatch_bufferStep (s := s.landed frame) done)
  | notReady =>
      obtain rfl := Option.some.inj done
      exact .nothing (s.log_copiesNothing rfl)
  | error =>
      obtain rfl := Option.some.inj done
      have logged : CopiesNothing s (s.log (.receive .error)) := s.log_copiesNothing rfl
      exact .nothing (logged.trans (resetNic_copiesNothing _))

/-- Every poll, whatever frame it gets, makes at most one copy and into a pending buffer. -/
theorem poll_bufferStep (done : s.poll = some s') : BufferStep s s' := by
  have taken : CopiesNothing s s.received := ⟨rfl, rfl, rfl⟩
  exact taken.then (pollOn_bufferStep done)

end NetStack
end UefiNetstack
