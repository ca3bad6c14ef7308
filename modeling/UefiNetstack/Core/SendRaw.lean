import UefiNetstack.Globals

namespace UefiNetstack
open Constants

/-- A frame to send fits the transmit page. -/
structure TxFrame where
  bytes : Bytes
  fits : bytes.length ≤ pktBufSize

namespace Snp

/-- One GetStatus call takes the next answer. -/
def nextStatus (snp : Snp) : StatusAnswer × Snp :=
  (snp.getStatus.headD {}, { snp with getStatus := snp.getStatus.tail })

/-- One Transmit call takes the next answer. -/
def nextTransmit (snp : Snp) : EfiStatus × Snp :=
  (snp.transmit.headD .success, { snp with transmit := snp.transmit.tail })

/-- The loop polls GetStatus and stalls until a transmit buffer comes back. -/
def awaitTransmit : Nat → Snp → List Event × Snp
  | 0, snp => ([], snp)
  | retries + 1, snp =>
    let (answer, snp) := snp.nextStatus
    if answer.status.isError = false ∧ answer.txBuf then ([.getStatus answer], snp)
    else
      let later := awaitTransmit retries snp
      (.getStatus answer :: .stall stall500us :: later.1, later.2)

/-- The calls of one `send_raw` and what it returns. -/
def sendRaw (data : Bytes) (snp : Snp) : EfiStatus × List Event × Snp :=
  let (before, snp) := snp.nextStatus
  let (st, snp) := snp.nextTransmit
  let events := [.copyToTxPkt data, .getStatus before, .transmit data st]
  if st.isError then (st, events, snp)
  else
    let polled := awaitTransmit timeoutTxRetries snp
    (.success, events ++ polled.1, polled.2)

/-- The completion loop only asks for the status and stalls. -/
def Quiet (event : Event) : Prop := (∃ answer, event = .getStatus answer) ∨ ∃ micros, event = .stall micros

theorem Quiet.frame?_eq_none {event : Event} (quiet : Quiet event) : event.frame? = none := by
  rcases quiet with ⟨_, rfl⟩ | ⟨_, rfl⟩ <;> rfl

theorem Quiet.tcpBytes_eq_nil {event : Event} (quiet : Quiet event) : event.tcpBytes = [] := by
  rcases quiet with ⟨_, rfl⟩ | ⟨_, rfl⟩ <;> rfl

theorem awaitTransmit_quiet (retries : Nat) (snp : Snp) :
    ∀ event ∈ (awaitTransmit retries snp).1, Quiet event := by
  induction retries generalizing snp with
  | zero => simp [awaitTransmit]
  | succ retries ih =>
      simp only [awaitTransmit]
      split
      · intro event member
        exact Or.inl ⟨_, List.mem_singleton.mp member⟩
      · intro event member
        rcases List.mem_cons.mp member with rfl | member
        · exact Or.inl ⟨_, rfl⟩
        · rcases List.mem_cons.mp member with rfl | member
          · exact Or.inr ⟨_, rfl⟩
          · exact ih _ event member

/-- One call hands exactly its frame to Transmit and is quiet after that. -/
theorem sendRaw_events (data : Bytes) (snp : Snp) :
    ∃ polled, (snp.sendRaw data).2.1 =
      [.copyToTxPkt data, .getStatus snp.nextStatus.1, .transmit data snp.nextTransmit.1] ++ polled ∧
      ∀ event ∈ polled, Quiet event := by
  unfold sendRaw
  have quiet := awaitTransmit_quiet timeoutTxRetries snp.nextStatus.2.nextTransmit.2
  dsimp only
  generalize awaitTransmit timeoutTxRetries snp.nextStatus.2.nextTransmit.2 = awaited at quiet
  split
  · exact ⟨[], (List.append_nil _).symm, by simp⟩
  · exact ⟨awaited.1, rfl, quiet⟩

theorem awaitTransmit_receive (retries : Nat) (snp : Snp) : (awaitTransmit retries snp).2.receive = snp.receive := by
  induction retries generalizing snp with
  | zero => rfl
  | succ retries ih =>
      simp only [awaitTransmit]
      split
      · rfl
      · exact ih _

/-- A send takes no answer of Receive. -/
theorem sendRaw_receive (data : Bytes) (snp : Snp) : (snp.sendRaw data).2.2.receive = snp.receive := by
  unfold sendRaw
  dsimp only
  split
  · rfl
  · exact awaitTransmit_receive _ _

end Snp

namespace NetStack

def sendRaw (data : TxFrame) (s : NetStack) : EfiStatus × NetStack :=
  let (st, events, snp) := s.snp.sendRaw data.bytes
  (st, { s with snp, trace := s.trace ++ events })

/-- A send that ignores the returned status, as every caller in the source does. -/
def sendFrame (data : TxFrame) (s : NetStack) : NetStack := (s.sendRaw data).2

/-- What ignores the completion loop sees only that the frame is copied and handed to Transmit. -/
theorem sendFrame_filterMap {α : Type} (see : Event → Option α) (blind : ∀ event, Snp.Quiet event → see event = none)
    (data : TxFrame) (s : NetStack) : (s.sendFrame data).trace.filterMap see =
      s.trace.filterMap see ++ [.copyToTxPkt data.bytes, .transmit data.bytes s.snp.nextTransmit.1].filterMap see := by
  obtain ⟨polled, events, quiet⟩ := Snp.sendRaw_events data.bytes s.snp
  have trace : (s.sendFrame data).trace = s.trace ++ (s.snp.sendRaw data.bytes).2.1 := rfl
  have silent : polled.filterMap see = [] :=
    List.filterMap_eq_nil_iff.mpr fun event member => blind event (quiet event member)
  have asked : see (.getStatus s.snp.nextStatus.1) = none := blind _ (Or.inl ⟨_, rfl⟩)
  rw [trace, events, List.filterMap_append, List.filterMap_append, silent, List.append_nil]
  simp only [List.filterMap_cons, asked]

@[simp] theorem sendFrame_sent (data : TxFrame) (s : NetStack) :
    (s.sendFrame data).sent = s.sent ++ [data.bytes] :=
  sendFrame_filterMap Event.frame? (fun _ quiet => quiet.frame?_eq_none) data s

@[simp] theorem sendFrame_tcpDelivered (data : TxFrame) (s : NetStack) :
    (s.sendFrame data).tcpDelivered = s.tcpDelivered := by
  obtain ⟨polled, events, quiet⟩ := Snp.sendRaw_events data.bytes s.snp
  have silent : polled.flatMap Event.tcpBytes = [] :=
    List.flatMap_eq_nil_iff.mpr fun event member => (quiet event member).tcpBytes_eq_nil
  change (s.trace ++ (s.snp.sendRaw data.bytes).2.1).flatMap Event.tcpBytes = _
  rw [events, List.flatMap_append, List.flatMap_append, silent]
  simp [tcpDelivered, Event.tcpBytes]

@[simp] theorem sendFrame_receive (data : TxFrame) (s : NetStack) : (s.sendFrame data).snp.receive = s.snp.receive :=
  Snp.sendRaw_receive data.bytes s.snp

@[simp] theorem sendFrame_identity (data : TxFrame) (s : NetStack) : (s.sendFrame data).identity = s.identity := rfl
@[simp] theorem sendFrame_rxPkt (data : TxFrame) (s : NetStack) : (s.sendFrame data).rxPkt = s.rxPkt := rfl
@[simp] theorem sendFrame_rngSeed (data : TxFrame) (s : NetStack) : (s.sendFrame data).rngSeed = s.rngSeed := rfl
@[simp] theorem sendFrame_arp (data : TxFrame) (s : NetStack) : (s.sendFrame data).arp = s.arp := rfl
@[simp] theorem sendFrame_arpCache (data : TxFrame) (s : NetStack) : (s.sendFrame data).arpCache = s.arpCache := rfl
@[simp] theorem sendFrame_dns (data : TxFrame) (s : NetStack) : (s.sendFrame data).dns = s.dns := rfl
@[simp] theorem sendFrame_tcp (data : TxFrame) (s : NetStack) : (s.sendFrame data).tcp = s.tcp := rfl
@[simp] theorem sendFrame_udp (data : TxFrame) (s : NetStack) : (s.sendFrame data).udp = s.udp := rfl
@[simp] theorem sendFrame_ping (data : TxFrame) (s : NetStack) : (s.sendFrame data).ping = s.ping := rfl

end NetStack
end UefiNetstack
