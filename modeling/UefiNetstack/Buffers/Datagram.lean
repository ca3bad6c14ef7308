import UefiNetstack.Buffers.Receive
import UefiNetstack.Buffers.Echo
import UefiNetstack.Exchange.Delivery
import UefiNetstack.Reception.Acceptance

namespace UefiNetstack
open Constants Words Memory

namespace NetStack

variable {s s' : NetStack} {frame : RxFrame}

/-- The header of a datagram on the page. -/
def pageUdp (s : NetStack) : UdpHdr := UdpHdr.read s.rxPkt.byte (transportOf s.rxPkt.byte)

/-- How many bytes of payload the header of a datagram announces. -/
def udpPayload (s : NetStack) : Nat := (ntohs s.pageUdp.len).toNat - sizeofUdpHdr

/-- How many of them a receive with its room takes. -/
def udpWanted (s : NetStack) : Nat := min s.udpPayload s.udp.rxMaxLen.toNat

/-- The page has a datagram to the port of the user. -/
structure ReachesUser (s : NetStack) : Prop where
  ipv4 : (EthHdr.read s.rxPkt.byte 0).type = htons ethertypeIpv4
  protocol : s.pageIp.protocol = ipProtoUdp
  dest : ntohs s.pageUdp.dest = s.udp.localPort

/-- A bound user waits with a buffer. -/
structure AwaitsDatagram (s : NetStack) : Prop where
  bound : s.udp.localPort ≠ 0#16
  pending : s.udp.rxBuffer.isSome

/-- The length of a datagram covers its header and stays in its packet. -/
structure UdpConsistent (s : NetStack) : Prop where
  header : sizeofUdpHdr ≤ (ntohs s.pageUdp.len).toNat
  packet : (ntohs s.pageUdp.len).toNat + (ipHlen s.pageIp).toNat ≤ (ntohs s.pageIp.totLen).toNat

/-- The part of a frame that a receive takes. -/
def udpSlice (s : NetStack) (frame : RxFrame) : Bytes :=
  (frame.bytes.drop (transportOf s.rxPkt.byte + sizeofUdpHdr)).take s.udpWanted

/-- A step that fills the buffer of the user with one block. -/
structure Fills (s s' : NetStack) (data : Bytes) : Prop where
  udp : ∃ buffer, s.udp.rxBuffer = some buffer ∧ s'.udp =
    { s.udp with rxBuffer := some (buffer.write 0 data), rxCurrentLen := BitVec.ofNat 64 data.length, rxDone := true }
  copies : s'.copies = s.copies ++ [.udp data]

/-- What a receive owes. It takes the start of the payload of a consistent datagram and does nothing on an
inconsistent one. -/
structure Extracted (s s' : NetStack) (frame : RxFrame) : Prop where
  whole : s.AwaitsDatagram → s.UdpConsistent → 0 < s.udpPayload → (s.udpSlice frame).length = s.udpWanted
  fills : s.AwaitsDatagram → s.UdpConsistent → 0 < s.udpPayload → Fills s s' (s.udpSlice frame)
  nothing : ¬s.AwaitsDatagram ∨ ¬s.UdpConsistent ∨ s.udpPayload = 0 → s' = s

/-- The user's receive extracts the payload of a frame, and the poll ends with what it left for the user. -/
def ExtractsDatagram (s : NetStack) (frame : RxFrame) : Prop :=
  ∃ s', (s.landed frame).receiveUser (s.landed frame).pageUdp (transportOf (s.landed frame).rxPkt.byte) = some s' ∧
    Extracted (s.landed frame) s' frame ∧
    ∀ ended, s.pollOn (.frame frame) = some ended → ended.udp = s'.udp ∧ ended.copies = s'.copies

/-- The length that the handler computes. -/
def udpPayloadLen (s : NetStack) : UINTN := (ntohs s.pageUdp.len).setWidth 64 - BitVec.ofNat 64 sizeofUdpHdr

theorem udpPayloadLen_covered (header : sizeofUdpHdr ≤ (ntohs s.pageUdp.len).toNat) :
    s.udpPayloadLen.toNat = s.udpPayload := by
  have bound := (ntohs s.pageUdp.len).isLt
  rw [udpPayloadLen, udpPayload, BitVec.toNat_sub, BitVec.toNat_setWidth, BitVec.toNat_ofNat]
  rw [sizeofUdpHdr] at header ⊢
  omega

/-- The computed length is zero for a length of eight alone. -/
theorem udpPayloadLen_pos : s.udpPayloadLen > 0#64 ↔ ntohs s.pageUdp.len ≠ 8#16 := by
  have bound := (ntohs s.pageUdp.len).isLt
  rw [gt_iff_lt, BitVec.lt_def, udpPayloadLen, BitVec.toNat_sub, BitVec.toNat_setWidth, BitVec.toNat_ofNat, ne_eq,
    ← BitVec.toNat_inj, sizeofUdpHdr]
  simp only [BitVec.toNat_ofNat]
  omega

theorem receiveUser_idle (idle : ¬s.AwaitsDatagram) (udp : UdpHdr) (udpAt : Nat) : s.receiveUser udp udpAt = some s := by
  unfold receiveUser
  split
  · rename_i wanted
    have absent : s.udp.rxBuffer = none := by
      rw [← Option.not_isSome_iff_eq_none]
      exact fun pending => idle ⟨wanted.2, pending⟩
    rw [udpDeliver, absent]
  · rfl

theorem receiveUser_empty (empty : ntohs s.pageUdp.len = 8#16) (udpAt : Nat) : s.receiveUser s.pageUdp udpAt = some s := by
  have zero : ¬s.udpPayloadLen > 0#64 := fun positive => udpPayloadLen_pos.mp positive empty
  rw [udpPayloadLen] at zero
  unfold receiveUser
  split
  · unfold udpDeliver
    dsimp only
    split
    · rw [if_neg zero]
    · rfl
  · rfl

/-- A receive that copies takes its block from behind the header. -/
theorem receiveUser_fills_slice {udpAt : Nat} (dest : ntohs s.pageUdp.dest = s.udp.localPort) (awaits : s.AwaitsDatagram)
    (positive : s.udpPayloadLen > 0#64) (done : s.receiveUser s.pageUdp udpAt = some s') :
    Fills s s' (s.rxPkt.byte.slice (udpAt + sizeofUdpHdr) (min s.udpPayloadLen.toNat s.udp.rxMaxLen.toNat)) := by
  obtain ⟨buffer, pending⟩ := Option.isSome_iff_exists.mp awaits.pending
  rw [udpPayloadLen] at positive ⊢
  rw [receiveUser, if_pos ⟨dest, awaits.bound⟩, udpDeliver, pending] at done
  dsimp only at done
  rw [if_pos positive] at done
  obtain ⟨data, copied, stored⟩ := Option.bind_eq_some_iff.mp done
  have content := MappedMemory.copy_val copied
  rw [← cut_toNat, ← content, ← Option.some.inj stored]
  refine ⟨⟨buffer, pending, ?_⟩, ?_⟩
  · rw [data.property, BitVec.ofNat_toNat, BitVec.setWidth_eq]
    rfl
  · simp [copies, log, Event.copy?]

/-- A receive ends where its block is mapped. -/
theorem receiveUser_ends {udpAt : Nat} (mapped : udpAt + sizeofUdpHdr + min s.udpPayloadLen.toNat s.udp.rxMaxLen.toNat ≤
    s.rxPkt.limit) : ∃ s', s.receiveUser s.pageUdp udpAt = some s' := by
  rw [← cut_toNat, udpPayloadLen] at mapped
  obtain ⟨data, copied⟩ := s.rxPkt.copy_mapped mapped
  unfold receiveUser
  split
  · unfold udpDeliver
    dsimp only
    split
    · split
      · rw [copied]
        exact ⟨_, rfl⟩
      · exact ⟨s, rfl⟩
    · exact ⟨s, rfl⟩
  · exact ⟨s, rfl⟩

/-- A poll on a datagram changes the receiver of the user only in its receive. -/
theorem pollOn_user (ipv4 : (EthHdr.read (s.landed frame).rxPkt.byte 0).type = htons ethertypeIpv4)
    (protocol : (s.landed frame).pageIp.protocol = ipProtoUdp)
    (received : (s.landed frame).receiveUser (s.landed frame).pageUdp (transportOf (s.landed frame).rxPkt.byte) = some s')
    {ended : NetStack} (done : s.pollOn (.frame frame) = some ended) :
    ended.udp = s'.udp ∧ ended.copies = s'.copies := by
  have handled : s.pollOn (.frame frame) = (s.landed frame).handleUdp (transportOf (s.landed frame).rxPkt.byte) :=
    dispatch_toUdp ipv4 rfl protocol
  rw [handled] at done
  obtain ⟨middle, user, dns⟩ := Option.bind_eq_some_iff.mp done
  have same : middle = s' := Option.some.inj (user.symm.trans received)
  have nothing := receiveDns_copiesNothing dns
  rw [same] at nothing
  exact ⟨nothing.udp, nothing.copies⟩

/-- What lies in the frame lies on the page. -/
theorem landed_slice (s : NetStack) {frame : RxFrame} {start len : Nat} (inside : len ≤ frame.bytes.length - start) :
    (s.landed frame).rxPkt.byte.slice start len = (frame.bytes.drop start).take len := by
  rcases Nat.eq_zero_or_pos len with rfl | positive
  · rfl
  have stored := landed_bytesAt s frame
  rw [← List.take_append_drop start frame.bytes, bytesAt_append_iff] at stored
  have behind := stored.2
  rw [← List.take_append_drop len (frame.bytes.drop start), bytesAt_append_iff] at behind
  have block := bytesAt_iff_slice.mp behind.1
  rw [List.length_take, List.length_take, List.length_drop, Nat.zero_add, Nat.min_eq_left (by omega),
    Nat.min_eq_left (by omega)] at block
  exact block

/-- A datagram with an inconsistent length is copied with the length that the handler computed. -/
theorem inconsistent_not_extracted (dest : ntohs (s.landed frame).pageUdp.dest = (s.landed frame).udp.localPort)
    (awaits : (s.landed frame).AwaitsDatagram) (long : ntohs (s.landed frame).pageUdp.len ≠ 8#16)
    (inconsistent : ¬(s.landed frame).UdpConsistent) : ¬s.ExtractsDatagram frame := by
  rintro ⟨s', done, extracted, -⟩
  have copied := (receiveUser_fills_slice dest awaits (udpPayloadLen_pos.mpr long) done).copies
  rw [extracted.nothing (Or.inr (Or.inl inconsistent))] at copied
  exact absurd (List.self_eq_append_right.mp copied) (List.cons_ne_nil _ _)

/-- Nothing is to extract while nobody waits, and from a datagram without payload. -/
theorem idle_extracted (reaches : (s.landed frame).ReachesUser)
    (idle : ¬(s.landed frame).AwaitsDatagram ∨ ntohs (s.landed frame).pageUdp.len = 8#16) : s.ExtractsDatagram frame := by
  have done : (s.landed frame).receiveUser (s.landed frame).pageUdp (transportOf (s.landed frame).rxPkt.byte) =
      some (s.landed frame) := by
    rcases idle with nobody | empty
    · exact receiveUser_idle nobody _ _
    · exact receiveUser_empty empty _
  have nothing : (s.landed frame).AwaitsDatagram → ¬0 < (s.landed frame).udpPayload := by
    intro awaits copies
    rcases idle with nobody | empty
    · exact nobody awaits
    · rw [udpPayload, empty] at copies
      exact absurd copies (by decide)
  exact ⟨s.landed frame, done, ⟨fun awaits _ copies => absurd copies (nothing awaits),
    fun awaits _ copies => absurd copies (nothing awaits), fun _ => rfl⟩,
    fun ended => pollOn_user reaches.ipv4 reaches.protocol done⟩

/-- A consistent datagram whose frame has what the receive wants is extracted. -/
theorem consistent_extracted (reaches : (s.landed frame).ReachesUser) (awaits : (s.landed frame).AwaitsDatagram)
    (long : ntohs (s.landed frame).pageUdp.len ≠ 8#16) (consistent : (s.landed frame).UdpConsistent)
    (inside : (s.landed frame).udpWanted ≤
      frame.bytes.length - (transportOf (s.landed frame).rxPkt.byte + sizeofUdpHdr)) : s.ExtractsDatagram frame := by
  have near := transportOf_le (s.landed frame).rxPkt.byte
  have room := frame.fits
  have page := (s.landed frame).rxPkt.page
  have positive := udpPayloadLen_pos.mpr long
  have length := udpPayloadLen_covered consistent.header
  have wanted : min (s.landed frame).udpPayloadLen.toNat (s.landed frame).udp.rxMaxLen.toNat =
      (s.landed frame).udpWanted := by rw [length, udpWanted]
  have mapped : transportOf (s.landed frame).rxPkt.byte + sizeofUdpHdr + (s.landed frame).udpWanted ≤
      (s.landed frame).rxPkt.limit := by
    simp only [pktBufSize, sizeofUdpHdr] at *
    omega
  rw [← wanted] at mapped
  obtain ⟨s', done⟩ := receiveUser_ends mapped
  have fills := receiveUser_fills_slice reaches.dest awaits positive done
  rw [wanted, landed_slice s inside] at fills
  refine ⟨s', done, ⟨fun _ _ _ => ?_, fun _ _ _ => fills, fun otherwise => ?_⟩,
    fun ended => pollOn_user reaches.ipv4 reaches.protocol done⟩
  · rw [udpSlice, List.length_take, List.length_drop]
    omega
  · rw [gt_iff_lt, BitVec.lt_def, length] at positive
    rcases otherwise with nobody | inconsistent | empty
    · exact absurd awaits nobody
    · exact absurd consistent inconsistent
    · exact absurd empty (Nat.ne_of_gt positive)

/-- What is extracted of a consistent datagram lies in its frame. -/
theorem extracted_inside (awaits : (s.landed frame).AwaitsDatagram) (long : ntohs (s.landed frame).pageUdp.len ≠ 8#16)
    (consistent : (s.landed frame).UdpConsistent) (extracts : s.ExtractsDatagram frame) :
    (s.landed frame).udpWanted ≤ frame.bytes.length - (transportOf (s.landed frame).rxPkt.byte + sizeofUdpHdr) := by
  obtain ⟨s', -, extracted, -⟩ := extracts
  have positive : 0 < (s.landed frame).udpPayload := by
    rw [← udpPayloadLen_covered consistent.header]
    exact udpPayloadLen_pos.mpr long
  have whole := extracted.whole awaits consistent positive
  rw [udpSlice, List.length_take, List.length_drop] at whole
  omega

/-- The user's receive extracts the payload of a datagram to its port if and only if nobody waits, the length is
eight, or the length covers the header, stays in the packet and asks for no more than the frame has. -/
theorem datagram_extracted_iff (s : NetStack) (frame : RxFrame) (reaches : (s.landed frame).ReachesUser) :
    s.ExtractsDatagram frame ↔ ¬(s.landed frame).AwaitsDatagram ∨ ntohs (s.landed frame).pageUdp.len = 8#16 ∨
      ((s.landed frame).UdpConsistent ∧ (s.landed frame).udpWanted ≤
        frame.bytes.length - (transportOf (s.landed frame).rxPkt.byte + sizeofUdpHdr)) := by
  by_cases idle : ¬(s.landed frame).AwaitsDatagram ∨ ntohs (s.landed frame).pageUdp.len = 8#16
  · refine iff_of_true (idle_extracted reaches idle) ?_
    rcases idle with nobody | empty
    · exact Or.inl nobody
    · exact Or.inr (Or.inl empty)
  · obtain ⟨waits, long⟩ := not_or.mp idle
    have awaits := not_not.mp waits
    constructor
    · intro extracts
      by_cases consistent : (s.landed frame).UdpConsistent
      · exact Or.inr (Or.inr ⟨consistent, extracted_inside awaits long consistent extracts⟩)
      · exact absurd extracts (inconsistent_not_extracted reaches.dest awaits long consistent)
    · intro holds
      obtain ⟨consistent, inside⟩ := (holds.resolve_left waits).resolve_left long
      exact consistent_extracted reaches awaits long consistent inside

end NetStack

namespace Scenario

/-- The stack while its user waits for the datagram with room for two bytes. -/
def awaiting : NetStack := NetStack.receiveStart .udp (fun _ => 0) 2 (bound.get (by decide +kernel))

/-- The datagram with a length that does not cover its header. -/
def shortDatagram : RxFrame where
  bytes :=
    EthHdr.bytes { dst := localMac, src := gatewayMac, type := htons ethertypeIpv4 } ++
      IpHdr.bytes { ihlVersion := ipVersionIhlDefault, totLen := htons 31, protocol := ipProtoUdp } ++
      UdpHdr.bytes { source := htons 7, dest := htons localPort, len := htons 3 } ++ [1, 2, 3]
  fits := by decide

end Scenario

namespace NetStack

open Scenario in
theorem datagram_extracted_three : (awaiting.landed datagram).ReachesUser ∧ awaiting.ExtractsDatagram datagram := by
  have reaches : (awaiting.landed datagram).ReachesUser :=
    ⟨by decide +kernel, by decide +kernel, by decide +kernel⟩
  refine ⟨reaches, (datagram_extracted_iff awaiting datagram reaches).mpr (Or.inr (Or.inr ⟨⟨?_, ?_⟩, ?_⟩))⟩
  all_goals decide +kernel

open Scenario in
/-- A datagram with length three fills the buffer of the user. -/
theorem short_datagram_delivered :
    (awaiting.landed shortDatagram).ReachesUser ∧ ¬awaiting.ExtractsDatagram shortDatagram := by
  have reaches : (awaiting.landed shortDatagram).ReachesUser :=
    ⟨by decide +kernel, by decide +kernel, by decide +kernel⟩
  refine ⟨reaches, inconsistent_not_extracted reaches.dest ⟨?_, ?_⟩ ?_ fun consistent => ?_⟩
  · decide +kernel
  · decide +kernel
  · decide +kernel
  · exact absurd consistent.header (by decide +kernel)

end NetStack
end UefiNetstack
