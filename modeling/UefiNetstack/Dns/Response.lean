import UefiNetstack.Dns.Message
import UefiNetstack.Core.Handlers

namespace UefiNetstack
open Constants NetMath Words Memory

namespace MappedMemory

variable (memory : MappedMemory) {p : Nat}

theorem read_stored {byte : UINT8} {block : Bytes} (stored : BytesAt memory.byte p (byte :: block))
    (inside : p + (byte :: block).length ≤ memory.limit) : memory.read p = some byte := by
  rw [List.length_cons] at inside
  rw [read, if_pos (by omega), bytesAt_head stored]

/-- A word in network order is read as its value. -/
theorem readWord_stored {x : UINT16} (stored : BytesAt memory.byte p (le16 (htons x))) (inside : p + 2 ≤ memory.limit) :
    memory.readWord p = some x := by
  have high := read_stored memory stored inside
  have low := read_stored memory (bytesAt_tail stored) inside
  have swapped := swap16_load ((htons x).setWidth 8) ((htons x >>> 8).setWidth 8)
  rw [ofLe16_store] at swapped
  have value : htons (htons x) = x := swap16_swap16 x
  rw [readWord, high, Option.bind_eq_bind, Option.bind_some, low, Option.bind_some, Option.some_inj, BitVec.or_comm]
  exact swapped.symm.trans value

/-- A round skips one label. -/
theorem skipLabelsWithin_label {label : Label} (rounds : Nat) (stored : BytesAt memory.byte p label.bytes)
    (inside : p + label.bytes.length ≤ memory.limit) :
    memory.skipLabelsWithin (rounds + 1) p = memory.skipLabelsWithin rounds (p + label.bytes.length) := by
  have value : (BitVec.ofNat 8 label.text.length).toNat = label.text.length := by
    rw [BitVec.toNat_ofNat]
    exact Nat.mod_eq_of_lt (Nat.lt_trans label.short (by decide))
  have positive : BitVec.ofNat 8 label.text.length ≠ 0#8 := by
    intro zero
    have empty := congrArg BitVec.toNat zero
    rw [value] at empty
    exact absurd empty (Nat.ne_of_gt label.nonempty)
  rw [skipLabelsWithin, read_stored memory stored inside, Option.bind_eq_bind, Option.bind_some, if_neg positive, value]
  rfl

/-- The loop stops at the root byte behind the labels. -/
theorem skipLabelsWithin_root (labels : List Label) {rounds : Nat} (enough : labels.length < rounds)
    (stored : BytesAt memory.byte p (labels.flatMap Label.bytes ++ [0#8]))
    (inside : p + (labels.flatMap Label.bytes ++ [0#8]).length ≤ memory.limit) :
    memory.skipLabelsWithin rounds p = some (p + (labels.flatMap Label.bytes).length) := by
  induction labels generalizing p rounds with
  | nil =>
      obtain ⟨rounds, rfl⟩ := Nat.exists_eq_succ_of_ne_zero (Nat.ne_of_gt enough)
      rw [skipLabelsWithin, read_stored memory stored inside]
      rfl
  | cons label labels ih =>
      obtain ⟨rounds, rfl⟩ := Nat.exists_eq_succ_of_ne_zero (Nat.ne_of_gt (Nat.zero_lt_of_lt enough))
      rw [List.flatMap_cons, List.append_assoc] at stored inside
      rw [List.length_append, ← Nat.add_assoc] at inside
      have first := bytesAt_append_left stored
      have others := bytesAt_append_right stored
      rw [skipLabelsWithin_label memory rounds first (by omega), ih (Nat.lt_of_succ_lt_succ enough) others inside,
        List.flatMap_cons, List.length_append, Nat.add_assoc]

/-- A name without a pointer is skipped up to its root byte. -/
theorem skipLabels_plain {name : DnsName} (plain : name.Plain) (stored : BytesAt memory.byte p name.bytes)
    (inside : p + name.bytes.length ≤ memory.limit) : memory.skipLabels p = some (p + name.bytes.length - 1) := by
  have shape : name.bytes = name.labels.flatMap Label.bytes ++ [0#8] := by rw [DnsName.bytes, plain]; rfl
  rw [shape] at stored inside ⊢
  have many : name.labels.length ≤ (name.labels.flatMap Label.bytes).length := by
    induction name.labels with
    | nil => exact Nat.le_refl _
    | cons label labels ih =>
        rw [List.flatMap_cons, List.length_append, List.length_cons, Label.bytes, List.length_cons]
        omega
  rw [List.length_append, List.length_singleton] at inside ⊢
  exact skipLabelsWithin_root memory name.labels (by omega) stored (by simpa using inside)

/-- The length of a label has not both marks set. -/
theorem label_unmarked {length : Nat} (short : length < 64) : BitVec.ofNat 8 length &&& dnsPtrMask ≠ dnsPtrMask := by
  interval_cases length <;> decide

/-- A pointer has both marks set. -/
theorem pointer_marked (high : BitVec 6) : (0b11#2 ++ high : UINT8) &&& dnsPtrMask = dnsPtrMask := by
  revert high
  decide

/-- A name without a pointer or with nothing else is skipped whole. -/
theorem skipName_skipped {name : DnsName} (skipped : name.Plain ∨ name.Bare) (stored : BytesAt memory.byte p name.bytes)
    (inside : p + name.bytes.length ≤ memory.limit) : memory.skipName p = some (p + name.bytes.length) := by
  rcases skipped with plain | ⟨bare, pointed⟩
  · have labels := skipLabels_plain memory plain stored inside
    have positive : 0 < name.bytes.length := by rw [DnsName.bytes, plain, List.length_append]; exact Nat.succ_pos _
    have first : ∃ length < 64, memory.read p = some (BitVec.ofNat 8 length) := by
      cases shape : name.labels with
      | nil =>
        rw [DnsName.bytes, shape, plain] at stored inside
        exact ⟨0, by decide, read_stored memory stored inside⟩
      | cons label labels =>
        rw [DnsName.bytes, shape, List.flatMap_cons, List.append_assoc] at stored inside
        rw [List.length_append] at inside
        exact ⟨_, label.short, read_stored memory (bytesAt_append_left stored) (by rw [← Label.bytes]; omega)⟩
    obtain ⟨length, short, first⟩ := first
    rw [skipName, first, Option.bind_eq_bind, Option.bind_some, if_neg (label_unmarked short), labels]
    exact congrArg some (Nat.sub_add_cancel (by omega))
  · cases tail : name.tail with
    | root => exact absurd tail pointed
    | pointer high low =>
      have shape : name.bytes = [0b11#2 ++ high, low] := by rw [DnsName.bytes, bare, tail]; rfl
      rw [shape] at stored inside ⊢
      rw [skipName, read_stored memory stored inside, Option.bind_eq_bind, Option.bind_some, if_pos (pointer_marked high)]
      rfl

/-- A question without a pointer is skipped whole. -/
theorem skipQuestions_plain {question : DnsQuestion} (plain : question.name.Plain)
    (stored : BytesAt memory.byte p question.bytes) (inside : p + question.bytes.length ≤ memory.limit) (count : Nat) :
    memory.skipQuestions (count + 1) p = memory.skipQuestions count (p + question.bytes.length) := by
  have length := question.bytes_length
  have root : 0 < question.name.bytes.length := by
    rw [DnsName.bytes, plain, List.length_append]
    exact Nat.succ_pos _
  have next : p + question.name.bytes.length - 1 + 5 = p + question.bytes.length := by omega
  rw [skipQuestions, skipLabels_plain memory plain (bytesAt_append_left stored) (by omega), Option.bind_eq_bind,
    Option.bind_some, next]

theorem skipQuestions_stored {questions : List DnsQuestion} (plain : ∀ question ∈ questions, question.name.Plain)
    (stored : BytesAt memory.byte p (questions.flatMap DnsQuestion.bytes))
    (inside : p + (questions.flatMap DnsQuestion.bytes).length ≤ memory.limit) :
    memory.skipQuestions questions.length p = some (p + (questions.flatMap DnsQuestion.bytes).length) := by
  induction questions generalizing p with
  | nil => rfl
  | cons question questions ih =>
      have others (other) (member : other ∈ questions) := plain other (List.mem_cons_of_mem _ member)
      rw [List.flatMap_cons] at stored inside ⊢
      rw [List.length_append, ← Nat.add_assoc] at inside ⊢
      rw [List.length_cons, skipQuestions_plain memory (plain question List.mem_cons_self) (bytesAt_append_left stored)
        (by omega)]
      exact ih others (bytesAt_append_right stored) inside

/-- What the answer loop reads of a record with a skipped name. -/
structure ReadsRecord (p : Nat) (record : DnsRecord) : Prop where
  name : memory.skipName p = some (p + record.name.bytes.length)
  type : memory.readWord (p + record.name.bytes.length) = some record.type
  length : memory.readWord (p + record.name.bytes.length + 0x08) = some (BitVec.ofNat 16 record.data.length)
  data : BytesAt memory.byte (p + record.name.bytes.length + 0x08 + 0x02) record.data
  next : p + record.name.bytes.length + 0x08 + 0x02 + record.data.length = p + record.bytes.length
  inside : p + record.bytes.length ≤ memory.limit

theorem readsRecord {record : DnsRecord} (skipped : record.Skipped) (stored : BytesAt memory.byte p record.bytes)
    (inside : p + record.bytes.length ≤ memory.limit) : memory.ReadsRecord p record := by
  have next : p + record.name.bytes.length + 0x08 + 0x02 + record.data.length = p + record.bytes.length := by
    simp only [DnsRecord.bytes, List.length_append, le16_length, le32_length]
    omega
  have fields := bytesAt_append_right stored
  simp only [bytesAt_append_iff, List.length_append, le16_length, le32_length, Nat.reduceAdd, Nat.add_assoc] at fields
  obtain ⟨⟨⟨⟨type, -⟩, -⟩, length⟩, data⟩ := fields
  simp only [← Nat.add_assoc] at length data
  exact
    { name := skipName_skipped memory skipped (bytesAt_append_left stored) (by omega)
      type := readWord_stored memory type (by omega)
      length := readWord_stored memory length (by omega)
      data
      next
      inside }

/-- The loop stops at a record with an address. -/
theorem findAddress_stops {record : DnsRecord} {address : UINT32} (reads : memory.ReadsRecord p record)
    (found : record.address = some address) (count : Nat) :
    memory.findAddress (count + 1) p = some (some address) := by
  have kind : record.type = dnsTypeA ∧ record.data.length = 4 := by
    by_contra other
    rw [record.address_none other] at found
    cases found
  obtain ⟨a, b, c, d, data⟩ := List.length_eq_four.mp kind.2
  rw [record.address_some kind.1 data, Option.some_inj] at found
  have length : BitVec.ofNat 16 record.data.length = dnsRdlenIpv4 := by rw [kind.2]; rfl
  have stored := reads.data
  rw [data, bytesAt_cons_iff, bytesAt_cons_iff, bytesAt_cons_iff, bytesAt_cons_iff] at stored
  have copied : p + record.name.bytes.length + 0x08 + 0x02 + 4 ≤ memory.limit := by
    have next := reads.next
    have inside := reads.inside
    rw [kind.2] at next
    omega
  simp only [findAddress, reads.name, reads.type, reads.length, Option.bind_eq_bind, Option.bind_some,
    if_pos (And.intro kind.1 length), copy, if_pos copied]
  rw [← found, load32, stored.1, stored.2.1, stored.2.2.1, stored.2.2.2.1]

/-- The loop goes on past a record without an address. -/
theorem findAddress_goes {record : DnsRecord} (reads : memory.ReadsRecord p record) (other : record.address = none)
    (count : Nat) : memory.findAddress (count + 1) p = memory.findAddress count (p + record.bytes.length) := by
  have value : (BitVec.ofNat 16 record.data.length).toNat = record.data.length := by
    rw [BitVec.toNat_ofNat]
    exact Nat.mod_eq_of_lt record.fits
  have kind : ¬(record.type = dnsTypeA ∧ BitVec.ofNat 16 record.data.length = dnsRdlenIpv4) := by
    rintro ⟨address, four⟩
    have length : record.data.length = 4 := by rw [← value, four]; rfl
    obtain ⟨a, b, c, d, data⟩ := List.length_eq_four.mp length
    rw [record.address_some address data] at other
    cases other
  simp only [findAddress, reads.name, reads.type, reads.length, Option.bind_eq_bind, Option.bind_some,
    if_neg kind, value, reads.next]

/-- The answer loop finds the first address. -/
theorem findAddress_stored {records : List DnsRecord} (skipped : DnsRecord.AllSkipped records)
    (stored : BytesAt memory.byte p (records.flatMap DnsRecord.bytes))
    (inside : p + (records.flatMap DnsRecord.bytes).length ≤ memory.limit) :
    memory.findAddress records.length p = some (DnsRecord.firstAddress records) := by
  induction records generalizing p with
  | nil => rfl
  | cons record records ih =>
      rw [List.flatMap_cons] at stored inside
      rw [List.length_append, ← Nat.add_assoc] at inside
      have reads := readsRecord memory skipped.1 (bytesAt_append_left stored) (by omega)
      rw [DnsRecord.firstAddress, List.findSome?_cons, List.length_cons]
      cases found : record.address with
      | some address => exact findAddress_stops memory reads found records.length
      | none =>
        have others := skipped.2.resolve_left (not_not_intro found)
        rw [findAddress_goes memory reads found]
        exact ih others (bytesAt_append_right stored) inside

end MappedMemory

/-- A datagram on the page brings a response to the query of the stack. -/
structure DnsArrival (s : NetStack) (udpAt : Nat) (message : DnsMessage) : Prop where
  asked : s.dns.localPort ≠ 0#16
  dest : ntohs (UdpHdr.read s.rxPkt.byte udpAt).dest = s.dns.localPort
  source : ntohs (UdpHdr.read s.rxPkt.byte udpAt).source = udpPortDns
  len : (ntohs (UdpHdr.read s.rxPkt.byte udpAt).len).toNat = sizeofUdpHdr + message.bytes.length
  id : message.id = s.dns.currentId
  response : message.flags &&& dnsFlagResponse ≠ 0#16
  stored : BytesAt s.rxPkt.byte (udpAt + sizeofUdpHdr) message.bytes
  fits : udpAt + sizeofUdpHdr + message.bytes.length ≤ pktBufSize

/-- The resolution with the first address of a response, if it has one. -/
def DnsResolution.resolve (dns : DnsResolution) (message : DnsMessage) : DnsResolution :=
  match DnsRecord.firstAddress message.answers with
  | some address => { dns with resolvedIp := address, resolved := true }
  | none => dns

variable {s : NetStack} {udpAt : Nat} {message : DnsMessage}

/-- A length that is clipped to a bound is no longer than before. -/
theorem clipped_le (len bound : UINTN) : (if len > bound then bound else len).toNat ≤ len.toNat := by
  split
  · rename_i longer
    exact Nat.le_of_lt longer
  · exact Nat.le_refl _

/-- The user's receive keeps the resolver and the page. -/
theorem NetStack.receiveUser_keeps (arrival : DnsArrival s udpAt message) :
    ∃ s', s.receiveUser (UdpHdr.read s.rxPkt.byte udpAt) udpAt = some s' ∧ s'.dns = s.dns ∧ s'.rxPkt = s.rxPkt := by
  have payload : ((ntohs (UdpHdr.read s.rxPkt.byte udpAt).len).setWidth 64 - BitVec.ofNat 64 sizeofUdpHdr).toNat =
      message.bytes.length := by
    have len := arrival.len
    have small := (ntohs (UdpHdr.read s.rxPkt.byte udpAt).len).isLt
    simp only [sizeofUdpHdr] at len ⊢
    rw [BitVec.toNat_sub, BitVec.toNat_setWidth, BitVec.toNat_ofNat]
    omega
  have room := arrival.fits
  have page := s.rxPkt.page
  unfold receiveUser
  split
  · unfold udpDeliver
    dsimp only
    split
    · split
      · have clipped := clipped_le
          ((ntohs (UdpHdr.read s.rxPkt.byte udpAt).len).setWidth 64 - BitVec.ofNat 64 sizeofUdpHdr) s.udp.rxMaxLen
        rw [payload] at clipped
        obtain ⟨data, copied⟩ := s.rxPkt.copy_mapped (Nat.le_trans (Nat.add_le_add_left clipped _)
          (Nat.le_trans room page))
        rw [copied]
        exact ⟨_, rfl, rfl, rfl⟩
      · exact ⟨s, rfl, rfl, rfl⟩
    · exact ⟨s, rfl, rfl, rfl⟩
  · exact ⟨s, rfl, rfl, rfl⟩

theorem DnsMessage.header_count {count : Nat} (fits : count < 65536) :
    (ntohs (htons (BitVec.ofNat 16 count))).toNat = count := by
  have value : ntohs (htons (BitVec.ofNat 16 count)) = BitVec.ofNat 16 count := swap16_swap16 _
  rw [value, BitVec.toNat_ofNat]
  exact Nat.mod_eq_of_lt fits

/-- The parser resolves the first address of a response that has no answers or whose names it can skip. -/
theorem NetStack.handleDns_stored {dnsAt : Nat} (id : message.id = s.dns.currentId)
    (response : message.flags &&& dnsFlagResponse ≠ 0#16) (stored : BytesAt s.rxPkt.byte dnsAt message.bytes)
    (inside : dnsAt + message.bytes.length ≤ s.rxPkt.limit) (passed : message.answers = [] ∨ message.Skipped) :
    s.handleDns dnsAt = some { s with dns := s.dns.resolve message } := by
  simp only [DnsMessage.bytes, bytesAt_append_iff, List.length_append, DnsHdr.bytes_length] at stored inside
  obtain ⟨⟨⟨header, questions⟩, answers⟩, -⟩ := stored
  have flags : ntohs (htons message.flags) = message.flags := swap16_swap16 _
  simp only [← Nat.add_assoc] at answers
  unfold handleDns
  rw [DnsHdr.read_stored header]
  dsimp only [DnsMessage.header]
  rw [if_neg (not_not_intro (by rw [id])), flags, if_neg response]
  split
  · rename_i noAnswers
    have empty : message.answers.length = 0 := by
      rw [← DnsMessage.header_count message.answersFit, noAnswers]
      rfl
    rw [DnsResolution.resolve, List.length_eq_zero_iff.mp empty]
    rfl
  · rename_i answered
    have skipped : message.Skipped := by
      refine passed.resolve_left fun empty => answered ?_
      rw [empty]
      rfl
    have skips := s.rxPkt.skipQuestions_stored skipped.questions questions (by omega)
    have finds := s.rxPkt.findAddress_stored skipped.answers answers (by omega)
    simp only [DnsMessage.header_count message.questionsFit, DnsMessage.header_count message.answersFit, sizeofDnsHdr,
      skips, Option.bind_eq_bind, Option.bind_some, finds, DnsResolution.resolve]
    cases DnsRecord.firstAddress message.answers with
    | some address => rfl
    | none => rfl

/-- A response resolves its first address when it has no answers, or when no name that the parser passes has a
pointer behind a label and no question has one at all. -/
theorem NetStack.handleUdp_resolves (arrival : DnsArrival s udpAt message)
    (passed : message.answers = [] ∨ message.Skipped) :
    ∃ s', s.handleUdp udpAt = some s' ∧ s'.dns = s.dns.resolve message := by
  obtain ⟨s', received, dns, rxPkt⟩ := receiveUser_keeps arrival
  have inside : udpAt + sizeofUdpHdr + message.bytes.length ≤ s'.rxPkt.limit :=
    Nat.le_trans arrival.fits s'.rxPkt.page
  have parsed := @handleDns_stored s' message (udpAt + sizeofUdpHdr) (by rw [dns]; exact arrival.id)
    arrival.response (by rw [rxPkt]; exact arrival.stored) inside passed
  have wanted : ntohs (UdpHdr.read s.rxPkt.byte udpAt).dest = s'.dns.localPort ∧ s'.dns.localPort ≠ 0#16 ∧
      ntohs (UdpHdr.read s.rxPkt.byte udpAt).source = udpPortDns := by
    rw [dns]
    exact ⟨arrival.dest, arrival.asked, arrival.source⟩
  refine ⟨{ s' with dns := s'.dns.resolve message }, ?_, congrArg (DnsResolution.resolve · message) dns⟩
  rw [handleUdp, received, Option.bind_eq_bind, Option.bind_some, receiveDns, if_pos wanted]
  exact parsed

end UefiNetstack
