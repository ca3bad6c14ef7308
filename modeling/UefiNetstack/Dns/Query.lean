import UefiNetstack.Dns.Lost
import UefiNetstack.Frames.WellFormed

namespace UefiNetstack
open Constants NetMath Words Memory

/-- A part of a hostname behind the byte for its length. -/
def partBytes (text : Bytes) : Bytes := BitVec.ofNat 8 text.length :: text

namespace NetStack.QnameWriter

/-- The encoder inside a label: what stands before it and its characters so far. -/
def writing (done text : Bytes) : QnameWriter where
  written := done ++ 0#8 :: text
  lenByte := done.length
  labelLen := BitVec.ofNat 8 text.length

variable {done text : Bytes}

/-- The open label gets its length. -/
theorem close_writing (done text : Bytes) :
    (writing done text).written.set (writing done text).lenByte (writing done text).labelLen =
      done ++ BitVec.ofNat 8 text.length :: text := by
  simp [writing]

theorem put_char {char : UINT8} (noDot : char ≠ 0x2E#8) : (writing done text).put char = writing done (text ++ [char]) := by
  have longer : BitVec.ofNat 8 text.length + 1#8 = BitVec.ofNat 8 (text ++ [char]).length := by
    rw [List.length_append, List.length_singleton, BitVec.ofNat_add]
  rw [put, if_neg noDot]
  simp only [writing, longer, List.append_assoc, List.cons_append]

/-- A dot ends a label and begins the next one. -/
theorem put_dot : (writing done text).put 0x2E#8 = writing (done ++ BitVec.ofNat 8 text.length :: text) [] := by
  rw [put, if_pos rfl, close_writing]
  simp [writing]

/-- The parts of a hostname between its dots are written one behind the other. -/
theorem finish_parts (chars done text : Bytes) : (chars.foldl put (writing done text)).finish =
    done ++ (((chars.splitOn 0x2E#8).modifyHead (text ++ ·)).flatMap partBytes ++
      [0#8, 0#8, dnsTypeA.setWidth 8, 0#8, dnsClassIn.setWidth 8]) := by
  induction chars generalizing done text with
  | nil =>
      rw [List.foldl_nil, finish, close_writing]
      simp [partBytes]
  | cons char chars ih =>
      obtain ⟨part, parts, split⟩ := List.exists_cons_of_ne_nil (List.splitOn_ne_nil 0x2E#8 chars)
      rw [List.foldl_cons, List.splitOn_cons_eq_if_modifyHead]
      rw [split] at ih ⊢
      by_cases dot : char = 0x2E#8
      · rw [dot, put_dot, ih, if_pos (beq_self_eq_true _)]
        simp [partBytes]
      · rw [put_char dot, ih, if_neg (by simpa using dot)]
        simp

end NetStack.QnameWriter

open NetStack

/-- The encoder writes the parts of any hostname that fits the packet, and then the root and the fields. -/
theorem dnsQuestion_parts (hostname : CString) : dnsQuestion hostname =
    (hostname.chars.splitOn 0x2E#8).flatMap partBytes ++
      [0#8, 0#8, dnsTypeA.setWidth 8, 0#8, dnsClassIn.setWidth 8] := by
  have written := QnameWriter.finish_parts hostname.chars [] []
  have whole : (hostname.chars.splitOn 0x2E#8).modifyHead ([] ++ ·) = hostname.chars.splitOn 0x2E#8 := by
    cases hostname.chars.splitOn 0x2E#8 <;> rfl
  rw [whole] at written
  exact written

/-- A hostname of at most 253 characters spells its labels with dots between them. -/
structure CString.Spells (hostname : CString) (labels : List Label) : Prop where
  nonempty : labels ≠ []
  noDot : ∀ label ∈ labels, 0x2E#8 ∉ label.text
  chars : hostname.chars = List.intercalate [0x2E#8] (labels.map Label.text)
  short : hostname.chars.length ≤ 253

/-- The question for the address of a name. -/
def addressQuestion (labels : List Label) : DnsQuestion where
  name := { labels, tail := .root }
  type := dnsTypeA
  class_ := dnsClassIn

/-- The encoder writes the question for the address of the name that a hostname spells. -/
theorem dnsQuestion_spells {hostname : CString} {labels : List Label} (spells : hostname.Spells labels) :
    dnsQuestion hostname = (addressQuestion labels).bytes := by
  have fields : NameEnd.root.bytes ++ (le16 (htons dnsTypeA) ++ le16 (htons dnsClassIn)) =
      [0#8, 0#8, dnsTypeA.setWidth 8, 0#8, dnsClassIn.setWidth 8] := by decide
  have parts : hostname.chars.splitOn 0x2E#8 = labels.map Label.text := by
    rw [spells.chars]
    refine List.splitOn_intercalate _ ?_ ?_
    · simpa using spells.noDot
    · simpa using spells.nonempty
  rw [dnsQuestion_parts, parts, List.flatMap_map, DnsQuestion.bytes, DnsName.bytes, List.append_assoc, ← fields]
  rfl

/-- The DNS header that a receiver finds in a frame without IP options. -/
def frameDns (frame : Bytes) : DnsHdr := DnsHdr.read (ofBytes frame) 42

/-- The bytes behind the DNS header. -/
def frameQuestion (frame : Bytes) : Bytes := frame.drop 54

theorem dnsFrame_parts (s : NetStack) (hostname : CString) (port id : UINT16) (random : UINT32) :
    (frameUdp (s.dnsFrame hostname port id random)).source = htons port ∧
      frameDns (s.dnsFrame hostname port id random) = dnsHeader id ∧
      frameQuestion (s.dnsFrame hostname port id random) = dnsQuestion hostname := by
  let message := (dnsHeader id).bytes ++ dnsQuestion hostname
  let ip := s.ipHeader ipProtoUdp (sizeofUdpHdr + message.length) random s.dnsServer
  obtain ⟨udp, content, source, -⟩ := udpDatagram_header ip port udpPortDns message
  have layout : s.dnsFrame hostname port id random =
      s.unicastEth.bytes ++ ip.bytes ++ udp.bytes ++ (dnsHeader id).bytes ++ dnsQuestion hostname := by
    rw [List.append_assoc, List.append_assoc]
    exact congrArg (s.unicastEth.bytes ++ ip.bytes ++ ·) content
  have udpAt := ofBytes_bytesAt (s.unicastEth.bytes ++ ip.bytes) udp.bytes ((dnsHeader id).bytes ++ dnsQuestion hostname)
  have dnsAt := ofBytes_bytesAt (s.unicastEth.bytes ++ ip.bytes ++ udp.bytes) (dnsHeader id).bytes (dnsQuestion hostname)
  rw [← List.append_assoc, ← layout] at udpAt
  rw [← layout] at dnsAt
  simp only [List.length_append, EthHdr.bytes_length, IpHdr.bytes_length, UdpHdr.bytes_length, Nat.reduceAdd] at udpAt dnsAt
  refine ⟨?_, ?_, ?_⟩
  · have place : sizeofEthHdr + sizeofIpHdr = 34 := rfl
    rw [frameUdp, place, UdpHdr.read_stored udpAt, ← source]
    exact (swap16_swap16 _).symm
  · exact DnsHdr.read_stored dnsAt
  · rw [frameQuestion, layout, List.drop_left']
    simp

/-- A datagram from port 53 to the port of a query frame repeats its id and its question and lists records. -/
structure RepeatsQuery (s : NetStack) (udpAt : Nat) (query : Bytes) (header : DnsHdr) (answers : List DnsRecord)
    (rest : Bytes) : Prop where
  source : ntohs (UdpHdr.read s.rxPkt.byte udpAt).source = udpPortDns
  dest : (UdpHdr.read s.rxPkt.byte udpAt).dest = (frameUdp query).source
  len : (ntohs (UdpHdr.read s.rxPkt.byte udpAt).len).toNat = sizeofUdpHdr +
    (header.bytes ++ frameQuestion query ++ answers.flatMap DnsRecord.bytes ++ rest).length
  id : header.id = (frameDns query).id
  response : ntohs header.flags &&& dnsFlagResponse ≠ 0#16
  qdcount : ntohs header.qdcount = 1#16
  ancount : (ntohs header.ancount).toNat = answers.length
  stored : BytesAt s.rxPkt.byte (udpAt + sizeofUdpHdr)
    (header.bytes ++ frameQuestion query ++ answers.flatMap DnsRecord.bytes ++ rest)
  fits : udpAt + sizeofUdpHdr +
    (header.bytes ++ frameQuestion query ++ answers.flatMap DnsRecord.bytes ++ rest).length ≤ pktBufSize

/-- The message of a response to a hostname's query. -/
def queryResponse (labels : List Label) (header : DnsHdr) (answers : List DnsRecord) (rest : Bytes)
    (fit : answers.length < 65536) : DnsMessage where
  id := ntohs header.id
  flags := ntohs header.flags
  questions := [addressQuestion labels]
  answers
  nscount := ntohs header.nscount
  arcount := ntohs header.arcount
  rest
  questionsFit := of_decide_eq_true rfl
  answersFit := fit

theorem queryResponse_bytes {labels : List Label} {header : DnsHdr} {answers : List DnsRecord} {rest : Bytes}
    {fit : answers.length < 65536} (qdcount : ntohs header.qdcount = 1#16)
    (ancount : (ntohs header.ancount).toNat = answers.length) :
    (queryResponse labels header answers rest fit).bytes =
      header.bytes ++ (addressQuestion labels).bytes ++ answers.flatMap DnsRecord.bytes ++ rest := by
  have stored (x : UINT16) : htons (ntohs x) = x := swap16_swap16 x
  have questions : htons (BitVec.ofNat 16 1) = header.qdcount := by
    rw [← stored header.qdcount, qdcount]
  have records : htons (BitVec.ofNat 16 answers.length) = header.ancount := by
    rw [← stored header.ancount, ← ancount, BitVec.ofNat_toNat, BitVec.setWidth_eq]
  have same : (queryResponse labels header answers rest fit).header = header := by
    simp only [DnsMessage.header, queryResponse, stored, List.length_singleton, questions, records]
  rw [DnsMessage.bytes, same]
  simp only [queryResponse, List.flatMap_singleton]

/-- The first address of a list is that of the first record that has one. -/
theorem firstAddress_append {others later : List DnsRecord} {answer : DnsRecord} {address : UINT32}
    (noAddress : ∀ record ∈ others, record.address = none) (found : answer.address = some address) :
    DnsRecord.firstAddress (others ++ answer :: later) = some address := by
  induction others with
  | nil => rw [List.nil_append, DnsRecord.firstAddress, List.findSome?_cons, found]
  | cons record others ih =>
      rw [List.cons_append, DnsRecord.firstAddress, List.findSome?_cons, noAddress record List.mem_cons_self]
      exact ih fun other member => noAddress other (List.mem_cons_of_mem _ member)

theorem allSkipped_append {others later : List DnsRecord} {answer : DnsRecord}
    (skipped : ∀ record ∈ others, record.Skipped) (last : answer.Skipped) (found : answer.address ≠ none) :
    DnsRecord.AllSkipped (others ++ answer :: later) := by
  induction others with
  | nil => exact ⟨last, Or.inl found⟩
  | cons record others ih =>
      have rest := ih fun other member => skipped other (List.mem_cons_of_mem _ member)
      exact ⟨skipped record List.mem_cons_self, Or.inr rest⟩

namespace NetStack

/-- A response that repeats the id and the question of the frame of a query resolves the address of its first
record with TYPE A and RDLENGTH 4, whatever records stand around it. -/
theorem dns_agreement {hostname : CString} {labels : List Label} (spells : hostname.Spells labels) (s : NetStack) :
    ∃ (s' : NetStack) (query : Bytes), s.dnsQuery hostname = some s' ∧ s'.sent = s.sent ++ [query] ∧
      ∀ (r : NetStack) (udpAt : Nat) (header : DnsHdr) (others : List DnsRecord) (answer : DnsRecord)
        (later : List DnsRecord) (rest : Bytes),
        r.dns.localPort = s'.dns.localPort → r.dns.currentId = s'.dns.currentId →
        RepeatsQuery r udpAt query header (others ++ answer :: later) rest →
        (∀ record ∈ others, record.Skipped ∧ ¬(record.type = dnsTypeA ∧ record.data.length = 4)) →
        answer.Skipped → answer.type = dnsTypeA → answer.data.length = 4 →
        ∃ r', r.handleUdp udpAt = some r' ∧ r'.dns.resolved = true ∧ le32 r'.dns.resolvedIp = answer.data := by
  obtain ⟨frame, sent, bytes⟩ := s.dnsQuery_eq hostname (Nat.le_trans spells.short (by decide))
  refine ⟨_, frame.bytes, sent, sendFrame_sent frame s.dnsPrepared, ?_⟩
  intro r udpAt header others answer later rest port id repeats skipped last type four
  obtain ⟨source, dnsId, question⟩ := dnsFrame_parts s.dnsPrepared hostname s.dnsPrepared.dns.localPort
    s.dnsPrepared.dns.currentId s.getU32.1
  rw [← bytes] at source dnsId question
  have field (x : UINT16) : ntohs (htons x) = x := swap16_swap16 x
  have fit : (others ++ answer :: later).length < 65536 := repeats.ancount ▸ (ntohs header.ancount).isLt
  let message := queryResponse labels header (others ++ answer :: later) rest fit
  have content : message.bytes = header.bytes ++ frameQuestion frame.bytes ++
      (others ++ answer :: later).flatMap DnsRecord.bytes ++ rest := by
    rw [question, dnsQuestion_spells spells]
    exact queryResponse_bytes repeats.qdcount repeats.ancount
  have arrival : DnsArrival r udpAt message :=
    { asked := by
        rw [port]
        intro zero
        have lower := s.getU32.2.getEphemeralPort_ge
        rw [show s.getU32.2.getEphemeralPort.1 = 0#16 from zero] at lower
        exact absurd lower (by decide)
      dest := by
        rw [repeats.dest, source, port]
        exact field _
      source := repeats.source
      len := content ▸ repeats.len
      id := by
        change ntohs header.id = _
        rw [repeats.id, dnsId, id]
        exact field _
      response := repeats.response
      stored := content ▸ repeats.stored
      fits := content ▸ repeats.fits }
  obtain ⟨a, b, c, d, data⟩ := List.length_eq_four.mp four
  have found := answer.address_some type data
  have readable : message.Skipped :=
    { questions := by
        intro asked member
        obtain rfl := List.mem_singleton.mp member
        rfl
      answers := allSkipped_append (fun record member => (skipped record member).1) last (by simp [found]) }
  obtain ⟨r', done, dns⟩ := handleUdp_resolves arrival (Or.inr readable)
  have first : DnsRecord.firstAddress message.answers = some (ofLe32 a b c d) :=
    firstAddress_append (fun record member => record.address_none (skipped record member).2) found
  rw [DnsResolution.resolve, first] at dns
  refine ⟨r', done, by rw [dns], ?_⟩
  rw [dns, data]
  exact le32_load a b c d

end NetStack

namespace Scenario

/-- A hostname of two labels. -/
def hostname : CString := { chars := [0x61, 0x2E, 0x62], noNul := by decide }

theorem hostname_spells : hostname.Spells [labelOf 0x61, labelOf 0x62] := ⟨by simp, by decide, rfl, by decide⟩

/-- A stack that has sent nothing. -/
def fresh : NetStack := .initial .zeros {}

/-- The frame of the first query and the response to it. -/
def queryFrame : Bytes :=
  fresh.dnsPrepared.dnsFrame hostname fresh.dnsPrepared.dns.localPort fresh.dnsPrepared.dns.currentId
    fresh.getU32.1

def aliasRecord : DnsRecord :=
  { name := compressed, type := 5, class_ := 1, ttl := 0, data := [1, 0x62, 0]
    fits := by decide }

def addressRecord : DnsRecord :=
  { name := { labels := [labelOf 0x62], tail := .root }, type := dnsTypeA, class_ := 1, ttl := 0, data := [10, 0, 0, 7]
    fits := by decide }

def responseHeader : DnsHdr :=
  { id := (frameDns queryFrame).id, flags := htons 0x8180, qdcount := htons 1, ancount := htons 2 }

def responseMessage : Bytes :=
  responseHeader.bytes ++ frameQuestion queryFrame ++ [aliasRecord, addressRecord].flatMap DnsRecord.bytes ++ []

def responseUdp : UdpHdr :=
  { source := htons udpPortDns
    dest := (frameUdp queryFrame).source
    len := htons (BitVec.ofNat 16 (sizeofUdpHdr + responseMessage.length)) }

def responsePage : RxPkt :=
  { RxPkt.zeros with byte := Memory.write (fun _ => 0) 34 (responseUdp.bytes ++ responseMessage) }

end Scenario

namespace NetStack

open Scenario

/-- An alias and an address for a hostname of two labels. -/
theorem dns_agreement_alias : ∃ r r' : NetStack, r.handleUdp 34 = some r' ∧ le32 r'.dns.resolvedIp = [10, 0, 0, 7] := by
  obtain ⟨s', query, sent, emitted, agrees⟩ := dns_agreement hostname_spells fresh
  obtain ⟨frame, sent', bytes⟩ := fresh.dnsQuery_eq hostname (by decide)
  obtain rfl := Option.some.inj (sent.symm.trans sent')
  obtain rfl : query = queryFrame := by
    rw [sendFrame_sent] at emitted
    exact (List.singleton_inj.mp (List.append_cancel_left emitted)).symm.trans bytes
  have stored : BytesAt responsePage.byte 34 (responseUdp.bytes ++ responseMessage) := write_bytesAt _ _ _
  have header := UdpHdr.read_stored (bytesAt_append_left stored)
  let r : NetStack := { fresh.dnsPrepared.sendFrame frame with rxPkt := responsePage }
  have repeats : RepeatsQuery r 34 queryFrame responseHeader [aliasRecord, addressRecord] [] :=
    { source := by
        rw [show UdpHdr.read r.rxPkt.byte 34 = responseUdp from header]
        decide
      dest := congrArg UdpHdr.dest header
      len := by
        rw [show UdpHdr.read r.rxPkt.byte 34 = responseUdp from header]
        decide +kernel
      id := rfl
      response := by decide
      qdcount := by decide
      ancount := by decide
      stored := bytesAt_append_right stored
      fits := by decide +kernel }
  obtain ⟨r', done, -, address⟩ := agrees r 34 responseHeader [aliasRecord] addressRecord [] [] rfl rfl repeats
    (by
      intro record member
      obtain rfl := List.mem_singleton.mp member
      exact ⟨Or.inr ⟨rfl, NameEnd.noConfusion⟩, by decide⟩)
    (Or.inl rfl) rfl rfl
  exact ⟨r, r', done, address⟩

end NetStack
end UefiNetstack
