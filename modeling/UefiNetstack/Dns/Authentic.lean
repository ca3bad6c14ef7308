import UefiNetstack.Dns.Query
import UefiNetstack.Reception.Taken
import UefiNetstack.Session.Segment

namespace UefiNetstack
open Constants NetMath Words Memory

/-- A UDP datagram in an Ethernet frame: the headers with the IP options, the payload and what pads the frame.
The length fields describe the parts. -/
structure DatagramFrame where
  eth : EthHdr
  ip : IpHdr
  ipOptions : Bytes
  udp : UdpHdr
  data : Bytes
  padding : Bytes
  type : eth.type = htons ethertypeIpv4
  protocol : ip.protocol = ipProtoUdp
  ihl : (ip.ihlVersion &&& 0x0F#8).toNat * 4 = sizeofIpHdr + ipOptions.length
  len : (ntohs udp.len).toNat = sizeofUdpHdr + data.length

namespace DatagramFrame

variable (f : DatagramFrame)

def bytes : Bytes := f.eth.bytes ++ f.ip.bytes ++ f.ipOptions ++ f.udp.bytes ++ f.data ++ f.padding

/-- Where the UDP header starts. -/
def udpAt : Nat := sizeofEthHdr + (sizeofIpHdr + f.ipOptions.length)

theorem ipHlen_toNat : (ipHlen f.ip).toNat = sizeofIpHdr + f.ipOptions.length := ipHlen_of_options f.ihl

variable {f}

/-- The parts of the frame lie one behind the other. -/
theorem stored_parts {m : Memory} (stored : BytesAt m 0 f.bytes) :
    EthHdr.read m 0 = f.eth ∧ IpHdr.read m sizeofEthHdr = f.ip ∧ UdpHdr.read m f.udpAt = f.udp ∧
      BytesAt m (f.udpAt + sizeofUdpHdr) f.data := by
  simp only [bytes, bytesAt_append_iff, List.length_append, EthHdr.bytes_length, IpHdr.bytes_length,
    UdpHdr.bytes_length, Nat.zero_add] at stored
  obtain ⟨⟨⟨⟨⟨eth, ip⟩, -⟩, udp⟩, data⟩, -⟩ := stored
  have place : f.udpAt = 14 + 20 + f.ipOptions.length := by simp only [udpAt, sizeofEthHdr, sizeofIpHdr]; omega
  rw [place, sizeofUdpHdr]
  exact ⟨EthHdr.read_stored eth, IpHdr.read_stored ip, UdpHdr.read_stored udp, data⟩

theorem data_inside {frame : RxFrame} (same : frame.bytes = f.bytes) :
    f.udpAt + sizeofUdpHdr + f.data.length ≤ pktBufSize := by
  have size : f.bytes.length ≤ pktBufSize := same ▸ frame.fits
  simp only [bytes, List.length_append, EthHdr.bytes_length, IpHdr.bytes_length, UdpHdr.bytes_length] at size
  simp only [udpAt, sizeofEthHdr, sizeofIpHdr, sizeofUdpHdr]
  omega

end DatagramFrame

/-- A frame brings a message in a datagram from one address to another. -/
structure ResponseFrom (server address : UINT32) (frame : RxFrame) (f : DatagramFrame) (message : DnsMessage) : Prop where
  bytes : frame.bytes = f.bytes
  data : f.data = message.bytes
  saddr : f.ip.saddr = server
  daddr : f.ip.daddr = address

/-- A frame brings a record with an address from port 53 of a server to the port of a query, with its id. -/
def Authentic (server myIp : UINT32) (port id : UINT16) (frame : RxFrame) (address : UINT32) : Prop :=
  ∃ f message, ResponseFrom server myIp frame f message ∧ ntohs f.udp.source = udpPortDns ∧ ntohs f.udp.dest = port ∧
    message.id = id ∧ ∃ record ∈ message.answers, record.address = some address

namespace NetStack

variable {s s' : NetStack} {frame : RxFrame} {udpAt : Nat} {address : UINT32} {message : DnsMessage}

/-- What the resolver finds in a message that it can follow is the message's first address. -/
theorem AnswersQuery.first {dnsAt : Nat} (answers : AnswersQuery s dnsAt address)
    (stored : BytesAt s.rxPkt.byte dnsAt message.bytes) (inside : dnsAt + message.bytes.length ≤ s.rxPkt.limit)
    (skipped : message.Skipped) :
    message.id = s.dns.currentId ∧ DnsRecord.firstAddress message.answers = some address := by
  obtain ⟨id, -, p, skips, finds⟩ := answers
  simp only [DnsMessage.bytes, bytesAt_append_iff, List.length_append, DnsHdr.bytes_length] at stored inside
  obtain ⟨⟨⟨header, questions⟩, records⟩, -⟩ := stored
  have passes := s.rxPkt.skipQuestions_stored skipped.questions questions (by omega)
  simp only [← Nat.add_assoc] at records
  have found := s.rxPkt.findAddress_stored skipped.answers records (by omega)
  rw [DnsHdr.read_stored header] at id skips finds
  have same : htons message.id = htons s.dns.currentId := id
  have qdcount : (ntohs message.header.qdcount).toNat = message.questions.length :=
    DnsMessage.header_count message.questionsFit
  have ancount : (ntohs message.header.ancount).toNat = message.answers.length :=
    DnsMessage.header_count message.answersFit
  rw [qdcount, sizeofDnsHdr, passes] at skips
  obtain rfl := Option.some.inj skips
  rw [ancount, found] at finds
  refine ⟨?_, Option.some.inj finds⟩
  have back := congrArg ntohs same
  rwa [show ntohs (htons message.id) = message.id from swap16_swap16 _,
    show ntohs (htons s.dns.currentId) = s.dns.currentId from swap16_swap16 _] at back

/-- The page carries a datagram from a port 53 to the port of the query, with its id and the QR bit. -/
structure ForResolver (s : NetStack) (udpAt : Nat) : Prop where
  type : (EthHdr.read s.rxPkt.byte 0).type = htons ethertypeIpv4
  protocol : (IpHdr.read s.rxPkt.byte sizeofEthHdr).protocol = ipProtoUdp
  place : udpAt = sizeofEthHdr + (ipHlen (IpHdr.read s.rxPkt.byte sizeofEthHdr)).toNat
  dest : ntohs (UdpHdr.read s.rxPkt.byte udpAt).dest = s.dns.localPort
  asked : s.dns.localPort ≠ 0#16
  source : ntohs (UdpHdr.read s.rxPkt.byte udpAt).source = udpPortDns
  id : (DnsHdr.read s.rxPkt.byte (udpAt + sizeofUdpHdr)).id = htons s.dns.currentId
  response : ntohs (DnsHdr.read s.rxPkt.byte (udpAt + sizeofUdpHdr)).flags &&& dnsFlagResponse ≠ 0#16

theorem AnswerOnPage.forResolver (answer : AnswerOnPage s udpAt address) : ForResolver s udpAt where
  type := answer.type
  protocol := answer.protocol
  place := answer.place
  dest := answer.dest
  asked := answer.asked
  source := answer.source
  id := answer.answers.id
  response := answer.answers.response

/-- The frame that a poll gets next is nothing for the resolver, or a message from the server to the local
address that the resolver can follow. -/
def Genuine (s : NetStack) : Prop :=
  ∀ frame, s.nextReceive = .frame frame → ∀ udpAt, ForResolver (s.received.landed frame) udpAt →
    ∃ f message, ResponseFrom s.dnsServer s.identity.myIp frame f message ∧ message.Skipped

/-- An answer in a genuine frame comes from the server. -/
theorem Genuine.answer (genuine : s.Genuine) (delivered : s.nextReceive = .frame frame)
    (found : AnswerOnPage (s.received.landed frame) udpAt address) :
    Authentic s.dnsServer s.identity.myIp s.dns.localPort s.dns.currentId frame address ∧
      (IpHdr.read (s.received.landed frame).rxPkt.byte sizeofEthHdr).saddr = s.dnsServer := by
  obtain ⟨f, message, response, skipped⟩ := genuine frame delivered udpAt found.forResolver
  have stored := landed_bytesAt s.received frame
  rw [response.bytes] at stored
  obtain ⟨-, ip, udp, data⟩ := DatagramFrame.stored_parts stored
  have place : udpAt = f.udpAt := by
    rw [found.place, ip, f.ipHlen_toNat]
    rfl
  subst place
  have dest := found.dest
  have source := found.source
  rw [udp] at dest source
  rw [response.data] at data
  have inside := f.data_inside response.bytes
  rw [response.data] at inside
  have page := (s.received.landed frame).rxPkt.page
  obtain ⟨id, first⟩ := found.answers.first data (Nat.le_trans inside page) skipped
  obtain ⟨record, member, value⟩ := List.exists_of_findSome?_eq_some first
  exact ⟨⟨f, message, response, source, dest, id, record, member, value⟩, ip ▸ response.saddr⟩

/-- A step keeps what the resolver sends with its queries. -/
structure KeepsQuery (s s' : NetStack) : Prop where
  server : s'.dnsServer = s.dnsServer
  myIp : s'.identity.myIp = s.identity.myIp
  localPort : s'.dns.localPort = s.dns.localPort
  currentId : s'.dns.currentId = s.dns.currentId

theorem KeepsQuery.of_same (identity : s'.identity = s.identity) (localPort : s'.dns.localPort = s.dns.localPort)
    (currentId : s'.dns.currentId = s.dns.currentId) : KeepsQuery s s' := by
  refine ⟨?_, ?_, localPort, currentId⟩
  · rw [dnsServer, identity]
    rfl
  · rw [identity]

theorem poll_keepsQuery (done : s.poll = some s') : KeepsQuery s s' := by
  rcases poll_step done with ⟨frame, -, step⟩ | keeps
  · cases step with
    | reply arp found learned =>
        rw [learned, learnArp_eq]
        refine ⟨?_, ?_, rfl, rfl⟩
        · unfold dnsServer
          dsimp only
          split
          all_goals rfl
        · dsimp only
          split
          all_goals rfl
    | answer udpAt address noReply found keeps dns => exact .of_same keeps.identity (by rw [dns]; rfl) (by rw [dns]; rfl)
    | other noReply keeps => exact .of_same keeps.identity (by rw [keeps.dns]; rfl) (by rw [keeps.dns]; rfl)
  · exact .of_same keeps.identity (by rw [keeps.dns]) (by rw [keeps.dns])

/-- The polls of a `resolve_hostname`. -/
def resolvePolls (hostname : CString) (s : NetStack) : List LoopPoll :=
  requestPolls (fun s => s.dns.resolved) (fun s => s.dnsQuery hostname) timeoutTcpLoops 0 s.resolveStart s.resolveStart

/-- Every poll of the call waits for the answer to its latest query. -/
theorem resolvePolls_wait (hostname : CString) (s : NetStack) : ∀ poll ∈ resolvePolls hostname s,
    (poll.stack.dnsServer = s.dnsServer ∧ poll.stack.identity.myIp = s.identity.myIp) ∧
      ((∃ before : NetStack, before.dnsQuery hostname = some poll.asked) ∧
        poll.stack.dns.localPort = poll.asked.dns.localPort ∧
        poll.stack.dns.currentId = poll.asked.dns.currentId) ∧ poll.stack.dns.resolved = false := by
  refine requestPolls_keeps (S := fun t => t.dnsServer = s.dnsServer ∧ t.identity.myIp = s.identity.myIp)
    (R := fun asked t => (∃ before : NetStack, before.dnsQuery hostname = some asked) ∧
      t.dns.localPort = asked.dns.localPort ∧ t.dns.currentId = asked.dns.currentId) ?_ ?_ ?_ ⟨rfl, rfl⟩ (Or.inl rfl)
  · intro before after same open_ sent
    refine ⟨?_, ⟨⟨before, sent⟩, rfl, rfl⟩, ?_⟩
    all_goals obtain ⟨frame, -, rfl⟩ := dnsQuery_cases sent
    · exact same
    · exact open_
  · rintro asked before after ⟨server, myIp⟩ ⟨query, localPort, currentId⟩ - polled
    have keeps := poll_keepsQuery polled
    exact ⟨⟨keeps.server.trans server, keeps.myIp.trans myIp⟩, query, keeps.localPort.trans localPort,
      keeps.currentId.trans currentId⟩
  · intro asked before same waits
    exact ⟨same, waits⟩

/-- A poll changes the resolver only with an answer on the page. -/
theorem poll_answer (done : s.poll = some s') (changes : s'.dns ≠ s.dns) : ∃ frame udpAt address,
    s.nextReceive = .frame frame ∧ AnswerOnPage (s.received.landed frame) udpAt address ∧
      s'.dns = { s.dns with resolvedIp := address, resolved := true } := by
  rcases poll_step done with ⟨frame, delivered, step⟩ | keeps
  · cases step with
    | reply arp found learned =>
        refine absurd ?_ changes
        rw [learned, learnArp_eq]
        rfl
    | answer udpAt address noReply found keeps dns => exact ⟨frame, udpAt, address, delivered, found, dns⟩
    | other noReply keeps => exact absurd keeps.dns changes
  · exact absurd keeps.dns changes

/-- A message that the resolver can follow is resolved whatever addresses its datagram has. -/
theorem poll_resolves {f : DatagramFrame} (bytes : frame.bytes = f.bytes) (data : f.data = message.bytes)
    (asked : s.dns.localPort ≠ 0#16) (dest : ntohs f.udp.dest = s.dns.localPort)
    (source : ntohs f.udp.source = udpPortDns) (id : message.id = s.dns.currentId)
    (response : message.flags &&& dnsFlagResponse ≠ 0#16) (skipped : message.Skipped)
    (delivered : s.nextReceive = .frame frame) :
    ∃ s', s.poll = some s' ∧ s'.dns = s.dns.resolve message := by
  have stored := landed_bytesAt s.received frame
  rw [bytes] at stored
  obtain ⟨eth, ip, udp, content⟩ := DatagramFrame.stored_parts stored
  rw [data] at content
  have inside := f.data_inside bytes
  rw [data] at inside
  have arrival : DnsArrival (s.received.landed frame) f.udpAt message :=
    { asked
      dest := by rw [udp]; exact dest
      source := by rw [udp]; exact source
      len := by rw [udp, f.len, data]
      id
      response
      stored := content
      fits := inside }
  obtain ⟨s', done, dns⟩ := handleUdp_resolves arrival (Or.inr skipped)
  refine ⟨s', ?_, dns⟩
  have place : sizeofEthHdr + (ipHlen f.ip).toNat = f.udpAt := by rw [f.ipHlen_toNat]; rfl
  rw [poll_frame delivered, dispatch_toUdp (eth ▸ f.type) ip f.protocol, place]
  exact done

/-- When every frame that a call polls is genuine, a success has polled an address record that came from the
server's port 53 to the port of the latest query with its id, and frames with other source addresses leave the
resolver alone. A message that the resolver can follow is resolved with or without genuine addresses. -/
theorem resolve_authentic (s : NetStack) (hostname : CString) :
    ((∀ poll ∈ resolvePolls hostname s, Genuine poll.stack) →
      (∀ outIp s' address, Api.resolveHostname hostname outIp s = some (.success, address, s') →
        ∃ poll ∈ resolvePolls hostname s, ∃ frame, poll.stack.nextReceive = .frame frame ∧
          (∃ before : NetStack, before.dnsQuery hostname = some poll.asked) ∧
          Authentic s.dnsServer s.identity.myIp poll.asked.dns.localPort poll.asked.dns.currentId frame address) ∧
      ∀ poll ∈ resolvePolls hostname s, ∀ frame polled, poll.stack.nextReceive = .frame frame →
        poll.stack.poll = some polled →
        (IpHdr.read (poll.stack.received.landed frame).rxPkt.byte sizeofEthHdr).saddr ≠ s.dnsServer →
        polled.dns = poll.stack.dns) ∧
    ∀ (f : DatagramFrame) (message : DnsMessage) (frame : RxFrame), frame.bytes = f.bytes →
      f.data = message.bytes → s.dns.localPort ≠ 0#16 → ntohs f.udp.dest = s.dns.localPort →
      ntohs f.udp.source = udpPortDns → message.id = s.dns.currentId → message.flags &&& dnsFlagResponse ≠ 0#16 →
      message.Skipped → s.nextReceive = .frame frame → ∃ s', s.poll = some s' ∧ s'.dns = s.dns.resolve message := by
  constructor
  · intro genuine
    have waits := resolvePolls_wait hostname s
    constructor
    · intro outIp s' address called
      obtain ⟨ended, loop, result⟩ := Option.bind_eq_some_iff.mp called
      split at result
      · rename_i resolved
        obtain ⟨-, rfl, rfl⟩ : EfiStatus.success = .success ∧ ended.dns.resolvedIp = address ∧ ended = s' := by
          simpa using result
        obtain ⟨last, member, polled, done, rfl⟩ := @requestLoop_last (fun s => s.dns.resolved) s.resolveStart ended
          (fun s => s.dnsQuery hostname) s.resolveStart timeoutTcpLoops 0 rfl loop resolved
        obtain ⟨⟨server, myIp⟩, ⟨query, localPort, currentId⟩, open_⟩ := waits last member
        have changes : polled.dns ≠ last.stack.dns := by
          intro same
          have flag : last.stack.dns.resolved = true := by
            rw [← same]
            exact resolved
          rw [open_] at flag
          cases flag
        obtain ⟨frame, udpAt, address, delivered, found, dns⟩ := poll_answer done changes
        obtain ⟨authentic, -⟩ := (genuine last member).answer delivered found
        rw [server, myIp, localPort, currentId] at authentic
        refine ⟨last, member, frame, delivered, query, ?_⟩
        change Authentic _ _ _ _ _ polled.dns.resolvedIp
        rw [dns]
        exact authentic
      · cases result
    · intro poll member frame polled delivered done other
      by_contra changes
      obtain ⟨frame', udpAt, address, delivered', found, -⟩ := poll_answer done changes
      obtain rfl := Receive.frame.inj (delivered'.symm.trans delivered)
      obtain ⟨-, saddr⟩ := (genuine poll member).answer delivered found
      exact other (saddr.trans (waits poll member).1.1)
  · intro f message frame bytes data asked dest source id response skipped delivered
    exact poll_resolves bytes data asked dest source id response skipped delivered

end NetStack

namespace Scenario

/-- A configured stack with the answers that Receive will give. -/
def lookingUp (receive : List Receive) : NetStack :=
  { NetStack.initial .zeros { receive } with identity := { myIp := localIp, dnsServerIp := gatewayIp } }

theorem ipHeader_ihl : (ipVersionIhlDefault &&& 0x0F#8).toNat * 4 = sizeofIpHdr + ([] : Bytes).length := by decide

theorem responseUdp_len : (ntohs responseUdp.len).toNat = sizeofUdpHdr + responseMessage.length := by decide +kernel

def responseEth : EthHdr := { dst := localMac, src := gatewayMac, type := htons ethertypeIpv4 }

def responseIp (saddr : UINT32) : IpHdr :=
  { ihlVersion := ipVersionIhlDefault, protocol := ipProtoUdp, saddr, daddr := localIp }

theorem responseEth_type : responseEth.type = htons ethertypeIpv4 := rfl

theorem responseIp_protocol (saddr : UINT32) : (responseIp saddr).protocol = ipProtoUdp := rfl

/-- The response to the first query, in a datagram from any address. -/
def responseFrom (saddr : UINT32) : DatagramFrame where
  eth := responseEth
  ip := responseIp saddr
  ipOptions := []
  udp := responseUdp
  data := responseMessage
  padding := []
  type := responseEth_type
  protocol := responseIp_protocol saddr
  ihl := ipHeader_ihl
  len := responseUdp_len

theorem responseFrom_fits (saddr : UINT32) : (responseFrom saddr).bytes.length ≤ pktBufSize := by
  have message : responseMessage.length ≤ 200 := by decide +kernel
  simp only [DatagramFrame.bytes, responseFrom, List.length_append, List.length_nil, EthHdr.bytes_length,
    IpHdr.bytes_length, UdpHdr.bytes_length, pktBufSize]
  omega

def responseFrame (saddr : UINT32) : RxFrame := ⟨(responseFrom saddr).bytes, responseFrom_fits saddr⟩

/-- The message in it. -/
def response : DnsMessage :=
  queryResponse [labelOf 0x61, labelOf 0x62] responseHeader [aliasRecord, addressRecord] [] (of_decide_eq_true rfl)

theorem response_bytes : response.bytes = responseMessage := by decide +kernel

theorem response_skipped : response.Skipped where
  questions question member := by
    obtain rfl := List.mem_singleton.mp member
    rfl
  answers := ⟨Or.inr ⟨rfl, NameEnd.noConfusion⟩, Or.inr ⟨Or.inl rfl, Or.inl (by decide)⟩⟩

/-- The call polls the response first and returns its address. -/
theorem lookingUp_polls (saddr : UINT32) (known : saddr = gatewayIp ∨ saddr = remoteIp) :
    (NetStack.resolvePolls hostname (lookingUp [.frame (responseFrame saddr)])).map (·.stack.nextReceive) =
      [.frame (responseFrame saddr)] := by
  rcases known with rfl | rfl
  all_goals decide +kernel

theorem lookingUp_resolves (saddr : UINT32) (known : saddr = gatewayIp ∨ saddr = remoteIp) :
    (Api.resolveHostname hostname 0 (lookingUp [.frame (responseFrame saddr)])).map (fun ended => (ended.1, ended.2.1)) =
      some (.success, ofLe32 10 0 0 7) := by
  rcases known with rfl | rfl
  all_goals decide +kernel

end Scenario

namespace NetStack

open Scenario

/-- A response of the server to its query. -/
theorem resolve_authentic_genuine : ∃ poll ∈ resolvePolls hostname (lookingUp [.frame (responseFrame gatewayIp)]),
    ∃ frame, poll.stack.nextReceive = .frame frame ∧
      Authentic gatewayIp localIp poll.asked.dns.localPort poll.asked.dns.currentId frame (ofLe32 10 0 0 7) := by
  obtain ⟨⟨st, address, s'⟩, called, value⟩ :=
    Option.map_eq_some_iff.mp (lookingUp_resolves gatewayIp (Or.inl rfl))
  obtain ⟨rfl, rfl⟩ := Prod.mk.inj value
  have genuine : ∀ poll ∈ resolvePolls hostname (lookingUp [.frame (responseFrame gatewayIp)]), Genuine poll.stack := by
    intro poll member frame delivered udpAt _
    have listed := List.mem_map_of_mem (f := fun poll : LoopPoll => poll.stack.nextReceive) member
    rw [lookingUp_polls gatewayIp (Or.inl rfl), List.mem_singleton, delivered] at listed
    obtain rfl := Receive.frame.inj listed
    obtain ⟨⟨server, myIp⟩, -⟩ := resolvePolls_wait _ _ poll member
    exact ⟨responseFrom gatewayIp, response, ⟨rfl, response_bytes.symm, server.symm, myIp.symm⟩, response_skipped⟩
  obtain ⟨poll, member, frame, delivered, -, authentic⟩ := ((resolve_authentic _ hostname).1 genuine).1 _ _ _ called
  exact ⟨poll, member, frame, delivered, authentic⟩

/-- A response from another address is accepted. -/
theorem forged_response_resolves : ¬∀ (hostname : CString) (outIp : UINT32) (s s' : NetStack) (address : UINT32),
    Api.resolveHostname hostname outIp s = some (.success, address, s') →
    ∃ poll ∈ resolvePolls hostname s, ∃ frame, poll.stack.nextReceive = .frame frame ∧
      Authentic s.dnsServer s.identity.myIp poll.asked.dns.localPort poll.asked.dns.currentId frame address := by
  intro claimed
  obtain ⟨⟨st, address, s'⟩, called, value⟩ :=
    Option.map_eq_some_iff.mp (lookingUp_resolves remoteIp (Or.inr rfl))
  obtain ⟨rfl, rfl⟩ := Prod.mk.inj value
  obtain ⟨poll, member, frame, delivered, f, message, response, -⟩ := claimed _ _ _ _ _ called
  have listed := List.mem_map_of_mem (f := fun poll : LoopPoll => poll.stack.nextReceive) member
  rw [lookingUp_polls remoteIp (Or.inr rfl), List.mem_singleton, delivered] at listed
  obtain rfl := Receive.frame.inj listed
  have stored := ofBytes_bytesAt [] f.bytes []
  rw [List.nil_append, List.append_nil, ← response.bytes] at stored
  obtain ⟨-, ip, -⟩ := DatagramFrame.stored_parts (response.bytes ▸ stored)
  have saddr := response.saddr
  rw [← ip, ← response.bytes] at saddr
  exact absurd saddr (by decide +kernel)

end NetStack
end UefiNetstack
