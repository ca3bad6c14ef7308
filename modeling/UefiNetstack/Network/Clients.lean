import UefiNetstack.Network.Nodes

namespace UefiNetstack
open Words Memory Constants NetStack

section Page

variable {s : NetStack} {frame : RxFrame} {eth : EthHdr} {ip : IpHdr} {rest : Bytes}

theorem page_eth (bytes : frame.bytes = eth.bytes ++ rest) : EthHdr.read (s.landed frame).rxPkt.byte 0 = eth := by
  have stored := landed_bytesAt s frame
  rw [bytes] at stored
  exact EthHdr.read_stored (bytesAt_append_left stored)

theorem page_arp {arp : ArpHdr} (bytes : frame.bytes = eth.bytes ++ arp.bytes) :
    ArpHdr.read (s.landed frame).rxPkt.byte sizeofEthHdr = arp := by
  have stored := landed_bytesAt s frame
  rw [bytes, bytesAt_append_iff, EthHdr.bytes_length] at stored
  exact ArpHdr.read_stored stored.2

/-- The headers of an IPv4 frame and what lies behind them. -/
theorem page_ip (bytes : frame.bytes = eth.bytes ++ ip.bytes ++ rest) :
    EthHdr.read (s.landed frame).rxPkt.byte 0 = eth ∧ IpHdr.read (s.landed frame).rxPkt.byte sizeofEthHdr = ip ∧
      BytesAt (s.landed frame).rxPkt.byte (sizeofEthHdr + sizeofIpHdr) rest := by
  have stored := landed_bytesAt s frame
  rw [bytes, bytesAt_append_iff, bytesAt_append_iff, List.length_append, EthHdr.bytes_length,
    IpHdr.bytes_length] at stored
  obtain ⟨⟨ethAt, ipAt⟩, restAt⟩ := stored
  exact ⟨EthHdr.read_stored ethAt, IpHdr.read_stored ipAt, restAt⟩

/-- A header without options. -/
theorem ipHlen_default {ip : IpHdr} (plain : ip.ihlVersion = ipVersionIhlDefault) :
    (ipHlen ip).toNat = sizeofIpHdr := by
  unfold ipHlen
  rw [plain]
  decide

end Page

/-- On no page a receiver finds a SYN+ACK in the frame or a datagram from the DNS port. -/
structure RxFrame.Serverless (frame : RxFrame) : Prop where
  noSynAck : ∀ (s : NetStack) input tcpAt, (s.landed frame).arrival = some (input, tcpAt) → ¬input.isSynAck
  noAnswer : ∀ (s : NetStack) udpAt address, ¬AnswerOnPage (s.landed frame) udpAt address

/-- The flags of a segment are not those of a SYN+ACK. -/
def NoSynAck (frame : Bytes) : Prop := frameFlags frame &&& tcpFlagSynAck.setWidth 16 ≠ tcpFlagSynAck.setWidth 16

namespace Serverless

variable {frame : RxFrame}

/-- A frame of another type than IPv4. -/
theorem of_arp {eth : EthHdr} {rest : Bytes} (bytes : frame.bytes = eth.bytes ++ rest)
    (type : eth.type = htons ethertypeArp) : frame.Serverless := by
  have notIpv4 (s : NetStack) : (EthHdr.read (s.landed frame).rxPkt.byte 0).type ≠ htons ethertypeIpv4 := by
    rw [page_eth bytes, type]
    decide
  refine ⟨fun s input tcpAt arrives => ?_, fun s udpAt address answer => notIpv4 s answer.type⟩
  have elsewhere : (s.landed frame).arrival = none := if_neg fun here => notIpv4 s here.1
  rw [elsewhere] at arrives
  cases arrives

/-- An IPv4 frame of a protocol other than TCP and UDP. -/
theorem of_icmp {eth : EthHdr} {ip : IpHdr} {rest : Bytes} (bytes : frame.bytes = eth.bytes ++ ip.bytes ++ rest)
    (protocol : ip.protocol = ipProtoIcmp) : frame.Serverless := by
  have isIcmp (s : NetStack) : (IpHdr.read (s.landed frame).rxPkt.byte sizeofEthHdr).protocol = ipProtoIcmp := by
    rw [(page_ip bytes).2.1, protocol]
  have notTcp : ipProtoIcmp ≠ ipProtoTcp := by decide
  have notUdp : ipProtoIcmp ≠ ipProtoUdp := by decide
  refine ⟨fun s input tcpAt arrives => ?_, fun s udpAt address answer => ?_⟩
  · have elsewhere : (s.landed frame).arrival = none := if_neg fun here => notTcp ((isIcmp s).symm.trans here.2.1)
    rw [elsewhere] at arrives
    cases arrives
  · exact notUdp ((isIcmp s).symm.trans answer.protocol)

/-- A datagram from another port than that of DNS. -/
theorem of_udp {eth : EthHdr} {ip : IpHdr} {udp : UdpHdr} {data : Bytes}
    (bytes : frame.bytes = eth.bytes ++ ip.bytes ++ (udp.bytes ++ data)) (plain : ip.ihlVersion = ipVersionIhlDefault)
    (protocol : ip.protocol = ipProtoUdp) (source : ntohs udp.source ≠ udpPortDns) : frame.Serverless := by
  have isUdp (s : NetStack) : (IpHdr.read (s.landed frame).rxPkt.byte sizeofEthHdr).protocol = ipProtoUdp := by
    rw [(page_ip bytes).2.1, protocol]
  have notTcp : ipProtoUdp ≠ ipProtoTcp := by decide
  refine ⟨fun s input tcpAt arrives => ?_, fun s udpAt address answer => ?_⟩
  · have elsewhere : (s.landed frame).arrival = none := if_neg fun here => notTcp ((isUdp s).symm.trans here.2.1)
    rw [elsewhere] at arrives
    cases arrives
  · have stored := (page_ip (s := s) bytes).2.2
    have place := answer.place
    rw [(page_ip bytes).2.1, ipHlen_default plain] at place
    have header : UdpHdr.read (s.landed frame).rxPkt.byte udpAt = udp := by
      rw [place]
      exact UdpHdr.read_stored (bytesAt_append_left stored)
    have port := answer.source
    rw [header] at port
    exact source port

/-- A segment that is not a SYN+ACK. -/
theorem of_tcp {eth : EthHdr} {ip : IpHdr} {tcp : TcpHdr} {data : Bytes}
    (bytes : frame.bytes = eth.bytes ++ ip.bytes ++ (tcp.bytes ++ data)) (plain : ip.ihlVersion = ipVersionIhlDefault)
    (protocol : ip.protocol = ipProtoTcp) (noSynAck : NoSynAck frame.bytes) : frame.Serverless := by
  have isTcp (s : NetStack) : (IpHdr.read (s.landed frame).rxPkt.byte sizeofEthHdr).protocol = ipProtoTcp := by
    rw [(page_ip bytes).2.1, protocol]
  have notUdp : ipProtoTcp ≠ ipProtoUdp := by decide
  refine ⟨fun s input tcpAt arrives => ?_, fun s udpAt address answer => ?_⟩
  · have stored := (page_ip (s := s) bytes).2.2
    have header : TcpHdr.read (s.landed frame).rxPkt.byte (sizeofEthHdr + sizeofIpHdr) = tcp :=
      TcpHdr.read_stored (bytesAt_append_left stored)
    unfold arrival at arrives
    dsimp only at arrives
    rw [(page_ip bytes).2.1, ipHlen_default plain, header] at arrives
    split at arrives
    · obtain ⟨rfl, -⟩ := Prod.mk.inj (Option.some.inj arrives)
      have flags : (TcpInput.ofHeaders ip tcp).flags = frameFlags frame.bytes := by
        rw [frameFlags, bytes, frameTcp_parts]
        rfl
      rw [TcpInput.isSynAck, flags, decide_eq_true_eq]
      exact noSynAck
    · cases arrives
  · exact notUdp ((isTcp s).symm.trans answer.protocol)

end Serverless

/-- A frame that the stack builds is no server's unless it is a SYN+ACK. -/
theorem Built.serverless {identity : Identity} {frame : RxFrame} {bytes : Bytes} (built : Built identity bytes)
    (same : frame.bytes = bytes) (flags : IsTcpFrame bytes → NoSynAck bytes) : frame.Serverless := by
  cases built with
  | arpRequest t own targetIp => exact Serverless.of_arp same rfl
  | arpReply t own arp => exact Serverless.of_arp same rfl
  | dhcp t own type xid =>
      refine Serverless.of_udp (same.trans (List.append_assoc _ _ _)) rfl rfl ?_
      decide
  | icmpEcho t own targetIp id seq random => exact Serverless.of_icmp (same.trans (List.append_assoc _ _ _)) rfl
  | icmpReply t own saddr fits random => exact Serverless.of_icmp same rfl
  | tcp t own port flag seq ack fits random =>
      refine Serverless.of_tcp same rfl rfl (same ▸ flags ?_)
      unfold tcpFrame
      exact isTcpFrame_parts.mpr rfl
  | @udp t own destIp destPort srcPort port data fits random =>
      obtain ⟨udp, parts, source, -⟩ := udpDatagram_header _ _ destPort data
      unfold udpFrame at same
      dsimp only at same
      rw [parts] at same
      refine Serverless.of_udp same rfl rfl ?_
      rw [source]
      rintro rfl
      exact absurd port (by decide)

namespace NetStack

variable {s s' : NetStack}

theorem answers_noSynAck {input : TcpInput} {frame : Bytes} (answers : Answers input frame) : NoSynAck frame := by
  rcases answers with flags | ⟨-, flags⟩
  all_goals
    rw [NoSynAck, flags]
    decide

theorem isSegment_noSynAck {flags : UINT8} {t : NetStack} {seq : UINT32} {frame : Bytes}
    (segment : IsSegment flags t seq frame)
    (other : flags.setWidth 16 &&& 0x3F#16 &&& tcpFlagSynAck.setWidth 16 ≠ tcpFlagSynAck.setWidth 16) :
    NoSynAck frame := by
  rw [NoSynAck, segment.1]
  exact other

theorem call_noSynAck {call : Call} {frame : Bytes} (segment : call.Segment s frame) : NoSynAck frame := by
  cases call with
  | syn => exact isSegment_noSynAck segment (by decide)
  | send data => exact isSegment_noSynAck segment.2 (by decide)
  | closeStart => exact isSegment_noSynAck segment (by decide)
  | _ => exact absurd segment id

/-- No small step sends a SYN+ACK. -/
theorem smallStep_noSynAck (step : SmallStep s s') : Sends NoSynAck s s' := by
  cases step with
  | move own _ done =>
      cases own with
      | poll =>
          rcases poll_replies done with ⟨-, quiet⟩ | ⟨input, tcpAt, t, -, -, -, sends⟩
          · exact quiet.sends
          · exact sends.mono fun frame replies => answers_noSynAck replies.answers
      | call call => exact (call_sends call done).mono fun frame segment => call_noSynAck segment
  | openNic boot opens => exact Sends.of_same (openNic_silent opens)
  | dhcp xid loop pending =>
      have asks := TcpQuiet.preparation.sendRequest xid loop
      have hears := TcpQuiet.preparation.onReceive (loop.sendRequest xid).stack.nextReceive (loop.sendRequest xid)
      exact (asks.trans hears).sends
  | arpRequest s => exact sendFrame_other (s.arpRequestFrame_not_tcp _)
  | tcpOpen | flushArp | dhcpId | configure | gateway => exact Sends.of_same rfl

/-- No connection is established and no name is resolved. -/
structure Client (s : NetStack) : Prop where
  unconnected : s.Unconnected
  unresolved : s.dns.resolved = false

/-- A call resolves nothing. -/
theorem call_unresolved {call : Call} (unresolved : s.dns.resolved = false) (done : call.run s = some s') :
    s'.dns.resolved = false := by
  cases call with
  | syn =>
      have sent : s.sendTcpControl tcpFlagSyn = some s' := done
      rw [(sendTcpInternal_keepsResolver sent).dns, unresolved]
  | send data =>
      rcases Call.send_cases done with ⟨-, rfl⟩ | ⟨-, out, first, rfl⟩
      · exact unresolved
      · exact (congrArg DnsResolution.resolved (sendTcpInternal_keepsResolver first).dns).trans unresolved
  | closeStart =>
      obtain ⟨-, out, first, rfl⟩ := Call.closeStart_cases done
      exact (congrArg DnsResolution.resolved (sendTcpInternal_keepsResolver first).dns).trans unresolved
  | udpSend destIp destPort data =>
      obtain ⟨frame, -, rfl⟩ := sendUdp_cases (Call.udpSend_cases done)
      change s.udpBind.dns.resolved = false
      unfold udpBind
      split
      all_goals exact unresolved
  | query hostname =>
      obtain ⟨frame, -, rfl⟩ := dnsQuery_cases done
      exact unresolved
  | resolve =>
      obtain rfl := Option.some.inj done
      rfl
  | stall | receiveStart | receiveEnd | closeEnd | udpReceiveStart | udpReceiveEnd | ping =>
      obtain rfl := Option.some.inj done
      exact unresolved

theorem call_unconnected {call : Call} (unconnected : s.Unconnected) (done : call.run s = some s') :
    s'.Unconnected := by
  rcases (call_keeps call done).state with same | ⟨established, -⟩ | closed
  · rwa [Unconnected, same]
  · rcases unconnected with waiting | closed
    · rw [waiting] at established
      cases established
    · rw [closed] at established
      cases established
  · exact Or.inr closed

/-- A poll that gets no server's frame leaves a client one. -/
theorem poll_client (client : s.Client) (serverless : ∀ frame, s.nextReceive = .frame frame → frame.Serverless)
    (polled : s.poll = some s') : s'.Client where
  unconnected := by
    refine (poll_staysUnconnected client.unconnected (fun _ input takes => ?_) polled).unconnected
    obtain ⟨arriving, synAck, -⟩ := takes
    obtain ⟨⟨other, tcpAt⟩, arrives, rfl⟩ := Option.map_eq_some_iff.mp arriving
    cases next : s.nextReceive with
    | frame frame =>
        rw [next] at arrives
        exact (serverless frame next).noSynAck s _ _ arrives synAck
    | notReady | error =>
        rw [next] at arrives
        cases arrives
  unresolved := by
    rcases poll_step polled with ⟨frame, next, step⟩ | keeps
    · cases step with
      | reply arp found learned =>
          rw [learned, learnArp_eq]
          exact client.unresolved
      | answer udpAt address noReply found keeps dns =>
          exact absurd found ((serverless frame next).noAnswer s.received udpAt address)
      | other noReply keeps => exact (congrArg DnsResolution.resolved keeps.dns).trans client.unresolved
    · exact (congrArg DnsResolution.resolved keeps.dns).trans client.unresolved

theorem Client.of_same (client : s.Client) (tcp : s'.tcp = s.tcp) (dns : s'.dns = s.dns) : s'.Client where
  unconnected := by
    rw [Unconnected, tcp]
    exact client.unconnected
  unresolved := by
    rw [dns]
    exact client.unresolved

theorem smallStep_client (client : s.Client) (serverless : ∀ frame, s.nextReceive = .frame frame → frame.Serverless)
    (step : SmallStep s s') : s'.Client := by
  cases step with
  | move own _ done =>
      cases own with
      | poll => exact poll_client client serverless done
      | call call => exact ⟨call_unconnected client.unconnected done, call_unresolved client.unresolved done⟩
  | tcpOpen s ip port => exact ⟨Or.inl rfl, client.unresolved⟩
  | openNic boot opens =>
      have prepares := Prepares.of_openNic opens
      exact client.of_same prepares.tcp prepares.dns
  | dhcp xid loop pending =>
      have asks := Prepares.preparation.sendRequest xid loop
      have hears := Prepares.preparation.onReceive (loop.sendRequest xid).stack.nextReceive (loop.sendRequest xid)
      exact client.of_same (asks.trans hears).tcp (asks.trans hears).dns
  | flushArp | dhcpId | configure | gateway | arpRequest => exact client.of_same rfl rfl

end NetStack

/-- Clients that no server's frame reaches send none. -/
theorem clients_keepMail : KeepsMail (fun _ => True) NetStack.Client RxFrame.Serverless where
  nic := fun client => ⟨client.unconnected, client.unresolved⟩
  step := by
    intro s s' mailed step _
    exact smallStep_client mailed.holds (fun frame next => mailed.inbox frame (nextReceive_mem next)) step
  emits := by
    intro s s' frame frames mailed step sent member built
    obtain ⟨others, sent', meets⟩ := smallStep_noSynAck step
    rw [sent] at sent'
    have same := List.append_cancel_left sent'
    exact built.serverless rfl fun isTcp => meets _ (same ▸ member) isTcp

/-- An instance before its first call, with no frame waiting for it. -/
def PoweredOn (s : NetStack) : Prop := ∃ rxPkt transmit getStatus, s = .initial rxPkt { transmit, getStatus }

theorem PoweredOn.mailed {s : NetStack} {holds : NetStack → Prop} {good : RxFrame → Prop} (powered : PoweredOn s)
    (start : holds s) : Mailed holds good s := by
  obtain ⟨rxPkt, transmit, getStatus, rfl⟩ := powered
  refine ⟨start, ⟨Or.inl rfl, Or.inl rfl, Or.inl rfl⟩, fun frame waits => ?_, fun frame member => ?_⟩
  · cases waits
  · cases member

section Clients

variable {Site : Type} [DecidableEq Site] {net net' : Site → NetStack} {outside : RxFrame → Prop}

theorem clients_run (start : ∀ site, PoweredOn (net site)) (foreign : ∀ frame, outside frame → frame.Serverless)
    (run : Network.Run stackNode outside net net') : ∀ site, (net' site).Client := by
  have begins (site : Site) : Mailed NetStack.Client RxFrame.Serverless (net site) := by
    refine (start site).mailed ?_
    obtain ⟨rxPkt, transmit, getStatus, same⟩ := start site
    rw [same]
    exact ⟨Or.inr rfl, rfl⟩
  exact fun site => ((clients_keepMail.sound foreign).run begins run.unbounded site).holds

/-- Among instances that start from power-on, on a network that may lose, repeat and reorder frames and brings
no server's frame from outside, no connection is ever established and no name resolved: at every instance,
`tcp_connect` and `resolve_hostname` time out. -/
theorem clients_only (start : ∀ site, PoweredOn (net site)) (foreign : ∀ frame, outside frame → frame.Serverless)
    (run : Network.Run stackNode outside net net') (site : Site) :
    ((net' site).tcp.state = .synSent ∨ (net' site).tcp.state = .closed) ∧ (net' site).dns.resolved = false ∧
      (∀ ip port st s', Api.tcpConnect ip port (net' site) = some (st, s') → st = .timeout) ∧
      ∀ hostname outIp st ip s', Api.resolveHostname hostname outIp (net' site) = some (st, ip, s') →
        st = .timeout ∧ ip = outIp := by
  have client := clients_run start foreign run site
  have later {call : ApiCall} {s' : NetStack} (done : call.run (net' site) = some s') : s'.Client := by
    have onward : Network.Run stackNode outside net (Function.update net' site s') :=
      Relation.ReflTransGen.trans run (SmallSteps.onNetwork (ApiCall.run_steps done))
    have there := clients_run start foreign onward site
    rwa [Function.update_self] at there
  refine ⟨client.unconnected, client.unresolved, ?_, ?_⟩
  · intro ip port st s' done
    have ran : (ApiCall.tcpConnect ip port).run (net' site) = some s' := by
      rw [ApiCall.run, done]
      rfl
    obtain ⟨ended, -, result⟩ := Option.bind_eq_some_iff.mp done
    obtain ⟨rfl, rfl⟩ := Prod.mk.inj (Option.some.inj result)
    refine if_neg ?_
    rcases (later ran).unconnected with waiting | closed
    · rw [waiting]
      decide
    · rw [closed]
      decide
  · intro hostname outIp st ip s' done
    have ran : (ApiCall.resolveHostname hostname outIp).run (net' site) = some s' := by
      rw [ApiCall.run, done]
      rfl
    obtain ⟨ended, -, result⟩ := Option.bind_eq_some_iff.mp done
    have unresolved := (later ran).unresolved
    by_cases resolved : ended.dns.resolved
    · rw [if_pos resolved] at result
      obtain ⟨-, -, rfl⟩ := result
      rw [resolved] at unresolved
      cases unresolved
    · rw [if_neg resolved] at result
      obtain ⟨rfl, rfl, -⟩ := result
      exact ⟨rfl, rfl⟩

end Clients

namespace Scenario

def poweredOn : NetStack := .initial .zeros {}

theorem poweredOn_powered : PoweredOn poweredOn := ⟨.zeros, [], [], rfl⟩

/-- An instance that asks for a connection. -/
def asking : NetStack := (Call.run .syn (poweredOn.tcpOpen remoteIp 80)).get (by decide +kernel)

theorem asking_asks : Call.run .syn (poweredOn.tcpOpen remoteIp 80) = some asking := (Option.some_get _).symm

/-- Its SYN as another instance gets it. -/
def synFrame : RxFrame := { bytes := asking.sent.headD [], fits := by decide +kernel }

/-- The SYN waits at a second instance, which polls it. -/
def synWaits : NetStack := poweredOn.handed (.frame synFrame)
def synPolled : NetStack := synWaits.poll.get (by decide +kernel)

/-- The network of the two instances. -/
def askedPair : Bool → NetStack := Function.update (Function.update (fun _ => poweredOn) true asking) false synPolled

theorem askedPair_run : Network.Run stackNode (fun _ => False) (fun _ : Bool => poweredOn) askedPair := by
  have steps : SmallSteps poweredOn asking :=
    (SmallStep.steps (.tcpOpen poweredOn remoteIp 80)).tail (.move (.call .syn) trivial asking_asks)
  have first : Network.Run stackNode (fun _ => False) (fun _ : Bool => poweredOn)
      (Function.update (fun _ => poweredOn) true asking) :=
    @SmallSteps.onNetwork asking Bool _ (fun _ => False) (fun _ => poweredOn) true steps
  have emitted : stackNode.sent asking synFrame := by
    have member : synFrame.bytes ∈ asking.sent := by decide +kernel
    exact member
  have taken : stackNode.take synFrame poweredOn synWaits := rfl
  have second := first.tail (Network.Step.deliver false (Or.inr ⟨true, emitted⟩) taken)
  have reads : SmallSteps synWaits synPolled := (SmallStep.poll (Option.some_get _).symm).steps
  have third := @SmallSteps.onNetwork synPolled Bool _ (fun _ => False)
    (Function.update (Function.update (fun _ => poweredOn) true asking) false synWaits) false reads
  rw [Function.update_idem] at third
  exact second.trans third

end Scenario

open Scenario in
/-- The second instance has polled the SYN, and is no server. -/
theorem clients_only_pair : ((askedPair false).tcp.state = .synSent ∨ (askedPair false).tcp.state = .closed) ∧
    (askedPair false).dns.resolved = false ∧
    (∀ ip port st s', Api.tcpConnect ip port (askedPair false) = some (st, s') → st = .timeout) ∧
    ∀ hostname outIp st ip s', Api.resolveHostname hostname outIp (askedPair false) = some (st, ip, s') →
      st = .timeout ∧ ip = outIp :=
  clients_only (fun _ => poweredOn_powered) (fun _ foreign => foreign.elim) askedPair_run false

end UefiNetstack
