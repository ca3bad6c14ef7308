import UefiNetstack.RoundTrip
import UefiNetstack.Lib.Tlv
import UefiNetstack.Dhcp.Loop

namespace UefiNetstack
open Constants Words Memory

/-- The DHCP header of a sent frame lies behind its three other headers. -/
def frameDhcp (frame : Bytes) : DhcpHdr :=
  DhcpHdr.read (ofBytes frame) (sizeofEthHdr + sizeofIpHdr + sizeofUdpHdr)

/-- The options of a sent frame before the end mark. -/
def frameOptions (frame : Bytes) : Option (List Tlv.Item) :=
  Tlv.decode dhcpOptPad dhcpOptEnd (frameDhcp frame).options.toList

/-- A frame asks, in a transaction and for the client of a MAC, for what its options say. -/
structure Asks (xid : UINT32) (mac : Mac) (options : List Tlv.Item) (frame : Bytes) : Prop where
  op : (frameDhcp frame).op = dhcpOpRequest
  xid : ntohl (frameDhcp frame).xid = xid
  chaddr : (frameDhcp frame).chaddr = ByteArr.padded 16 mac.toList
  options : frameOptions frame = some options

def discoverOptions : List Tlv.Item :=
  [(dhcpOptMsgType, [dhcpMsgDiscover]), (dhcpOptParamList, [dhcpOptSubnetMask, dhcpOptRouter, dhcpOptDns])]

def requestOptions (address server : UINT32) : List Tlv.Item :=
  [(dhcpOptMsgType, [dhcpMsgRequest]), (dhcpOptRequestedIp, le32 address), (dhcpOptServerId, le32 server)]

theorem ByteArr.padded_toList {count : Nat} {content : Bytes} (fits : content.length ≤ count) :
    (ByteArr.padded count content).toList = content ++ List.replicate (count - content.length) 0#8 := by
  apply List.ext_getElem
  · simp
    omega
  · intro index left right
    simp only [padded, Vector.getElem_toList, Vector.getElem_ofFn, List.getD_eq_getElem?_getD]
    by_cases inside : index < content.length
    · rw [List.getElem_append_left inside, List.getElem?_eq_getElem inside, Option.getD_some]
    · rw [List.getElem_append_right (by omega), List.getElem_replicate, List.getElem?_eq_none (by omega),
        Option.getD_none]
      rfl

theorem dhcpFrame_header (s : NetStack) (type : UINT8) (xid : UINT32) :
    frameDhcp (s.dhcpFrame type xid) = s.dhcpMessage type xid := by
  apply DhcpHdr.read_stored
  have stored := ofBytes_bytesAt
    (EthHdr.bytes { dst := ethBroadcast, src := s.identity.myMac, type := htons ethertypeIpv4 } ++
      NetStack.dhcpIpHeader.bytes ++ NetStack.dhcpUdpHeader.bytes) (s.dhcpMessage type xid).bytes []
  simp only [List.append_nil, List.length_append, EthHdr.bytes_length, IpHdr.bytes_length,
    UdpHdr.bytes_length] at stored
  exact stored

theorem option_encodable {code : UINT8} {value : Bytes} (stop : code ≠ dhcpOptEnd) (pad : code ≠ dhcpOptPad)
    (fits : value.length < 256) : Tlv.Encodable dhcpOptPad dhcpOptEnd (code, value) :=
  ⟨stop, pad, fits⟩

/-- A frame asks with the items that its option area encodes. -/
theorem dhcpFrame_asks (s : NetStack) (type : UINT8) (xid : UINT32) {items : List Tlv.Item}
    (encodable : ∀ item ∈ items, Tlv.Encodable dhcpOptPad dhcpOptEnd item)
    (area : NetStack.dhcpOptions type s.identity.myIp s.identity.dhcpServerIp = Tlv.encode items ++ [dhcpOptEnd])
    (fits : (Tlv.encode items).length < 300) :
    Asks xid s.identity.myMac items (s.dhcpFrame type xid) := by
  have header := dhcpFrame_header s type xid
  refine ⟨by rw [header]; rfl, ?_, by rw [header]; rfl, ?_⟩
  · rw [header]
    exact swap32_swap32 xid
  · have padded : (s.dhcpMessage type xid).options.toList = Tlv.encode items ++ dhcpOptEnd ::
        List.replicate (300 - (Tlv.encode items ++ [dhcpOptEnd]).length) 0#8 := by
      change (ByteArr.padded 300 (NetStack.dhcpOptions _ _ _)).toList = _
      rw [area, ByteArr.padded_toList (by simp; omega), List.append_assoc, List.singleton_append]
    rw [frameOptions, header, padded]
    exact Tlv.decode_encode encodable _

theorem discover_asks (s : NetStack) (xid : UINT32) :
    Asks xid s.identity.myMac discoverOptions (s.dhcpFrame dhcpMsgDiscover xid) := by
  apply dhcpFrame_asks
  · intro item member
    simp only [discoverOptions, List.mem_cons, List.not_mem_nil, or_false] at member
    rcases member with rfl | rfl
    all_goals exact option_encodable (by decide) (by decide) (by simp)
  · rfl
  · decide

theorem request_asks (s : NetStack) (xid : UINT32) :
    Asks xid s.identity.myMac (requestOptions s.identity.myIp s.identity.dhcpServerIp)
      (s.dhcpFrame dhcpMsgRequest xid) := by
  apply dhcpFrame_asks
  · intro item member
    simp only [requestOptions, List.mem_cons, List.not_mem_nil, or_false] at member
    rcases member with rfl | rfl | rfl
    all_goals exact option_encodable (by decide) (by decide) (by simp)
  · rfl
  · change 15 < 300
    decide

open DhcpLoop

/-- The loop on a stack after some iterations. -/
def loopAfter (xid : UINT32) (s : NetStack) (count : Nat) : DhcpLoop := DhcpLoop.run xid count { stack := s }

theorem loopAfter_succ (xid : UINT32) (s : NetStack) (count : Nat) : loopAfter xid s (count + 1) =
    if (loopAfter xid s count).state = .bound then loopAfter xid s count
    else (loopAfter xid s count).iteration xid :=
  DhcpLoop.run_succ xid { stack := s } count

/-- A run that has become bound is bound at every later limit. -/
theorem loopAfter_bound {xid : UINT32} {s : NetStack} {count limit : Nat}
    (bound : (loopAfter xid s count).state = .bound) (within : count ≤ limit) :
    (loopAfter xid s limit).state = .bound := by
  obtain ⟨more, rfl⟩ := Nat.exists_eq_add_of_le within
  have stays : loopAfter xid s (count + more) = loopAfter xid s count :=
    DhcpLoop.run_bound xid { stack := s } bound more
  rw [stays]
  exact bound

/-- As long as a run is not bound each iteration has taken one answer of Receive. -/
theorem loopAfter_receive {xid : UINT32} {s : NetStack} {count : Nat}
    (pending : (loopAfter xid s count).state ≠ .bound) :
    (loopAfter xid s count).stack.snp.receive = s.snp.receive.drop count := by
  induction count with
  | zero => rfl
  | succ count ih =>
      have before : (loopAfter xid s count).state ≠ .bound := fun bound =>
        pending (loopAfter_bound bound (Nat.le_succ count))
      rw [loopAfter_succ, if_neg before, DhcpLoop.iteration_receive, ih before, List.tail_drop]

/-- A discovering loop has sent discovers only, and has sent one when its countdown runs. -/
structure Discovering (xid : UINT32) (s : NetStack) (loop : DhcpLoop) : Prop where
  state : loop.state = .discover
  myMac : loop.stack.identity.myMac = s.identity.myMac
  sent : ∃ discovers, loop.stack.sent = s.sent ++ discovers ∧
    (∀ frame ∈ discovers, Asks xid s.identity.myMac discoverOptions frame) ∧ (loop.timeout ≠ 0 → discovers ≠ [])

/-- A requesting loop holds what the offer names. Its requests follow its discovers, and it has sent
one when its countdown runs. -/
structure Requesting (xid : UINT32) (s : NetStack) (offer : Heard) (loop : DhcpLoop) : Prop where
  state : loop.state = .offerRcvd
  myMac : loop.stack.identity.myMac = s.identity.myMac
  myIp : loop.stack.identity.myIp = offer.address
  dhcpServerIp : loop.stack.identity.dhcpServerIp = offer.server
  sent : ∃ discovers requests, loop.stack.sent = s.sent ++ discovers ++ requests ∧ discovers ≠ [] ∧
    (∀ frame ∈ discovers, Asks xid s.identity.myMac discoverOptions frame) ∧
    (∀ frame ∈ requests, Asks xid s.identity.myMac (requestOptions offer.address offer.server) frame) ∧
    (loop.timeout ≠ 0 → requests ≠ [])

variable {xid : UINT32} {s : NetStack} {offer : Heard} {loop loop' : DhcpLoop}

theorem Discovering.start : Discovering xid s { stack := s } where
  state := rfl
  myMac := rfl
  sent := ⟨[], (List.append_nil _).symm, by simp, fun running => absurd rfl running⟩

/-- Sending in the search adds a discover when the countdown has run out. -/
theorem Discovering.sends (discovering : Discovering xid s loop) (sends : Sends xid loop loop') :
    Discovering xid s loop' := by
  obtain ⟨discovers, sent, all, running⟩ := discovering.sent
  refine
    { state := sends.state.trans discovering.state
      myMac := by rw [sends.identity, discovering.myMac]
      sent := ?_ }
  by_cases due : loop.timeout = 0
  · have added := sends.sent
    rw [if_pos due, discovering.state, sent, List.append_assoc] at added
    refine ⟨_, added, ?_, fun _ => by simp⟩
    intro frame member
    rcases List.mem_append.mp member with earlier | last
    · exact all frame earlier
    · obtain rfl := List.mem_singleton.mp last
      rw [← discovering.myMac]
      exact discover_asks loop.stack xid
  · have same := sends.sent
    rw [if_neg due, List.append_nil, sent] at same
    exact ⟨discovers, same, all, fun _ => running due⟩

/-- Sending after the offer adds a request when the countdown has run out. -/
theorem Requesting.sends (requesting : Requesting xid s offer loop) (sends : Sends xid loop loop') :
    Requesting xid s offer loop' := by
  obtain ⟨discovers, requests, sent, found, discover, request, running⟩ := requesting.sent
  refine
    { state := sends.state.trans requesting.state
      myMac := by rw [sends.identity, requesting.myMac]
      myIp := by rw [sends.identity, requesting.myIp]
      dhcpServerIp := by rw [sends.identity, requesting.dhcpServerIp]
      sent := ?_ }
  by_cases due : loop.timeout = 0
  · have added := sends.sent
    rw [if_pos due, requesting.state, sent, List.append_assoc] at added
    refine ⟨discovers, _, added, found, discover, ?_, fun _ => by simp⟩
    intro frame member
    rcases List.mem_append.mp member with earlier | last
    · exact request frame earlier
    · obtain rfl := List.mem_singleton.mp last
      rw [← requesting.myMac, ← requesting.myIp, ← requesting.dhcpServerIp]
      exact request_asks loop.stack xid
  · have same := sends.sent
    rw [if_neg due, List.append_nil, sent] at same
    exact ⟨discovers, requests, same, found, discover, request, fun _ => running due⟩

/-- A reception that accepts nothing keeps the search as it is. -/
theorem Discovering.stays (discovering : Discovering xid s loop) (running : loop.timeout ≠ 0) (keeps : Keeps loop loop')
    (state : loop'.state = loop.state) : Discovering xid s loop' := by
  obtain ⟨discovers, sent, all, nonempty⟩ := discovering.sent
  exact
    { state := state.trans discovering.state
      myMac := keeps.myMac.trans discovering.myMac
      sent := ⟨discovers, keeps.sent.trans sent, all, fun _ => nonempty running⟩ }

theorem Requesting.stays (requesting : Requesting xid s offer loop) (running : loop.timeout ≠ 0)
    (keeps : Keeps loop loop') (state : loop'.state = loop.state)
    (address : loop'.stack.identity.myIp = loop.stack.identity.myIp)
    (server : loop'.stack.identity.dhcpServerIp = loop.stack.identity.dhcpServerIp) :
    Requesting xid s offer loop' := by
  obtain ⟨discovers, requests, sent, found, discover, request, nonempty⟩ := requesting.sent
  exact
    { state := state.trans requesting.state
      myMac := keeps.myMac.trans requesting.myMac
      myIp := address.trans requesting.myIp
      dhcpServerIp := server.trans requesting.dhcpServerIp
      sent := ⟨discovers, requests, keeps.sent.trans sent, found, discover, request, fun _ => nonempty running⟩ }

/-- An iteration of the search goes on or accepts an offer. -/
theorem Discovering.iteration (discovering : Discovering xid s loop) : Discovering xid s (loop.iteration xid) ∨
    ∃ message, loop.heard = some message ∧ message.Accepted .discover ∧
      Requesting xid s message (loop.iteration xid) := by
  have pending : loop.state ≠ .bound := by rw [discovering.state]; decide
  obtain ⟨sends, hears, reception⟩ := loop.iteration_reception xid pending
  have middling := discovering.sends sends
  cases reception with
  | nothing keeps silent state identity => exact Or.inl (middling.stays sends.due keeps state)
  | ignored keeps message heard refused state identity => exact Or.inl (middling.stays sends.due keeps state)
  | offered keeps message heard before accepted state due identity =>
    rw [before] at accepted
    obtain ⟨discovers, sent, all, running⟩ := middling.sent
    refine Or.inr ⟨message, hears.symm.trans heard, accepted, ?_⟩
    exact
      { state
        myMac := keeps.myMac.trans middling.myMac
        myIp := by rw [identity]
        dhcpServerIp := by rw [identity]
        sent := ⟨discovers, [], by rw [keeps.sent, sent, List.append_nil], running sends.due, all, by simp,
          fun counting => absurd due counting⟩ }
  | bound keeps message heard before accepted state identity =>
    rw [middling.state] at before
    cases before

/-- An iteration after the offer goes on or accepts an acknowledgement. -/
theorem Requesting.iteration (requesting : Requesting xid s offer loop) :
    Requesting xid s offer (loop.iteration xid) ∨
      ∃ message, loop.heard = some message ∧ message.Accepted .offerRcvd ∧ (loop.iteration xid).state = .bound := by
  have pending : loop.state ≠ .bound := by rw [requesting.state]; decide
  obtain ⟨sends, hears, reception⟩ := loop.iteration_reception xid pending
  have middling := requesting.sends sends
  cases reception with
  | nothing keeps silent state identity =>
    exact Or.inl (middling.stays sends.due keeps state (by rw [identity]) (by rw [identity]))
  | ignored keeps message heard refused state identity =>
    have others := message.scan_others (loop.sendRequest xid).stack.identity
    exact Or.inl (middling.stays sends.due keeps state (by rw [identity, others.2.1]) (by rw [identity, others.2.2]))
  | offered keeps message heard before accepted state due identity =>
    rw [middling.state] at before
    cases before
  | bound keeps message heard before accepted state identity =>
    rw [before] at accepted
    exact Or.inr ⟨message, hears.symm.trans heard, accepted, state⟩

/-- A run that has become bound: the iterations that heard the offer and the acknowledgement, and what
holds up to each of them. -/
structure Handshake (xid : UINT32) (s : NetStack) where
  offerAt : Nat
  ackAt : Nat
  offer : Heard
  ack : Heard
  order : offerAt < ackAt
  discovering : ∀ count ≤ offerAt, Discovering xid s (loopAfter xid s count)
  offered : (loopAfter xid s offerAt).heard = some offer
  offerAccepted : offer.Accepted .discover
  requesting : ∀ count, offerAt < count → count ≤ ackAt → Requesting xid s offer (loopAfter xid s count)
  acknowledged : (loopAfter xid s ackAt).heard = some ack
  ackAccepted : ack.Accepted .offerRcvd
  bound : (loopAfter xid s (ackAt + 1)).state = .bound

/-- A run is in the search, or after its offer, or bound. -/
inductive Progress (xid : UINT32) (s : NetStack) (count : Nat) : Prop
  | discovering (all : ∀ earlier ≤ count, Discovering xid s (loopAfter xid s earlier))
  | requesting (offerAt : Nat) (offer : Heard) (order : offerAt < count)
      (search : ∀ earlier ≤ offerAt, Discovering xid s (loopAfter xid s earlier))
      (offered : (loopAfter xid s offerAt).heard = some offer) (accepted : offer.Accepted .discover)
      (since : ∀ later, offerAt < later → later ≤ count → Requesting xid s offer (loopAfter xid s later))
  | bound (handshake : Handshake xid s) (done : handshake.ackAt < count)

theorem progress (xid : UINT32) (s : NetStack) (count : Nat) : Progress xid s count := by
  induction count with
  | zero =>
      refine .discovering ?_
      rintro earlier before
      obtain rfl := Nat.le_zero.mp before
      exact Discovering.start
  | succ count ih =>
      cases ih with
      | discovering all =>
        have now := all count (Nat.le_refl _)
        have next := loopAfter_succ xid s count
        rw [if_neg (by rw [now.state]; decide)] at next
        rcases now.iteration with goes | ⟨offer, heard, accepted, requesting⟩
        · refine .discovering fun earlier before => ?_
          rcases Nat.le_succ_iff.mp before with old | rfl
          · exact all earlier old
          · rw [next]
            exact goes
        · refine .requesting count offer (Nat.lt_succ_self _) all heard accepted fun later after before => ?_
          obtain rfl : later = count + 1 := by omega
          rw [next]
          exact requesting
      | requesting offerAt offer order search offered offerAccepted since =>
        have now := since count order (Nat.le_refl _)
        have next := loopAfter_succ xid s count
        rw [if_neg (by rw [now.state]; decide)] at next
        rcases now.iteration with goes | ⟨ack, acknowledged, ackAccepted, bound⟩
        · refine .requesting offerAt offer (by omega) search offered offerAccepted fun later after before => ?_
          rcases Nat.le_succ_iff.mp before with old | rfl
          · exact since later after old
          · rw [next]
            exact goes
        · rw [← next] at bound
          let handshake : Handshake xid s :=
            { offerAt, ackAt := count, offer, ack, order, discovering := search, offered, offerAccepted
              requesting := since, acknowledged, ackAccepted, bound }
          exact .bound handshake (Nat.lt_succ_self count)
      | bound handshake done => exact .bound handshake (Nat.lt_succ_of_lt done)

/-- Only a handshake leads to the bound state. -/
theorem exists_handshake {limit : Nat} (bound : (loopAfter xid s limit).state = .bound) :
    ∃ handshake : Handshake xid s, handshake.ackAt < limit := by
  cases progress xid s limit with
  | discovering all =>
    have state := (all limit (Nat.le_refl _)).state
    rw [bound] at state
    cases state
  | requesting offerAt offer order search offered accepted since =>
    have state := (since limit order (Nat.le_refl _)).state
    rw [bound] at state
    cases state
  | bound handshake done => exact ⟨handshake, done⟩

namespace Handshake

variable (handshake : Handshake xid s)

/-- The loop as it receives the acknowledgement. -/
def asking : DhcpLoop := (loopAfter xid s handshake.ackAt).sendRequest xid

/-- The loop as it ends. -/
def last : DhcpLoop := loopAfter xid s (handshake.ackAt + 1)

theorem asking_requesting : Requesting xid s handshake.offer handshake.asking ∧ handshake.asking.timeout ≠ 0 := by
  have requesting := handshake.requesting handshake.ackAt handshake.order (Nat.le_refl _)
  have pending : (loopAfter xid s handshake.ackAt).state ≠ .bound := by rw [requesting.state]; decide
  have sends := (loopAfter xid s handshake.ackAt).sendRequest_sends xid pending
  exact ⟨requesting.sends sends, sends.due⟩

/-- The acknowledgement only adds its values and settles the router. -/
theorem last_keeps : Keeps handshake.asking handshake.last ∧ handshake.last.stack.identity =
    { (handshake.ack.scan handshake.asking.stack.identity).identity with
      routerIp := settledRouter (handshake.ack.scan handshake.asking.stack.identity).identity } := by
  have requesting := handshake.requesting handshake.ackAt handshake.order (Nat.le_refl _)
  have pending : (loopAfter xid s handshake.ackAt).state ≠ .bound := by rw [requesting.state]; decide
  have next := loopAfter_succ xid s handshake.ackAt
  rw [if_neg pending] at next
  have bound := handshake.bound
  have middling := handshake.asking_requesting.1
  obtain ⟨sends, hears, reception⟩ := (loopAfter xid s handshake.ackAt).iteration_reception xid pending
  rw [next] at bound
  cases reception with
  | nothing keeps silent state identity => exact absurd (middling.state.symm.trans (state.symm.trans bound)) (by decide)
  | ignored keeps message heard refused state identity =>
    exact absurd (middling.state.symm.trans (state.symm.trans bound)) (by decide)
  | offered keeps message heard before accepted state due identity =>
    exact absurd (state.symm.trans bound) (by decide)
  | bound keeps message heard before accepted state identity =>
    obtain rfl : handshake.ack = message :=
      Option.some.inj (handshake.acknowledged.symm.trans (hears.symm.trans heard))
    rw [last, next]
    exact ⟨keeps, identity⟩

/-- After the acknowledgement nothing changes. -/
theorem stays_last {count : Nat} (after : handshake.ackAt < count) : loopAfter xid s count = handshake.last := by
  obtain ⟨more, rfl⟩ := Nat.exists_eq_add_of_lt after
  rw [Nat.add_right_comm]
  exact DhcpLoop.run_bound xid { stack := s } handshake.bound more

/-- Only the offer ends the search. -/
theorem offerAt_eq {count : Nat} (before : (loopAfter xid s count).state = .discover)
    (after : (loopAfter xid s (count + 1)).state = .offerRcvd) : handshake.offerAt = count := by
  rcases Nat.lt_trichotomy handshake.offerAt count with late | same | early
  · by_cases waiting : count ≤ handshake.ackAt
    · exact absurd (before.symm.trans (handshake.requesting count late waiting).state) (by decide)
    · rw [handshake.stays_last (Nat.lt_of_not_le waiting)] at before
      exact absurd (before.symm.trans handshake.bound) (by decide)
  · exact same
  · exact absurd (after.symm.trans (handshake.discovering (count + 1) early).state) (by decide)

/-- Only the acknowledgement binds. -/
theorem ackAt_eq {count : Nat} (before : (loopAfter xid s count).state ≠ .bound)
    (after : (loopAfter xid s (count + 1)).state = .bound) : handshake.ackAt = count := by
  rcases Nat.lt_trichotomy handshake.ackAt count with late | same | early
  · rw [handshake.stays_last late] at before
    exact absurd handshake.bound before
  · exact same
  · by_cases searching : count + 1 ≤ handshake.offerAt
    · exact absurd (after.symm.trans (handshake.discovering _ searching).state) (by decide)
    · exact absurd (after.symm.trans (handshake.requesting _ (Nat.lt_of_not_le searching) early).state) (by decide)

/-- The offer reads as the message that ended the search. -/
theorem offer_reads {β : Type} (read : Heard → β) {count : Nat} (before : (loopAfter xid s count).state = .discover)
    (after : (loopAfter xid s (count + 1)).state = .offerRcvd) {value : β}
    (found : (loopAfter xid s count).heard.map read = some value) : read handshake.offer = value := by
  have offered := handshake.offered
  rw [handshake.offerAt_eq before after] at offered
  rw [offered] at found
  exact Option.some.inj found

/-- The acknowledgement reads as the message that bound. -/
theorem ack_reads {β : Type} (read : Heard → β) {count : Nat} (before : (loopAfter xid s count).state ≠ .bound)
    (after : (loopAfter xid s (count + 1)).state = .bound) {value : β}
    (found : (loopAfter xid s count).heard.map read = some value) : read handshake.ack = value := by
  have acknowledged := handshake.acknowledged
  rw [handshake.ackAt_eq before after] at acknowledged
  rw [acknowledged] at found
  exact Option.some.inj found

/-- From the offer on the stack holds what the offer names. -/
theorem holds_offer {count : Nat} (after : handshake.offerAt < count) :
    (loopAfter xid s count).stack.identity.myIp = handshake.offer.address ∧
      (loopAfter xid s count).stack.identity.dhcpServerIp = handshake.offer.server := by
  by_cases open_ : count ≤ handshake.ackAt
  · have requesting := handshake.requesting count after open_
    exact ⟨requesting.myIp, requesting.dhcpServerIp⟩
  · have requesting := handshake.asking_requesting.1
    have others := handshake.ack.scan_others handshake.asking.stack.identity
    rw [handshake.stays_last (Nat.lt_of_not_le open_), handshake.last_keeps.2]
    exact ⟨others.2.1.trans requesting.myIp, others.2.2.trans requesting.dhcpServerIp⟩

/-- The loop accepts only the offer and the acknowledgement. -/
theorem accepted_at {count : Nat} {heard : Heard} (found : (loopAfter xid s count).heard = some heard)
    (accepted : heard.Accepted (loopAfter xid s count).state) :
    (count = handshake.offerAt ∧ heard = handshake.offer) ∨ (count = handshake.ackAt ∧ heard = handshake.ack) := by
  have pending : (loopAfter xid s count).state ≠ .bound := by
    intro bound
    rw [bound] at accepted
    exact accepted.2
  have moved : (loopAfter xid s (count + 1)).state ≠ (loopAfter xid s count).state := by
    rw [loopAfter_succ, if_neg pending]
    rcases iteration_accepts xid (loopAfter xid s count) pending with ⟨refused, -, -⟩ | ⟨_, -, -, moves⟩
    · exact absurd accepted (refused heard found)
    · exact moves
  rcases Nat.lt_trichotomy count handshake.offerAt with early | rfl | later
  · have still := (handshake.discovering (count + 1) early).state
    exact absurd (still.trans (handshake.discovering count (Nat.le_of_lt early)).state.symm) moved
  · exact Or.inl ⟨rfl, Option.some.inj (found.symm.trans handshake.offered)⟩
  · rcases Nat.lt_trichotomy count handshake.ackAt with early | rfl | late
    · have still := (handshake.requesting (count + 1) (Nat.lt_succ_of_lt later) early).state
      exact absurd (still.trans (handshake.requesting count later (Nat.le_of_lt early)).state.symm) moved
    · exact Or.inr ⟨rfl, Option.some.inj (found.symm.trans handshake.acknowledged)⟩
    · rw [handshake.stays_last late] at pending
      exact absurd handshake.bound pending

end Handshake

/-- A run has received an offer, sent requests for what it names and then received an acknowledgement. The discovers
come first, all in one transaction, and the stack holds what the offer names from the offer on. -/
structure Orderly (s : NetStack) (handshake : Handshake s.getU32.1 s.getU32.2) (discovers requests : List Bytes) :
    Prop where
  offer : (loopAfter s.getU32.1 s.getU32.2 handshake.offerAt).ReceivesHead handshake.offer.head
  ack : (loopAfter s.getU32.1 s.getU32.2 handshake.ackAt).ReceivesHead handshake.ack.head
  ends : s.dhcp = handshake.last
  sent : s.dhcp.stack.sent = s.sent ++ discovers ++ requests
  discovered : discovers ≠ []
  requested : requests ≠ []
  discover : ∀ frame ∈ discovers, Asks s.getU32.1 s.identity.myMac discoverOptions frame
  request : ∀ frame ∈ requests, Asks s.getU32.1 s.identity.myMac
    (requestOptions handshake.offer.address handshake.offer.server) frame
  holds : ∀ count, handshake.offerAt < count →
    (loopAfter s.getU32.1 s.getU32.2 count).stack.identity.myIp = handshake.offer.address ∧
      (loopAfter s.getU32.1 s.getU32.2 count).stack.identity.dhcpServerIp = handshake.offer.server
  asked : handshake.asking.stack.sent = s.sent ++ discovers ++ requests

/-- Each reply that the loop accepts lies in the frame that it receives. -/
def RepliesHeld (s : NetStack) : Prop :=
  ∀ count < timeoutDhcpLoops, ∀ heard, (loopAfter s.getU32.1 s.getU32.2 count).heard = some heard →
    heard.Accepted (loopAfter s.getU32.1 s.getU32.2 count).state →
    (loopAfter s.getU32.1 s.getU32.2 count).ReceivesHead heard.head

/-- The two replies of a handshake are all that the loop accepts. -/
theorem Handshake.repliesHeld {s : NetStack} (handshake : Handshake s.getU32.1 s.getU32.2) {offer ack : DhcpHead}
    (first : (loopAfter s.getU32.1 s.getU32.2 handshake.offerAt).ReceivesHead offer)
    (second : (loopAfter s.getU32.1 s.getU32.2 handshake.ackAt).ReceivesHead ack) : RepliesHeld s := by
  intro count _ heard found accepted
  rcases handshake.accepted_at found accepted with ⟨rfl, rfl⟩ | ⟨rfl, rfl⟩
  · rw [first.head_eq found]
    exact first
  · rw [second.head_eq found]
    exact second

/-- A bound run is an orderly handshake exactly when the replies that it accepts lie in the frames that it receives. -/
theorem bound_handshake (s : NetStack) (bound : s.dhcp.state = .bound) :
    (∃ handshake discovers requests, Orderly s handshake discovers requests) ↔ RepliesHeld s := by
  constructor
  · rintro ⟨handshake, discovers, requests, orderly⟩ count - heard found accepted
    rcases handshake.accepted_at found accepted with ⟨rfl, rfl⟩ | ⟨rfl, rfl⟩
    · exact orderly.offer
    · exact orderly.ack
  · intro held
    have reached : (loopAfter s.getU32.1 s.getU32.2 timeoutDhcpLoops).state = .bound := bound
    obtain ⟨handshake, within⟩ := exists_handshake reached
    have last : s.dhcp = handshake.last := handshake.stays_last within
    obtain ⟨requesting, running⟩ := handshake.asking_requesting
    obtain ⟨discovers, requests, sent, found, discover, request, asked⟩ := requesting.sent
    have searches := (handshake.discovering handshake.offerAt (Nat.le_refl _)).state
    have awaits := (handshake.requesting handshake.ackAt handshake.order (Nat.le_refl _)).state
    refine ⟨handshake, discovers, requests, ?_⟩
    exact
      { offer := held _ (Nat.lt_trans handshake.order within) _ handshake.offered (searches ▸ handshake.offerAccepted)
        ack := held _ within _ handshake.acknowledged (awaits ▸ handshake.ackAccepted)
        ends := last
        sent := by
          rw [last, handshake.last_keeps.1.sent, sent]
          rfl
        discovered := found
        requested := asked running
        discover
        request
        holds := fun count after => handshake.holds_offer after
        asked := sent }

namespace Scenario

/-- A broadcast reply of the server at the address of the gateway. -/
def dhcpReply (type : UINT8) (xid : UINT32) (mac : Mac) (address : UINT32) (options : List Tlv.Item) : RxFrame where
  bytes :=
    EthHdr.bytes { dst := ethBroadcast, src := gatewayMac, type := htons ethertypeIpv4 } ++
      IpHdr.bytes
        { ihlVersion := ipVersionIhlDefault, totLen := htons 568, ttl := ipDefaultTtl, protocol := ipProtoUdp
          saddr := gatewayIp, daddr := ipv4Broadcast } ++
      UdpHdr.bytes
        { source := htons udpPortDhcpServer, dest := htons udpPortDhcpClient, len := htons 548 } ++
      ([dhcpOpReply, dhcpHtypeEthernet, dhcpHlenEthernet, 0#8] ++ le32 (htonl xid) ++ List.replicate 8 0#8 ++
        le32 address ++ le32 gatewayIp ++ List.replicate 4 0#8 ++ mac.toList ++ List.replicate 202 0#8 ++
        le32 (htonl dhcpMagicCookie) ++
        List.takeD 300 (Tlv.encode ((dhcpOptMsgType, [type]) :: options) ++ [dhcpOptEnd]) 0#8)
  fits := by
    simp only [List.length_append, List.length_cons, List.length_nil, List.length_replicate, List.takeD_length,
      EthHdr.bytes_length, IpHdr.bytes_length, UdpHdr.bytes_length, le32_length, Vector.length_toList, pktBufSize]
    decide

/-- The transaction of a run on a stack with the default seed. -/
def transaction : UINT32 := (powered []).getU32.1

def offerFrame : RxFrame := dhcpReply dhcpMsgOffer transaction localMac localIp []
def ackFrame : RxFrame := dhcpReply dhcpMsgAck transaction localMac localIp []

/-- The head of a reply of the gateway. -/
def gatewayHead : DhcpHead where
  op := dhcpOpReply
  xid := htonl transaction
  chaddr := ByteArr.padded 16 localMac.toList
  address := localIp
  server := gatewayIp

theorem offerFrame_holds : offerFrame.Holds headOn (some gatewayHead) := by
  have read : headOn offerFrame.alone.byte = some gatewayHead := by decide +kernel
  rw [← read]
  exact headOn_holds (by decide +kernel)

theorem ackFrame_holds : ackFrame.Holds headOn (some gatewayHead) := by
  have read : headOn ackFrame.alone.byte = some gatewayHead := by decide +kernel
  rw [← read]
  exact headOn_holds (by decide +kernel)

/-- The server takes a round to answer the request. -/
def negotiating : NetStack := powered [.frame offerFrame, .notReady, .frame ackFrame]

theorem negotiating_states : (loopAfter transaction negotiating.getU32.2 0).state = .discover ∧
    (loopAfter transaction negotiating.getU32.2 1).state = .offerRcvd ∧
    (loopAfter transaction negotiating.getU32.2 2).state = .offerRcvd ∧
    (loopAfter transaction negotiating.getU32.2 3).state = .bound := by
  decide +kernel

theorem negotiating_receive : (loopAfter transaction negotiating.getU32.2 0).stack.nextReceive = .frame offerFrame ∧
    (loopAfter transaction negotiating.getU32.2 2).stack.nextReceive = .frame ackFrame := by
  have pending : (loopAfter transaction negotiating.getU32.2 2).state ≠ .bound := by
    rw [negotiating_states.2.2.1]
    decide
  refine ⟨rfl, ?_⟩
  rw [NetStack.nextReceive, loopAfter_receive pending]
  rfl

theorem negotiating_bound : negotiating.dhcp.state = .bound :=
  loopAfter_bound negotiating_states.2.2.2 (by decide)

theorem negotiating_held : RepliesHeld negotiating := by
  obtain ⟨handshake, -⟩ := exists_handshake negotiating_bound
  obtain ⟨searches, requests, waits, bound⟩ := negotiating_states
  obtain ⟨offer, ack⟩ := negotiating_receive
  have offerAt : handshake.offerAt = 0 := handshake.offerAt_eq searches requests
  have pending : (loopAfter transaction negotiating.getU32.2 2).state ≠ .bound := by rw [waits]; decide
  have ackAt : handshake.ackAt = 2 := handshake.ackAt_eq pending bound
  exact handshake.repliesHeld ⟨offerFrame, offerAt ▸ offer, offerFrame_holds⟩ ⟨ackFrame, ackAt ▸ ack, ackFrame_holds⟩

/-- The Ethernet, IP and UDP headers of a reply, with nothing behind them. -/
def bareHeaders : RxFrame where
  bytes := offerFrame.bytes.take 42
  fits := Nat.le_trans (List.length_take_le _ _) (by decide)

/-- A BOOTP reply of the gateway, which names no type. -/
def bootpReply : RxFrame := dhcpReply 0x00#8 transaction localMac localIp []

/-- The headers arrive on the page that the reply has filled. -/
def repeated : NetStack := powered [.frame bootpReply, .frame bareHeaders]

theorem repeated_states : (loopAfter transaction repeated.getU32.2 1).state = .offerRcvd ∧
    (loopAfter transaction repeated.getU32.2 2).state = .bound := by
  decide +kernel

theorem repeated_bound : repeated.dhcp.state = .bound :=
  loopAfter_bound repeated_states.2 (by decide)

theorem repeated_receive : (loopAfter transaction repeated.getU32.2 1).stack.nextReceive = .frame bareHeaders := by
  have pending : (loopAfter transaction repeated.getU32.2 1).state ≠ .bound := by
    rw [repeated_states.1]
    decide
  rw [NetStack.nextReceive, loopAfter_receive pending]
  rfl

end Scenario

open Scenario in
/-- The run with the silent round is orderly. -/
theorem bound_handshake_scenario :
    ∃ handshake discovers requests, Orderly negotiating handshake discovers requests :=
  (bound_handshake negotiating negotiating_bound).mpr negotiating_held

open Scenario in
/-- A run binds on a frame that ends in front of the DHCP message. The reply that it reads there arrived before the
request was sent. -/
theorem stale_reply_binds : ¬∀ s : NetStack, s.dhcp.state = .bound →
    ∃ handshake discovers requests, Orderly s handshake discovers requests := by
  intro ordered
  obtain ⟨handshake, discovers, requests, orderly⟩ := ordered repeated repeated_bound
  have pending : (loopAfter transaction repeated.getU32.2 1).state ≠ .bound := by rw [repeated_states.1]; decide
  have second : handshake.ackAt = 1 := handshake.ackAt_eq pending repeated_states.2
  obtain ⟨frame, delivered, holds⟩ := orderly.ack
  rw [second] at delivered
  obtain rfl : bareHeaders = frame := Receive.frame.inj (repeated_receive.symm.trans delivered)
  have empty : headOn (Memory.write (fun _ => 0#8) 0 bareHeaders.bytes) = none := by decide +kernel
  exact Option.some_ne_none _ ((holds fun _ => 0#8).symm.trans empty)

end UefiNetstack
