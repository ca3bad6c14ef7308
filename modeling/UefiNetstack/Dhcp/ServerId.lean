import UefiNetstack.Dhcp.Handshake
import UefiNetstack.Dhcp.Reference

namespace UefiNetstack
open Constants Words Memory DhcpLoop

/-- Where the options of a received frame start. -/
def rxOptionsAt (frame : Bytes) : Nat := transportOf (ofBytes frame) + sizeofUdpHdr + dhcpOptionsOffset

/-- The options of a received frame, up to the end mark or to the end of the frame. -/
def rxOptions (frame : Bytes) : List Tlv.Place :=
  Tlv.walk dhcpOptPad dhcpOptEnd (frame.length - rxOptionsAt frame) (optionArea (ofBytes frame) (rxOptionsAt frame)) 0

/-- A received frame carries a server identifier, whether or not the scan visits it. -/
def CarriesServerId (frame : Bytes) (server : UINT32) : Prop :=
  ∃ item ∈ rxOptions frame, item.code = dhcpOptServerId ∧ item.length = 4 ∧
    rxOptionsAt frame + item.value + 4 ≤ frame.length ∧
    (ofBytes frame).load32 (rxOptionsAt frame + item.value) = server

instance (frame : Bytes) (server : UINT32) : Decidable (CarriesServerId frame server) :=
  inferInstanceAs (Decidable (∃ item ∈ rxOptions frame, _))

/-- A sent frame whose options make it a request. -/
def IsDhcpRequest (frame : Bytes) : Prop :=
  ∃ options, frameOptions frame = some options ∧ (dhcpOptMsgType, [dhcpMsgRequest]) ∈ options

/-- A sent frame whose option 54 names a server. -/
def NamesServer (server : UINT32) (frame : Bytes) : Prop :=
  ∃ options, frameOptions frame = some options ∧ (dhcpOptServerId, le32 server) ∈ options

variable {xid : UINT32} {mac : Mac} {s : NetStack} {offer : Heard} {loop : DhcpLoop} {address server other : UINT32}
  {frame : Bytes}

theorem Asks.isRequest (asks : Asks xid mac (requestOptions address server) frame) : IsDhcpRequest frame :=
  ⟨_, asks.options, List.mem_cons_self⟩

/-- A request names the server of its one option 54. -/
theorem Asks.namesServer_iff (asks : Asks xid mac (requestOptions address server) frame) :
    NamesServer other frame ↔ other = server := by
  constructor
  · rintro ⟨options, same, member⟩
    obtain rfl := Option.some.inj (asks.options.symm.trans same)
    simp only [requestOptions, List.mem_cons, Prod.mk.injEq, List.not_mem_nil, or_false] at member
    rcases member with ⟨code, -⟩ | ⟨code, -⟩ | ⟨-, value⟩
    · exact absurd code (by decide)
    · exact absurd code (by decide)
    · exact le32_injective value
  · rintro rfl
    exact ⟨_, asks.options, by simp [requestOptions]⟩

/-- One iteration behind an offer sends the request that is due. -/
theorem Requesting.iteration_sent (requesting : Requesting xid s offer loop) :
    ∃ frames, (loop.iteration xid).stack.sent = loop.stack.sent ++ frames ∧
      (∀ frame ∈ frames, Asks xid s.identity.myMac (requestOptions offer.address offer.server) frame) ∧
      (loop.timeout = 0 → frames ≠ []) := by
  have pending : loop.state ≠ .bound := by rw [requesting.state]; decide
  obtain ⟨sends, -, reception⟩ := loop.iteration_reception xid pending
  have keeps : Keeps (loop.sendRequest xid) (loop.iteration xid) := by
    cases reception with
    | nothing keeps => exact keeps
    | ignored keeps => exact keeps
    | offered keeps => exact keeps
    | bound keeps => exact keeps
  refine ⟨_, keeps.sent.trans sends.sent, ?_, fun due => by simp [due]⟩
  intro frame member
  split at member
  · obtain rfl := List.mem_singleton.mp member
    rw [requesting.state, ← requesting.myMac, ← requesting.myIp, ← requesting.dhcpServerIp]
    exact request_asks loop.stack xid
  · cases member

/-- Behind an offer the loop sends requests for its address and its server only. -/
theorem Requesting.run_sent (requesting : Requesting xid s offer loop) (count : Nat) :
    ∃ later, (run xid count loop).stack.sent = loop.stack.sent ++ later ∧
      (∀ frame ∈ later, Asks xid s.identity.myMac (requestOptions offer.address offer.server) frame) ∧
      (loop.timeout = 0 → 0 < count → later ≠ []) := by
  induction count generalizing loop with
  | zero => exact ⟨[], (List.append_nil _).symm, by simp, fun _ positive => absurd positive (Nat.lt_irrefl 0)⟩
  | succ count ih =>
      have pending : loop.state ≠ .bound := by rw [requesting.state]; decide
      obtain ⟨frames, sent, asks, due⟩ := requesting.iteration_sent
      rw [run, if_neg pending]
      rcases requesting.iteration with goes | ⟨-, -, -, bound⟩
      · obtain ⟨later, rest, asks', -⟩ := ih goes
        refine ⟨frames ++ later, by rw [rest, sent, List.append_assoc], ?_, fun now _ => by simp [due now]⟩
        intro frame member
        rcases List.mem_append.mp member with member | member
        · exact asks frame member
        · exact asks' frame member
      · have stays : run xid count (loop.iteration xid) = loop.iteration xid := by
          have ended := DhcpLoop.run_bound xid (loop.iteration xid) (show (run xid 0 _).state = .bound from bound) count
          rwa [Nat.zero_add] at ended
        rw [stays]
        exact ⟨frames, sent, asks, fun now _ => due now⟩

/-- The loop of an initialization accepts an offer with a frame that one of its iterations receives. -/
structure AcceptsOffer (s : NetStack) (offerAt : Nat) (frame : RxFrame) (offer : Heard) : Prop where
  within : offerAt < timeoutDhcpLoops
  searching : (loopAfter s.getU32.1 s.getU32.2 offerAt).state = .discover
  received : (loopAfter s.getU32.1 s.getU32.2 offerAt).stack.nextReceive = .frame frame
  offered : (loopAfter s.getU32.1 s.getU32.2 offerAt).heard = some offer
  accepted : offer.Accepted .discover

/-- A loop that is still in its first state has only discovered. -/
theorem discovering_of_state {count : Nat} (state : (loopAfter xid s count).state = .discover) :
    Discovering xid s (loopAfter xid s count) := by
  cases progress xid s count with
  | discovering all => exact all count (Nat.le_refl _)
  | requesting offerAt offer order search offered accepted since =>
    exact absurd (state.symm.trans (since count order (Nat.le_refl _)).state) (by decide)
  | bound handshake done =>
    rw [handshake.stays_last done] at state
    exact absurd (state.symm.trans handshake.bound) (by decide)

/-- The iteration of the offer leaves a loop that requests what it names, at once. -/
theorem AcceptsOffer.requesting {offerAt : Nat} {rxFrame : RxFrame} (accepts : AcceptsOffer s offerAt rxFrame offer) :
    Requesting s.getU32.1 s.getU32.2 offer (loopAfter s.getU32.1 s.getU32.2 (offerAt + 1)) ∧
      (loopAfter s.getU32.1 s.getU32.2 (offerAt + 1)).timeout = 0 := by
  have discovering := discovering_of_state accepts.searching
  have pending : (loopAfter s.getU32.1 s.getU32.2 offerAt).state ≠ .bound := by rw [discovering.state]; decide
  rw [loopAfter_succ, if_neg pending]
  obtain ⟨sends, hears, reception⟩ :=
    (loopAfter s.getU32.1 s.getU32.2 offerAt).iteration_reception s.getU32.1 pending
  have middle := (discovering.sends sends).state
  cases reception with
  | nothing keeps silent =>
    rw [hears, accepts.offered] at silent
    cases silent
  | ignored keeps message found refused =>
    obtain rfl := Option.some.inj (accepts.offered.symm.trans (hears.symm.trans found))
    rw [middle] at refused
    exact absurd accepts.accepted refused
  | offered keeps message found before accepted state due =>
    refine ⟨?_, due⟩
    rcases discovering.iteration with goes | ⟨message, heard, -, requesting⟩
    · exact absurd (goes.state.symm.trans state) (by decide)
    · obtain rfl := Option.some.inj (accepts.offered.symm.trans heard)
      exact requesting
  | bound keeps message found before => exact absurd (middle.symm.trans before) (by decide)

/-- What the run sends behind an accepted offer. -/
theorem AcceptsOffer.later {offerAt : Nat} {rxFrame : RxFrame} (accepts : AcceptsOffer s offerAt rxFrame offer) :
    ∃ later, s.dhcp.stack.sent = (loopAfter s.getU32.1 s.getU32.2 (offerAt + 1)).stack.sent ++ later ∧
      (∀ frame ∈ later, Asks s.getU32.1 s.identity.myMac (requestOptions offer.address offer.server) frame) ∧
      (offerAt + 1 ≠ timeoutDhcpLoops → later ≠ []) := by
  obtain ⟨requesting, due⟩ := accepts.requesting
  obtain ⟨more, rest⟩ := Nat.exists_eq_add_of_le (Nat.succ_le_of_lt accepts.within)
  obtain ⟨later, sent, asks, requested⟩ := requesting.run_sent more
  refine ⟨later, ?_, asks, fun unfinished => requested due (by omega)⟩
  have whole : s.dhcp = run s.getU32.1 more (loopAfter s.getU32.1 s.getU32.2 (offerAt + 1)) := by
    rw [loopAfter, ← run_add, ← Nat.succ_eq_add_one, ← rest]
    rfl
  rw [whole, sent]

/-- Every request that the run sends behind the offer names every server identifier that its frame carries. -/
def KeepsServerId (s : NetStack) (offerAt : Nat) (offer : RxFrame) : Prop :=
  ∀ server, CarriesServerId offer.bytes server → ∀ later,
    s.dhcp.stack.sent = (loopAfter s.getU32.1 s.getU32.2 (offerAt + 1)).stack.sent ++ later →
    ∀ frame ∈ later, IsDhcpRequest frame → NamesServer server frame

/-- The requests behind an accepted offer name its server identifier exactly when that is the server of the
header, or when the loop ends with the offer. -/
theorem server_identifier_iff {offerAt : Nat} {rxFrame : RxFrame} (accepts : AcceptsOffer s offerAt rxFrame offer) :
    KeepsServerId s offerAt rxFrame ↔
      (∀ server, CarriesServerId rxFrame.bytes server → server = offer.server) ∨ offerAt + 1 = timeoutDhcpLoops := by
  obtain ⟨later, sent, asks, requested⟩ := accepts.later
  constructor
  · intro keeps
    by_cases last : offerAt + 1 = timeoutDhcpLoops
    · exact Or.inr last
    · refine Or.inl fun server carries => ?_
      obtain ⟨frame, member⟩ := List.exists_mem_of_ne_nil later (requested last)
      have named := keeps server carries later sent frame member (asks frame member).isRequest
      exact (asks frame member).namesServer_iff.mp named
  · intro same server carries other sent' frame member _
    obtain rfl : later = other := List.append_cancel_left (sent.symm.trans sent')
    rcases same with same | last
    · exact (asks frame member).namesServer_iff.mpr (same server carries)
    · -- The loop has no iteration left in which it could send.
      have ended : s.dhcp = loopAfter s.getU32.1 s.getU32.2 (offerAt + 1) := by rw [last]; rfl
      rw [ended] at sent
      rw [List.self_eq_append_right.mp sent] at member
      cases member

namespace Scenario

/-- An offer of the gateway that names a server by option 54. -/
def offerNaming (server : UINT32) : RxFrame :=
  dhcpReply dhcpMsgOffer transaction localMac localIp [(dhcpOptServerId, le32 server)]

def offeredBy (server : UINT32) : NetStack := powered [.frame (offerNaming server)]

theorem gatewayOffer_heard : (loopAfter (offeredBy gatewayIp).getU32.1 (offeredBy gatewayIp).getU32.2 0).heard.isSome := by
  decide +kernel

theorem relayedOffer_heard : (loopAfter (offeredBy remoteIp).getU32.1 (offeredBy remoteIp).getU32.2 0).heard.isSome := by
  decide +kernel

/-- The offer of the gateway itself, and one whose server is another host. -/
def gatewayOffer : Heard :=
  (loopAfter (offeredBy gatewayIp).getU32.1 (offeredBy gatewayIp).getU32.2 0).heard.get gatewayOffer_heard

def relayedOffer : Heard :=
  (loopAfter (offeredBy remoteIp).getU32.1 (offeredBy remoteIp).getU32.2 0).heard.get relayedOffer_heard

theorem gatewayOffer_accepted : AcceptsOffer (offeredBy gatewayIp) 0 (offerNaming gatewayIp) gatewayOffer where
  within := by decide
  searching := rfl
  received := rfl
  offered := (Option.some_get gatewayOffer_heard).symm
  accepted := by decide +kernel

theorem relayedOffer_accepted : AcceptsOffer (offeredBy remoteIp) 0 (offerNaming remoteIp) relayedOffer where
  within := by decide
  searching := rfl
  received := rfl
  offered := (Option.some_get relayedOffer_heard).symm
  accepted := by decide +kernel

end Scenario

open Scenario in
/-- The gateway offers and names itself. -/
theorem server_identifier_gateway : KeepsServerId (offeredBy gatewayIp) 0 (offerNaming gatewayIp) ↔
    (∀ server, CarriesServerId (offerNaming gatewayIp).bytes server → server = gatewayOffer.server) ∨
      0 + 1 = timeoutDhcpLoops :=
  server_identifier_iff gatewayOffer_accepted

open Scenario in
/-- The request goes to the next server of an offer that another server has made. -/
theorem next_server_requested : ¬∀ (s : NetStack) (offerAt : Nat) (frame : RxFrame) (offer : Heard),
    AcceptsOffer s offerAt frame offer → KeepsServerId s offerAt frame := by
  intro keeps
  obtain ⟨later, sent, asks, requested⟩ := relayedOffer_accepted.later
  obtain ⟨frame, member⟩ := List.exists_mem_of_ne_nil later (requested (by decide))
  have named := keeps _ 0 _ relayedOffer relayedOffer_accepted remoteIp (by decide +kernel) later sent frame member
    (asks frame member).isRequest
  have server : relayedOffer.server = gatewayIp := by decide +kernel
  have same := (asks frame member).namesServer_iff.mp named
  rw [server] at same
  exact absurd same (by decide)

end UefiNetstack
