import UefiNetstack.Dhcp.Handshake

namespace UefiNetstack
open Constants DhcpLoop LastWrite

/-- The router falls back to a server. -/
def ConfigVar.settle (server : UINT32) : ConfigVar → UINT32 → UINT32
  | .routerIp, value => if value = 0#32 then server else value
  | _, value => value

/-- Settling an identity settles each variable by itself. -/
theorem ConfigVar.get_settledRouter (var : ConfigVar) (identity : Identity) :
    var.get { identity with routerIp := settledRouter identity } =
      var.settle identity.dhcpServerIp (var.get identity) := by
  cases var
  all_goals rfl

variable {xid xid' : UINT32} {s s' : NetStack} {loop : DhcpLoop}

/-- The messages that the loop hears in its first iterations. -/
def heardBefore (xid : UINT32) (s : NetStack) (count : Nat) : List Heard :=
  (List.range count).filterMap fun earlier => (loopAfter xid s earlier).heard

theorem heardBefore_succ (count : Nat) :
    heardBefore xid s (count + 1) = heardBefore xid s count ++ (loopAfter xid s count).heard.toList := by
  have one : List.filterMap (fun earlier => (loopAfter xid s earlier).heard) [count] =
      (loopAfter xid s count).heard.toList := by
    cases found : (loopAfter xid s count).heard <;> simp [found]
  rw [heardBefore, List.range_succ, List.filterMap_append, one]
  rfl

/-- What a list of messages leaves in a variable. -/
def written (var : ConfigVar) (messages : List Heard) (initial : UINT32) : UINT32 :=
  (lastWrite (fun heard => heard.value var) messages).getD initial

theorem written_append (var : ConfigVar) (first second : List Heard) (initial : UINT32) :
    written var (first ++ second) initial = written var second (written var first initial) := by
  rw [written, lastWrite_append, getD_or]
  rfl

theorem written_singleton (var : ConfigVar) (heard : Heard) (initial : UINT32) :
    written var [heard] initial = (heard.value var).getD initial := by
  rw [written, lastWrite_singleton]

/-- An iteration that does not bind leaves a variable as its message names it. -/
theorem DhcpLoop.iteration_get (var : ConfigVar) (pending : loop.state ≠ .bound)
    (after : (loop.iteration xid).state ≠ .bound) :
    var.get (loop.iteration xid).stack.identity =
      written var loop.heard.toList (var.get loop.stack.identity) := by
  obtain ⟨sends, hears, reception⟩ := loop.iteration_reception xid pending
  have one (message : Heard) (found : loop.heard = some message) :
      written var loop.heard.toList (var.get loop.stack.identity) =
        var.get (message.scan (loop.sendRequest xid).stack.identity).identity := by
    rw [found, Option.toList_some, written_singleton, sends.identity, message.scan_get]
  cases reception with
  | nothing keeps silent state identity =>
    rw [identity, sends.identity, ← hears, silent]
    rfl
  | ignored keeps message found refused state identity => rw [identity, one message (hears.symm.trans found)]
  | offered keeps message found before accepted state due identity =>
    rw [one message (hears.symm.trans found), identity]
    cases var
    all_goals rfl
  | bound keeps message found before accepted state identity => exact absurd state after

/-- Until a run is bound a variable holds what the messages have left in it. -/
theorem loopAfter_get (var : ConfigVar) {count : Nat} (pending : (loopAfter xid s count).state ≠ .bound) :
    var.get (loopAfter xid s count).stack.identity =
      written var (heardBefore xid s count) (var.get s.identity) := by
  induction count with
  | zero => rfl
  | succ count ih =>
      have next := loopAfter_succ xid s count
      by_cases bound : (loopAfter xid s count).state = .bound
      · rw [next, if_pos bound] at pending
        exact absurd bound pending
      · rw [if_neg bound] at next
        rw [next] at pending ⊢
        rw [iteration_get var bound pending, ih bound, heardBefore_succ, written_append]

namespace Handshake

variable (handshake : Handshake xid s) (var : ConfigVar)

/-- What a variable holds as the acknowledgement arrives. -/
def held : UINT32 := written var (heardBefore xid s handshake.ackAt) (var.get s.identity)

/-- What the offer and the acknowledgement configure. A variable that neither names is zero, as at the
start of the program, and the router falls back to the server. -/
def configured : UINT32 :=
  var.settle handshake.offer.server ((handshake.ack.value var).getD ((handshake.offer.value var).getD 0#32))

/-- A bound run has what the acknowledgement names, and else what was held. -/
theorem last_get : var.get handshake.last.stack.identity =
    var.settle handshake.offer.server ((handshake.ack.value var).getD (handshake.held var)) := by
  have requesting := handshake.requesting handshake.ackAt handshake.order (Nat.le_refl _)
  have pending : (loopAfter xid s handshake.ackAt).state ≠ .bound := by rw [requesting.state]; decide
  have sends := (loopAfter xid s handshake.ackAt).sendRequest_sends xid pending
  have same : handshake.asking.stack.identity = (loopAfter xid s handshake.ackAt).stack.identity := sends.identity
  have server : (handshake.ack.scan handshake.asking.stack.identity).identity.dhcpServerIp = handshake.offer.server := by
    rw [(handshake.ack.scan_others _).2.2]
    exact handshake.asking_requesting.1.dhcpServerIp
  rw [handshake.last_keeps.2, var.get_settledRouter, server, handshake.ack.scan_get, same, held,
    loopAfter_get var pending]

/-- Messages that do not name a variable leave what earlier ones have left in it. -/
theorem written_silent {first last : Nat} (order : first ≤ last) (initial : UINT32)
    (silent : ∀ count, first ≤ count → count < last →
      ∀ heard, (loopAfter xid s count).heard = some heard → heard.value var = none) :
    written var (heardBefore xid s last) initial = written var (heardBefore xid s first) initial := by
  induction last, order using Nat.le_induction with
  | base => rfl
  | succ last after ih =>
      rw [heardBefore_succ, written_append, ← ih fun count lower upper => silent count lower (Nat.lt_succ_of_lt upper)]
      cases found : (loopAfter xid s last).heard with
      | none => rfl
      | some heard =>
          have unnamed := silent last after (Nat.lt_succ_self last) heard found
          rw [Option.toList_some, written_singleton, unnamed, Option.getD_none]

/-- Two runs accept the same replies when these name the same values and the same server. -/
structure SameReplies (handshake : Handshake xid s) (other : Handshake xid' s') : Prop where
  server : handshake.offer.server = other.offer.server
  offer : ∀ var : ConfigVar, handshake.offer.value var = other.offer.value var
  ack : ∀ var : ConfigVar, handshake.ack.value var = other.ack.value var

end Handshake

/-- A reply that a run accepts after an iteration names a variable. -/
def NamedAfter (xid : UINT32) (s : NetStack) (var : ConfigVar) (count : Nat) : Prop :=
  ∃ later reply, count ≤ later ∧ (loopAfter xid s later).heard = some reply ∧
    reply.Accepted (loopAfter xid s later).state ∧ reply.value var ≠ none

/-- A run is untainted when the replies that it accepts lie in the frames that it receives, and when such a reply
names whatever an earlier message that it ignores has named, and whatever the caller has left. -/
structure Untainted (xid : UINT32) (s : NetStack) : Prop where
  received : ∀ count reply, (loopAfter xid s count).heard = some reply →
    reply.Accepted (loopAfter xid s count).state → (loopAfter xid s count).Receives reply.content
  ignored : ∀ count message, (loopAfter xid s count).state ≠ .bound → (loopAfter xid s count).heard = some message →
    ¬message.Accepted (loopAfter xid s count).state →
      ∀ var : ConfigVar, message.value var ≠ none → NamedAfter xid s var count
  left : ∀ var : ConfigVar, var.get s.identity ≠ 0#32 → NamedAfter xid s var 0

namespace Handshake

variable (handshake : Handshake xid s) (var : ConfigVar)

/-- Only the offer and the acknowledgement can name a variable later. -/
theorem namedAfter {count : Nat} (named : NamedAfter xid s var count) :
    (count ≤ handshake.offerAt ∧ handshake.offer.value var ≠ none) ∨ handshake.ack.value var ≠ none := by
  obtain ⟨later, reply, after, found, accepted, value⟩ := named
  rcases handshake.accepted_at found accepted with ⟨rfl, rfl⟩ | ⟨rfl, rfl⟩
  · exact Or.inl ⟨after, value⟩
  · exact Or.inr value

/-- What the loop ignores on its way to the acknowledgement. -/
theorem ignores {count : Nat} {message : Heard} (found : (loopAfter xid s count).heard = some message)
    (offer : count ≠ handshake.offerAt) (ack : count ≠ handshake.ackAt) :
    ¬message.Accepted (loopAfter xid s count).state := by
  intro accepted
  rcases handshake.accepted_at found accepted with ⟨same, -⟩ | ⟨same, -⟩
  · exact offer same
  · exact ack same

theorem pending {count : Nat} (before : count ≤ handshake.ackAt) : (loopAfter xid s count).state ≠ .bound := by
  intro bound
  have still := (handshake.requesting handshake.ackAt handshake.order (Nat.le_refl _)).state
  exact absurd (still.symm.trans (loopAfter_bound bound before)) (by decide)

/-- Where the acknowledgement does not name a variable, an untainted run holds it as the offer names it. -/
theorem held_eq (untainted : Untainted xid s) (unnamed : handshake.ack.value var = none) :
    handshake.held var = (handshake.offer.value var).getD 0#32 := by
  have order := handshake.order
  have silent {count : Nat} {message : Heard} (found : (loopAfter xid s count).heard = some message)
      (before : count < handshake.ackAt) (offer : count ≠ handshake.offerAt)
      (kept : ¬(count ≤ handshake.offerAt ∧ handshake.offer.value var ≠ none)) : message.value var = none := by
    by_contra named
    have later := untainted.ignored count message (handshake.pending (Nat.le_of_lt before)) found
      (handshake.ignores found offer (Nat.ne_of_lt before)) var named
    exact (handshake.namedAfter var later).elim kept fun ack => ack unnamed
  -- behind the offer nothing names the variable
  have since : handshake.held var =
      written var (heardBefore xid s (handshake.offerAt + 1)) (var.get s.identity) := by
    refine written_silent var order _ fun count lower upper message found => ?_
    exact silent found upper (by omega) fun both => absurd both.1 (by omega)
  rw [since, heardBefore_succ, written_append, handshake.offered, Option.toList_some, written_singleton]
  cases offered : handshake.offer.value var with
  | some value => rfl
  | none =>
      -- and in front of it nothing does, nor has the caller left a value
      have initial : var.get s.identity = 0#32 := by
        by_contra left
        exact (handshake.namedAfter var (untainted.left var left)).elim (fun both => both.2 offered) fun ack => ack unnamed
      have empty : written var (heardBefore xid s handshake.offerAt) (var.get s.identity) = var.get s.identity := by
        refine written_silent var (Nat.zero_le _) _ fun count _ upper message found => ?_
        exact silent found (Nat.lt_trans upper order) (Nat.ne_of_lt upper) fun both => both.2 offered
      rw [Option.getD_none, Option.getD_none, empty, initial]

theorem last_eq_configured (untainted : Untainted xid s) :
    var.get handshake.last.stack.identity = handshake.configured var := by
  rw [last_get, configured]
  cases unnamed : handshake.ack.value var with
  | none => rw [handshake.held_eq var untainted unnamed]
  | some value => rfl

theorem configured_congr {other : Handshake xid' s'} (same : handshake.SameReplies other) :
    handshake.configured var = other.configured var := by
  rw [configured, configured, same.server, same.offer, same.ack]

/-- Replies that lie in their frames taint no run when the acknowledgement names every variable that the
caller has left or that a message has named. -/
theorem untainted {offer ack : DhcpContent} (first : (loopAfter xid s handshake.offerAt).Receives offer)
    (second : (loopAfter xid s handshake.ackAt).Receives ack)
    (named : ∀ var : ConfigVar, handshake.ack.value var ≠ none ∨ var.get s.identity = 0#32 ∧
      ∀ count < handshake.ackAt, ∀ message, (loopAfter xid s count).heard = some message → message.value var = none) :
    Untainted xid s := by
  have requests := (handshake.requesting handshake.ackAt handshake.order (Nat.le_refl _)).state
  have overruled {var : ConfigVar} {count : Nat} (before : count ≤ handshake.ackAt)
      (value : handshake.ack.value var ≠ none) : NamedAfter xid s var count :=
    ⟨handshake.ackAt, handshake.ack, before, handshake.acknowledged, requests ▸ handshake.ackAccepted, value⟩
  refine ⟨?_, ?_, ?_⟩
  · intro count reply found accepted
    rcases handshake.accepted_at found accepted with ⟨rfl, rfl⟩ | ⟨rfl, rfl⟩
    · rw [first.content_eq found]
      exact first
    · rw [second.content_eq found]
      exact second
  · intro count message open_ found refused var value
    have before : count < handshake.ackAt := by
      rcases Nat.lt_trichotomy count handshake.ackAt with early | rfl | late
      · exact early
      · obtain rfl := Option.some.inj (found.symm.trans handshake.acknowledged)
        exact absurd (requests ▸ handshake.ackAccepted) refused
      · rw [handshake.stays_last late] at open_
        exact absurd handshake.bound open_
    rcases named var with names | ⟨-, silent⟩
    · exact overruled (Nat.le_of_lt before) names
    · exact absurd (silent count before message found) value
  · intro var value
    rcases named var with names | ⟨zero, -⟩
    · exact overruled (Nat.zero_le _) names
    · exact absurd zero value

end Handshake

/-- A bound run that is untainted has received an offer and an acknowledgement and ends configured as these two say.
So two such runs that accept the same replies end configured alike. -/
theorem configuration_provenance (s : NetStack) (bound : s.dhcp.state = .bound)
    (untainted : Untainted s.getU32.1 s.getU32.2) :
    ∃ handshake : Handshake s.getU32.1 s.getU32.2, s.dhcp = handshake.last ∧
      (loopAfter s.getU32.1 s.getU32.2 handshake.offerAt).Receives handshake.offer.content ∧
      (loopAfter s.getU32.1 s.getU32.2 handshake.ackAt).Receives handshake.ack.content ∧
      (∀ var : ConfigVar, var.get s.dhcp.stack.identity = handshake.configured var) ∧
      ∀ (xid' : UINT32) (s' : NetStack) (other : Handshake xid' s'), Untainted xid' s' →
        handshake.SameReplies other →
          ∀ var : ConfigVar, var.get s.dhcp.stack.identity = var.get other.last.stack.identity := by
  obtain ⟨handshake, within⟩ := exists_handshake bound
  have last : s.dhcp = handshake.last := handshake.stays_last within
  have searches := (handshake.discovering handshake.offerAt (Nat.le_refl _)).state
  have requests := (handshake.requesting handshake.ackAt handshake.order (Nat.le_refl _)).state
  have configured (var : ConfigVar) : var.get s.dhcp.stack.identity = handshake.configured var := by
    rw [last, handshake.last_eq_configured var untainted]
  refine ⟨handshake, last, ?_, ?_, configured, ?_⟩
  · exact untainted.received _ _ handshake.offered (searches ▸ handshake.offerAccepted)
  · exact untainted.received _ _ handshake.acknowledged (requests ▸ handshake.ackAccepted)
  · intro xid' s' other clean same var
    rw [configured, handshake.configured_congr var same, other.last_eq_configured var clean]

namespace Scenario

/-- The offer of a second server, which names itself for DNS. -/
def rogueOffer : RxFrame := dhcpReply dhcpMsgOffer transaction localMac localIp [(dhcpOptDns, Words.le32 remoteIp)]

/-- What the offer of the gateway holds. -/
def offerContent : DhcpContent := (contentOn offerFrame.alone.byte).get (by decide +kernel)

theorem offerFrame_content : offerFrame.Holds contentOn (some offerContent) := by
  have held : offerFrame.Holds contentOn (contentOn offerFrame.alone.byte) :=
    contentOn_holds (by decide +kernel) (by decide +kernel)
  rwa [← Option.some_get (by decide +kernel : (contentOn offerFrame.alone.byte).isSome)] at held

/-- Two runs with one offer and one acknowledgement. The second one also hears the second server. -/
def quiet : NetStack := powered [.frame offerFrame, .frame ackFrame]
def noisy : NetStack := powered [.frame offerFrame, .frame rogueOffer, .frame ackFrame]

/-- What a message says of the configuration. -/
def told (heard : Heard) : UINT32 × List (Option UINT32) :=
  (heard.server, [ConfigVar.subnetMask, .routerIp, .dnsServerIp, .dhcpLeaseTime].map heard.value)

/-- A message of the gateway that names no variable. -/
def bare : UINT32 × List (Option UINT32) := (gatewayIp, [none, none, none, none])

/-- A message of the gateway that names a DNS server. -/
def telling (server : UINT32) : UINT32 × List (Option UINT32) := (gatewayIp, [none, none, some server, none])

/-- The states of the two runs, iteration by iteration, and what the messages that they accept say. -/
theorem quiet_run : (loopAfter transaction quiet.getU32.2 0).state = .discover ∧
    (loopAfter transaction quiet.getU32.2 1).state = .offerRcvd ∧
    (loopAfter transaction quiet.getU32.2 2).state = .bound ∧
    (loopAfter transaction quiet.getU32.2 0).heard.map told = some bare ∧
    (loopAfter transaction quiet.getU32.2 1).heard.map told = some bare := by
  decide +kernel

theorem noisy_run : (loopAfter transaction noisy.getU32.2 0).state = .discover ∧
    (loopAfter transaction noisy.getU32.2 1).state = .offerRcvd ∧
    (loopAfter transaction noisy.getU32.2 2).state = .offerRcvd ∧
    (loopAfter transaction noisy.getU32.2 3).state = .bound ∧
    (loopAfter transaction noisy.getU32.2 0).heard.map told = some bare ∧
    (loopAfter transaction noisy.getU32.2 2).heard.map told = some bare := by
  decide +kernel

theorem quiet_bound : quiet.dhcp.state = .bound :=
  loopAfter_bound quiet_run.2.2.1 (by decide)

theorem noisy_bound : noisy.dhcp.state = .bound :=
  loopAfter_bound noisy_run.2.2.2.1 (by decide)

theorem told_value {heard : Heard} {server : UINT32} {mask router dns lease : Option UINT32}
    (same : told heard = (server, [mask, router, dns, lease])) :
    heard.value .subnetMask = mask ∧ heard.value .routerIp = router ∧ heard.value .dnsServerIp = dns ∧
      heard.value .dhcpLeaseTime = lease := by
  have values : [ConfigVar.subnetMask, .routerIp, .dnsServerIp, .dhcpLeaseTime].map heard.value =
      [mask, router, dns, lease] := congrArg Prod.snd same
  simp only [List.map_cons, List.map_nil, List.cons.injEq, and_true] at values
  exact values

theorem bare_value {heard : Heard} (same : told heard = bare) (var : ConfigVar) : heard.value var = none := by
  obtain ⟨subnetMask, routerIp, dnsServerIp, dhcpLeaseTime⟩ := told_value same
  cases var
  · exact subnetMask
  · exact routerIp
  · exact dnsServerIp
  · exact dhcpLeaseTime

/-- What a message that is bare up to its DNS server names. -/
theorem telling_value {heard : Heard} {server : UINT32} (same : told heard = telling server) (var : ConfigVar) :
    heard.value var = if var = .dnsServerIp then some server else none := by
  obtain ⟨subnetMask, routerIp, dnsServerIp, dhcpLeaseTime⟩ := told_value same
  cases var
  · exact subnetMask
  · exact routerIp
  · exact dnsServerIp
  · exact dhcpLeaseTime

theorem quiet_told (handshake : Handshake transaction quiet.getU32.2) :
    told handshake.offer = bare ∧ told handshake.ack = bare := by
  obtain ⟨searches, requests, bound, offer, ack⟩ := quiet_run
  have pending : (loopAfter transaction quiet.getU32.2 1).state ≠ .bound := by rw [requests]; decide
  exact ⟨handshake.offer_reads told searches requests offer, handshake.ack_reads told pending bound ack⟩

theorem noisy_told (handshake : Handshake transaction noisy.getU32.2) :
    told handshake.offer = bare ∧ told handshake.ack = bare := by
  obtain ⟨searches, requests, waits, bound, offer, ack⟩ := noisy_run
  have pending : (loopAfter transaction noisy.getU32.2 2).state ≠ .bound := by rw [waits]; decide
  exact ⟨handshake.offer_reads told searches requests offer, handshake.ack_reads told pending bound ack⟩

/-- Both runs accept the bare offer of the gateway and its bare acknowledgement. -/
theorem quiet_noisy_same (first : Handshake transaction quiet.getU32.2)
    (second : Handshake transaction noisy.getU32.2) : first.SameReplies second where
  server := (congrArg Prod.fst (quiet_told first).1).trans (congrArg Prod.fst (noisy_told second).1).symm
  offer var := (bare_value (quiet_told first).1 var).trans (bare_value (noisy_told second).1 var).symm
  ack var := (bare_value (quiet_told first).2 var).trans (bare_value (noisy_told second).2 var).symm

/-- An acknowledgement that names the gateway for DNS. -/
def namingAck : RxFrame := dhcpReply dhcpMsgAck transaction localMac localIp [(dhcpOptDns, Words.le32 gatewayIp)]

def namingContent : DhcpContent := (contentOn namingAck.alone.byte).get (by decide +kernel)

theorem namingAck_content : namingAck.Holds contentOn (some namingContent) := by
  have held : namingAck.Holds contentOn (contentOn namingAck.alone.byte) :=
    contentOn_holds (by decide +kernel) (by decide +kernel)
  rwa [← Option.some_get (by decide +kernel : (contentOn namingAck.alone.byte).isSome)] at held

/-- Two runs that this acknowledgement ends. The second one starts with another DNS server and hears the second
server. -/
def direct : NetStack := powered [.frame offerFrame, .frame namingAck]
def overruled : NetStack :=
  { powered [.frame offerFrame, .frame rogueOffer, .frame namingAck] with
    identity := { direct.identity with dnsServerIp := remoteIp } }

theorem direct_run : (loopAfter transaction direct.getU32.2 0).state = .discover ∧
    (loopAfter transaction direct.getU32.2 1).state = .offerRcvd ∧
    (loopAfter transaction direct.getU32.2 2).state = .bound ∧
    (loopAfter transaction direct.getU32.2 0).heard.map told = some bare ∧
    (loopAfter transaction direct.getU32.2 1).heard.map told = some (telling gatewayIp) := by
  decide +kernel

theorem overruled_run : (loopAfter transaction overruled.getU32.2 0).state = .discover ∧
    (loopAfter transaction overruled.getU32.2 1).state = .offerRcvd ∧
    (loopAfter transaction overruled.getU32.2 2).state = .offerRcvd ∧
    (loopAfter transaction overruled.getU32.2 3).state = .bound ∧
    (loopAfter transaction overruled.getU32.2 0).heard.map told = some bare ∧
    (loopAfter transaction overruled.getU32.2 1).heard.map told = some (telling remoteIp) ∧
    (loopAfter transaction overruled.getU32.2 2).heard.map told = some (telling gatewayIp) := by
  decide +kernel

theorem direct_bound : direct.dhcp.state = .bound :=
  loopAfter_bound direct_run.2.2.1 (by decide)

theorem overruled_bound : overruled.dhcp.state = .bound :=
  loopAfter_bound overruled_run.2.2.2.1 (by decide)

theorem direct_untainted (handshake : Handshake transaction direct.getU32.2) :
    Untainted transaction direct.getU32.2 := by
  obtain ⟨searches, requests, bound, offer, ack⟩ := direct_run
  have pending : (loopAfter transaction direct.getU32.2 1).state ≠ .bound := by rw [requests]; decide
  have offerAt : handshake.offerAt = 0 := handshake.offerAt_eq searches requests
  have ackAt : handshake.ackAt = 1 := handshake.ackAt_eq pending bound
  refine handshake.untainted ⟨offerFrame, ?_, offerFrame_content⟩ ⟨namingAck, ?_, namingAck_content⟩ fun var => ?_
  · rw [offerAt]
    rfl
  · rw [ackAt, NetStack.nextReceive, loopAfter_receive pending]
    rfl
  · rw [telling_value (handshake.ack_reads told pending bound ack)]
    by_cases named : var = .dnsServerIp
    · exact Or.inl (by simp [named])
    · refine Or.inr ⟨by cases var <;> rfl, fun count before message found => ?_⟩
      obtain rfl : count = 0 := by omega
      rw [found] at offer
      exact bare_value (Option.some.inj offer) var

theorem overruled_untainted (handshake : Handshake transaction overruled.getU32.2) :
    Untainted transaction overruled.getU32.2 := by
  obtain ⟨searches, requests, waits, bound, offer, rogue, ack⟩ := overruled_run
  have pending : (loopAfter transaction overruled.getU32.2 2).state ≠ .bound := by rw [waits]; decide
  have offerAt : handshake.offerAt = 0 := handshake.offerAt_eq searches requests
  have ackAt : handshake.ackAt = 2 := handshake.ackAt_eq pending bound
  refine handshake.untainted ⟨offerFrame, ?_, offerFrame_content⟩ ⟨namingAck, ?_, namingAck_content⟩ fun var => ?_
  · rw [offerAt]
    rfl
  · rw [ackAt, NetStack.nextReceive, loopAfter_receive pending]
    rfl
  · rw [telling_value (handshake.ack_reads told pending bound ack)]
    by_cases named : var = .dnsServerIp
    · exact Or.inl (by simp [named])
    · refine Or.inr ⟨by cases var <;> first | rfl | exact absurd rfl named, fun count before message found => ?_⟩
      obtain rfl | rfl : count = 0 ∨ count = 1 := by omega
      · rw [found] at offer
        exact bare_value (Option.some.inj offer) var
      · rw [found] at rogue
        exact (telling_value (Option.some.inj rogue) var).trans (if_neg named)

/-- Both runs accept the bare offer and the same acknowledgement. -/
theorem overruled_direct_same (first : Handshake transaction overruled.getU32.2)
    (second : Handshake transaction direct.getU32.2) : first.SameReplies second := by
  obtain ⟨searches, requests, waits, bound, bareOffer, -, namesGateway⟩ := overruled_run
  obtain ⟨searches', requests', bound', bareOffer', namesGateway'⟩ := direct_run
  have offer := first.offer_reads told searches requests bareOffer
  have ack := first.ack_reads told (by rw [waits]; decide) bound namesGateway
  have offer' := second.offer_reads told searches' requests' bareOffer'
  have ack' := second.ack_reads told (by rw [requests']; decide) bound' namesGateway'
  exact
    { server := (congrArg Prod.fst offer).trans (congrArg Prod.fst offer').symm
      offer := fun var => (bare_value offer var).trans (bare_value offer' var).symm
      ack := fun var => (telling_value ack var).trans (telling_value ack' var).symm }

end Scenario

open Scenario in
/-- The DNS server that the caller has left and the one of the second server leave no trace. -/
theorem configuration_provenance_overruled :
    ∃ other : Handshake direct.getU32.1 direct.getU32.2,
      ∀ var : ConfigVar, var.get overruled.dhcp.stack.identity = var.get other.last.stack.identity := by
  obtain ⟨first, -⟩ := exists_handshake direct_bound
  obtain ⟨second, -⟩ := exists_handshake overruled_bound
  obtain ⟨handshake, -, -, -, -, alike⟩ :=
    configuration_provenance overruled overruled_bound (overruled_untainted second)
  exact ⟨first, alike _ _ first (direct_untainted first) (overruled_direct_same handshake first)⟩

open Scenario in
/-- The DNS server of a bound run comes from an offer that the loop has not accepted. -/
theorem rogue_offer_configures : ¬∀ (s s' : NetStack) (handshake : Handshake s.getU32.1 s.getU32.2)
    (other : Handshake s'.getU32.1 s'.getU32.2), handshake.SameReplies other →
    ∀ var : ConfigVar, var.get handshake.last.stack.identity = var.get other.last.stack.identity := by
  intro determined
  obtain ⟨first, early⟩ := exists_handshake quiet_bound
  obtain ⟨second, late⟩ := exists_handshake noisy_bound
  have alike := determined quiet noisy first second (quiet_noisy_same first second) .dnsServerIp
  have firstLast : quiet.dhcp = first.last := first.stays_last early
  have secondLast : noisy.dhcp = second.last := second.stays_last late
  have distinct : ConfigVar.dnsServerIp.get quiet.dhcp.stack.identity ≠
      ConfigVar.dnsServerIp.get noisy.dhcp.stack.identity := by
    decide +kernel
  rw [firstLast, secondLast] at distinct
  exact distinct alike

end UefiNetstack
