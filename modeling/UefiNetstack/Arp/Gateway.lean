import UefiNetstack.Arp.Fifo
import UefiNetstack.Reception.Frame
import UefiNetstack.Reception.Taken

namespace UefiNetstack
open Constants LastWrite

/-- The ARP replies that a list of frames brings, when they land on a page one after the other. -/
def arpReplies : RxPkt → List RxFrame → List ArpHdr
  | _, [] => []
  | page, frame :: frames => (page.receive frame).arpReply.toList ++ arpReplies (page.receive frame) frames

theorem arpReplies_append (page : RxPkt) (first second : List RxFrame) :
    arpReplies page (first ++ second) = arpReplies page first ++ arpReplies (first.foldl RxPkt.receive page) second := by
  induction first generalizing page with
  | nil => rfl
  | cons frame first ih =>
      rw [List.cons_append, arpReplies, arpReplies, ih, List.append_assoc]
      rfl

/-- The MAC that a reply gives for an address. -/
def macFor (ip : UINT32) (arp : ArpHdr) : Option Mac := if arp.spa = ip then some arp.sha else none

/-- The MAC in the latest reply for an address. -/
def latestMac (ip : UINT32) (replies : List ArpHdr) : Option Mac := lastWrite (macFor ip) replies

/-- The sender in the ARP reply on a page. -/
def senderOn (m : Memory) : Option (UINT32 × Mac) :=
  let arp := ArpHdr.read m sizeofEthHdr
  if (EthHdr.read m 0).type = htons ethertypeArp ∧ ntohs arp.oper = arpOperReply then some (arp.spa, arp.sha) else none

theorem senderOn_eq (page : RxPkt) : senderOn page.byte = page.arpReply.map fun arp => (arp.spa, arp.sha) := by
  unfold senderOn RxPkt.arpReply
  dsimp only
  split
  · rfl
  · rfl

/-- A frame is a reply of an address when it holds the type, the operation and the sender. -/
def RxFrame.RepliesFor (frame : RxFrame) (ip : UINT32) (mac : Mac) : Prop := frame.Holds senderOn (some (ip, mac))

theorem senderOn_holds {frame : RxFrame} (inside : 32 ≤ frame.alone.limit) :
    frame.Holds senderOn (senderOn frame.alone.byte) := by
  refine RxFrame.holds_of_inside fun m agree => ?_
  have type : (EthHdr.read frame.alone.byte 0).type = (EthHdr.read m 0).type :=
    agree.load16 (Nat.zero_le _) (Nat.le_trans (by decide) inside)
  have oper : (ArpHdr.read frame.alone.byte sizeofEthHdr).oper = (ArpHdr.read m sizeofEthHdr).oper :=
    agree.load16 (Nat.zero_le _) (Nat.le_trans (by decide) inside)
  have sha : (ArpHdr.read frame.alone.byte sizeofEthHdr).sha = (ArpHdr.read m sizeofEthHdr).sha :=
    ByteArr.read_agree agree (Nat.zero_le _) (Nat.le_trans (by decide) inside)
  have spa : (ArpHdr.read frame.alone.byte sizeofEthHdr).spa = (ArpHdr.read m sizeofEthHdr).spa :=
    agree.load32 (Nat.zero_le _) (Nat.le_trans (by decide) inside)
  simp only [senderOn, type, oper, sha, spa]

/-- The last reply of an address among the frames names its MAC. -/
def LatestReply (ip : UINT32) (mac : Mac) (frames : List RxFrame) : Prop :=
  ∃ before frame after, frames = before ++ frame :: after ∧ frame.RepliesFor ip mac ∧
    ∀ later ∈ after, ∀ other, ¬later.RepliesFor ip other

/-- Frames land on a page one after the other, and each one that reads as a reply of an address is such a reply. -/
def RepliesWhole (ip : UINT32) : RxPkt → List RxFrame → Prop
  | _, [] => True
  | page, frame :: frames =>
    (∀ mac, senderOn (page.receive frame).byte = some (ip, mac) → frame.RepliesFor ip mac) ∧
      RepliesWhole ip (page.receive frame) frames

section Frames

variable {ip : UINT32} {mac : Mac} {page : RxPkt} {frame : RxFrame}

theorem senderOn_iff : senderOn page.byte = some (ip, mac) ↔ (page.arpReply.bind (macFor ip)) = some mac := by
  rw [senderOn_eq]
  cases page.arpReply with
  | none => simp
  | some arp =>
      rw [Option.map_some, Option.bind_some, Option.some_inj, Prod.mk.injEq, macFor]
      constructor
      · rintro ⟨rfl, rfl⟩
        exact if_pos rfl
      · intro named
        split at named
        · rename_i same
          exact ⟨same, Option.some.inj named⟩
        · cases named

theorem latestMac_cons (frames : List RxFrame) : latestMac ip (arpReplies page (frame :: frames)) =
    (latestMac ip (arpReplies (page.receive frame) frames)).or ((page.receive frame).arpReply.bind (macFor ip)) := by
  have one : lastWrite (macFor ip) (page.receive frame).arpReply.toList =
      (page.receive frame).arpReply.bind (macFor ip) := by
    cases (page.receive frame).arpReply with
    | none => rfl
    | some arp => exact lastWrite_singleton (macFor ip) arp
  rw [latestMac, arpReplies, lastWrite_append, one]
  rfl

/-- Where nothing reads as a reply no frame is one. -/
theorem not_repliesFor {frames : List RxFrame} (silent : latestMac ip (arpReplies page frames) = none) :
    ∀ frame ∈ frames, ∀ mac, ¬frame.RepliesFor ip mac := by
  induction frames generalizing page with
  | nil => simp
  | cons first frames ih =>
      rw [latestMac_cons, Option.or_eq_none_iff] at silent
      intro frame member mac replies
      rcases List.mem_cons.mp member with rfl | later
      · have named := senderOn_iff.mp (replies.on page)
        rw [silent.2] at named
        cases named
      · exact ih silent.1 frame later mac replies

/-- Where every reply is whole the latest MAC on the page is that of the last reply among the frames. -/
theorem latestReply {frames : List RxFrame} (whole : RepliesWhole ip page frames)
    (latest : latestMac ip (arpReplies page frames) = some mac) : LatestReply ip mac frames := by
  induction frames generalizing page with
  | nil => cases latest
  | cons first frames ih =>
      rw [latestMac_cons] at latest
      cases rest : latestMac ip (arpReplies (page.receive first) frames) with
      | some later =>
          rw [rest, Option.some_or] at latest
          obtain ⟨before, frame, after, rfl, replies, last⟩ := ih whole.2 (rest.trans latest)
          exact ⟨first :: before, frame, after, rfl, replies, last⟩
      | none =>
          rw [rest, Option.none_or] at latest
          exact ⟨[], first, frames, rfl, whole.1 mac (senderOn_iff.mpr latest), not_repliesFor rest⟩

/-- Frames that are long enough are read whole. -/
theorem repliesWhole {frames : List RxFrame} (long : ∀ frame ∈ frames, 32 ≤ frame.alone.limit) :
    RepliesWhole ip page frames := by
  induction frames generalizing page with
  | nil => trivial
  | cons first frames ih =>
      refine ⟨fun mac reads => ?_, ih fun frame member => long frame (List.mem_cons_of_mem _ member)⟩
      have holds := senderOn_holds (long first List.mem_cons_self)
      rw [holds.on page] at reads
      rw [RxFrame.RepliesFor, ← reads]
      exact holds

end Frames

/-- What the stack knows of its neighbours. -/
structure Neighbours where
  routerIp : UINT32
  routerMac : Mac
  resolution : ArpResolution
  cache : ArpCache

/-- A reply updates all three places. -/
def Neighbours.learn (known : Neighbours) (arp : ArpHdr) : Neighbours :=
  { known with
    routerMac := if arp.spa = known.routerIp then arp.sha else known.routerMac
    resolution :=
      if arp.spa = known.resolution.targetIp then { known.resolution with targetMac := arp.sha, resolved := true }
      else known.resolution
    cache := known.cache.update arp.spa arp.sha }

/-- The resolution is for the gateway, and wherever the gateway's MAC is known it is the same. -/
structure Neighbours.Coherent (known : Neighbours) (ip : UINT32) (mac : Mac) : Prop where
  routerIp : known.routerIp = ip
  routerMac : known.routerMac = mac
  targetIp : known.resolution.targetIp = ip
  targetMac : known.resolution.targetMac = mac
  ordered : known.cache.Ordered
  cached : ∀ slot, (known.cache.table.get slot).valid → (known.cache.table.get slot).ip = ip →
    (known.cache.table.get slot).mac = mac

namespace ArpCache

variable {cache : ArpCache} {ip other : UINT32} {mac old : Mac}

/-- After an update every slot for its address holds its MAC. -/
theorem update_cached (ordered : cache.Ordered) {slot : Fin arpCacheSize}
    (valid : ((cache.update ip mac).table.get slot).valid) (same : ((cache.update ip mac).table.get slot).ip = ip) :
    ((cache.update ip mac).table.get slot).mac = mac := by
  have hit := cache.lookup_update ip mac mac
  unfold lookup at hit
  split at hit
  · rename_i found here
    obtain ⟨foundValid, foundIp⟩ := find_eq_some here
    obtain rfl := (update_ordered ordered ip mac).distinct slot found valid foundValid (same.trans foundIp.symm)
    exact (Prod.mk.inj hit).2
  · exact absurd (Prod.mk.inj hit).1 Bool.false_ne_true

/-- An update for another address keeps the slots for an address or evicts them. -/
theorem update_others (different : other ≠ ip)
    (cached : ∀ slot, (cache.table.get slot).valid → (cache.table.get slot).ip = ip →
      (cache.table.get slot).mac = old) {slot : Fin arpCacheSize}
    (valid : ((cache.update other mac).table.get slot).valid)
    (same : ((cache.update other mac).table.get slot).ip = ip) :
    ((cache.update other mac).table.get slot).mac = old := by
  cases found : cache.find other with
  | some place =>
      rw [update_hit found] at valid same ⊢
      rw [get_set] at valid same ⊢
      split at valid
      · rename_i here
        rw [if_pos here] at same
        exact absurd ((find_eq_some found).2.symm.trans same) different
      · rename_i elsewhere
        rw [if_neg elsewhere] at same ⊢
        exact cached slot valid same
  | none =>
      rw [update_miss found] at valid same ⊢
      rw [get_set] at valid same ⊢
      split at valid
      · rename_i here
        rw [if_pos here] at same
        exact absurd same different
      · rename_i elsewhere
        rw [if_neg elsewhere] at same ⊢
        exact cached slot valid same

end ArpCache

namespace Neighbours

variable {known : Neighbours} {ip : UINT32} {mac : Mac}

theorem learn_resolution {arp : ArpHdr} (target : arp.spa = known.resolution.targetIp) :
    (known.learn arp).resolution = { known.resolution with targetMac := arp.sha, resolved := true } :=
  if_pos target

theorem learn_resolution_other {arp : ArpHdr} (other : arp.spa ≠ known.resolution.targetIp) :
    (known.learn arp).resolution = known.resolution :=
  if_neg other

/-- A reply of the gateway makes the places agree, whatever they held before. -/
theorem coherent_learn {arp : ArpHdr} (routerIp : known.routerIp = ip) (targetIp : known.resolution.targetIp = ip)
    (ordered : known.cache.Ordered) (gateway : arp.spa = ip) : (known.learn arp).Coherent ip arp.sha := by
  refine ⟨routerIp, ?_, ?_, ?_, ArpCache.update_ordered ordered arp.spa arp.sha, ?_⟩
  · exact if_pos (gateway.trans routerIp.symm)
  · rw [learn_resolution (gateway.trans targetIp.symm)]
    exact targetIp
  · rw [learn_resolution (gateway.trans targetIp.symm)]
  · intro slot valid same
    exact ArpCache.update_cached ordered valid (same.trans gateway.symm)

/-- A reply keeps the coherence, with its own MAC where it is for the gateway. -/
theorem Coherent.learn (coherent : known.Coherent ip mac) (arp : ArpHdr) :
    (known.learn arp).Coherent ip ((macFor ip arp).getD mac) := by
  by_cases gateway : arp.spa = ip
  · have mine : (macFor ip arp).getD mac = arp.sha := by rw [macFor, if_pos gateway]; rfl
    rw [mine]
    exact coherent_learn coherent.routerIp coherent.targetIp coherent.ordered gateway
  · have kept : (macFor ip arp).getD mac = mac := by rw [macFor, if_neg gateway]; rfl
    rw [kept]
    refine ⟨coherent.routerIp, ?_, ?_, ?_, ArpCache.update_ordered coherent.ordered arp.spa arp.sha, ?_⟩
    · exact (if_neg (coherent.routerIp.symm ▸ gateway)).trans coherent.routerMac
    · rw [learn_resolution_other (coherent.targetIp.symm ▸ gateway)]
      exact coherent.targetIp
    · rw [learn_resolution_other (coherent.targetIp.symm ▸ gateway)]
      exact coherent.targetMac
    · intro slot valid same
      exact ArpCache.update_others gateway coherent.cached valid same

theorem learnAll_ordered (ordered : known.cache.Ordered) (replies : List ArpHdr) :
    (replies.foldl Neighbours.learn known).cache.Ordered := by
  induction replies generalizing known with
  | nil => exact ordered
  | cons arp replies ih => exact @ih (known.learn arp) (ArpCache.update_ordered ordered arp.spa arp.sha)

/-- A list of replies keeps the coherence with the latest MAC for the gateway. -/
theorem Coherent.learnAll (coherent : known.Coherent ip mac) (replies : List ArpHdr) :
    (replies.foldl Neighbours.learn known).Coherent ip ((latestMac ip replies).getD mac) := by
  induction replies generalizing known mac with
  | nil => exact coherent
  | cons arp replies ih =>
      have split : latestMac ip (arp :: replies) = (latestMac ip replies).or (macFor ip arp) := by
        rw [latestMac, ← List.singleton_append, lastWrite_append, lastWrite_singleton]
        rfl
      rw [split, getD_or]
      exact ih (coherent.learn arp)

/-- A flush leaves no slot behind. -/
theorem Coherent.flush (coherent : known.Coherent ip mac) : { known with cache := known.cache.flush }.Coherent ip mac where
  routerIp := coherent.routerIp
  routerMac := coherent.routerMac
  targetIp := coherent.targetIp
  targetMac := coherent.targetMac
  ordered := (ArpCache.represents_flush known.cache).toOrdered
  cached slot valid := by simp [ArpCache.flush, Vector.get] at valid

/-- A lookup of the gateway misses or finds its MAC. -/
theorem Coherent.lookup (coherent : known.Coherent ip mac) (outMac : Mac) :
    (known.cache.lookup ip outMac).1 = true → known.cache.lookup ip outMac = (true, mac) := by
  intro hit
  unfold ArpCache.lookup at hit ⊢
  split at hit
  · rename_i slot found
    obtain ⟨valid, same⟩ := ArpCache.find_eq_some found
    rw [coherent.cached slot valid same]
  · exact absurd hit Bool.false_ne_true

end Neighbours
end UefiNetstack
