import UefiNetstack.Dhcp.Scan
import UefiNetstack.Reception.Acceptance

namespace UefiNetstack
open Constants LastWrite Memory

/-- What the header of a message says. The server is the one of the header, or else the sender. -/
structure DhcpHead where
  op : UINT8
  xid : UINT32
  chaddr : ByteArr 16
  address : UINT32
  server : UINT32
deriving DecidableEq

/-- What a message says of its type and of the configured variables as well. -/
structure DhcpContent extends DhcpHead where
  type : UINT8
  value : ConfigVar → Option UINT32

def Heard.head (heard : Heard) : DhcpHead where
  op := heard.message.dhcp.op
  xid := heard.message.dhcp.xid
  chaddr := heard.message.dhcp.chaddr
  address := heard.address
  server := heard.server

def Heard.content (heard : Heard) : DhcpContent := { heard.head with type := heard.type, value := heard.value }

/-- The message on a page. -/
def heardOn (m : Memory) : Option Heard := (dhcpMessageOn m).map fun message => { m, message }

def headOn (m : Memory) : Option DhcpHead := (heardOn m).map Heard.head

def contentOn (m : Memory) : Option DhcpContent := (heardOn m).map Heard.content

section Agree

variable {m m' : Memory} {stop : Nat}

/-- The header of a message looks at nothing behind its magic cookie. -/
theorem DhcpHdr.head_agree {start stop p : Nat} (agree : AgreeOn m m' start stop) (lower : start ≤ p)
    (upper : p + dhcpOptionsOffset ≤ stop) :
    (DhcpHdr.read m p).op = (DhcpHdr.read m' p).op ∧ (DhcpHdr.read m p).xid = (DhcpHdr.read m' p).xid ∧
      (DhcpHdr.read m p).yiaddr = (DhcpHdr.read m' p).yiaddr ∧ (DhcpHdr.read m p).siaddr = (DhcpHdr.read m' p).siaddr ∧
      (DhcpHdr.read m p).chaddr = (DhcpHdr.read m' p).chaddr ∧ (DhcpHdr.read m p).magic = (DhcpHdr.read m' p).magic := by
  rw [dhcpOptionsOffset] at upper
  have long (offset : Nat) (inside : offset + 4 ≤ 240) : m.load32 (p + offset) = m'.load32 (p + offset) :=
    agree.load32 (by omega) (by omega)
  exact ⟨agree p lower (by omega), long 4 (by decide), long 16 (by decide), long 20 (by decide),
    ByteArr.read_agree agree (by omega) (by omega), long 236 (by decide)⟩

/-- The scan looks at nothing behind an offset. An item takes six bytes at most, and the end mark one. -/
def optionsInside (m : Memory) (options stop : Nat) : Nat → Nat → Bool
  | 0, _ => true
  | rounds + 1, offset =>
    let p := options + offset
    if p < stop ∧ m p = dhcpOptEnd then true
    else if offset ≥ dhcpOptMaxScan then decide (p < stop)
    else
      decide (p + 6 ≤ stop) &&
        if m p = dhcpOptPad then optionsInside m options stop rounds (offset + 1)
        else optionsInside m options stop rounds (offset + ((m (p + 1)).toNat + 0x02))

theorem visited_agree {options rounds offset : Nat} (agree : AgreeOn m m' 0 stop)
    (inside : optionsInside m options stop rounds offset) :
    visited m' options rounds offset = visited m options rounds offset ∧
      ∀ p ∈ visited m options rounds offset, p + 6 ≤ stop := by
  induction rounds generalizing offset with
  | zero => exact ⟨rfl, by simp [visited]⟩
  | succ rounds ih =>
      simp only [visited]
      by_cases within : options + offset < stop
      · have byte := agree (options + offset) (Nat.zero_le _) within
        rw [← byte]
        by_cases ended : m (options + offset) = dhcpOptEnd
        · rw [if_pos ended, if_pos ended]
          exact ⟨rfl, by simp⟩
        · rw [if_neg ended, if_neg ended]
          by_cases reached : offset ≥ dhcpOptMaxScan
          · rw [if_pos reached, if_pos reached]
            exact ⟨rfl, by simp⟩
          · rw [optionsInside] at inside
            rw [if_neg fun both => ended both.2, if_neg reached, Bool.and_eq_true] at inside
            obtain ⟨room, rest⟩ := inside
            have room : options + offset + 6 ≤ stop := of_decide_eq_true room
            rw [if_neg reached, if_neg reached]
            by_cases padded : m (options + offset) = dhcpOptPad
            · rw [if_pos padded] at rest
              rw [if_pos padded, if_pos padded]
              obtain ⟨same, later⟩ := ih rest
              exact ⟨by rw [same], List.forall_mem_cons.mpr ⟨room, later⟩⟩
            · rw [if_neg padded] at rest
              rw [if_neg padded, if_neg padded, ← agree (options + offset + 1) (Nat.zero_le _) (by omega)]
              obtain ⟨same, later⟩ := ih rest
              exact ⟨by rw [same], List.forall_mem_cons.mpr ⟨room, later⟩⟩
      · rw [optionsInside] at inside
        rw [if_neg fun both => within both.1] at inside
        split at inside
        · exact absurd (of_decide_eq_true inside) within
        · rw [Bool.and_eq_true] at inside
          have room : options + offset + 6 ≤ stop := of_decide_eq_true inside.1
          omega

/-- The tests of the loop, from the Ethernet type to the magic cookie. -/
def IsDhcpPage (m : Memory) : Prop :=
  (EthHdr.read m 0).type = htons ethertypeIpv4 ∧ (IpHdr.read m sizeofEthHdr).protocol = ipProtoUdp ∧
    (UdpHdr.read m (transportOf m)).dest = htons udpPortDhcpClient ∧
    (DhcpHdr.read m (transportOf m + sizeofUdpHdr)).magic = htonl dhcpMagicCookie

instance (m : Memory) : Decidable (IsDhcpPage m) := inferInstanceAs (Decidable (_ ∧ _))

/-- The message behind the headers of a page. -/
def messageOf (m : Memory) : DhcpMessage where
  ip := IpHdr.read m sizeofEthHdr
  dhcp := DhcpHdr.read m (transportOf m + sizeofUdpHdr)
  dhcpAt := transportOf m + sizeofUdpHdr

theorem dhcpMessageOn_eq (m : Memory) : dhcpMessageOn m = if IsDhcpPage m then some (messageOf m) else none := by
  unfold dhcpMessageOn
  dsimp only
  split
  · rename_i type
    split
    · rename_i protocol
      split
      · rename_i dest
        split
        · rename_i magic
          exact (if_pos ⟨type, protocol, dest, magic⟩).symm
        · rename_i magic
          exact (if_neg fun all => magic all.2.2.2).symm
      · rename_i dest
        exact (if_neg fun all => dest all.2.2.1).symm
    · rename_i protocol
      exact (if_neg fun all => protocol all.2.1).symm
  · rename_i type
    exact (if_neg fun all => type all.1).symm

theorem heardOn_eq (m : Memory) : heardOn m = if IsDhcpPage m then some { m, message := messageOf m } else none := by
  rw [heardOn, dhcpMessageOn_eq]
  split
  · rfl
  · rfl

/-- A page that agrees with another one up to the options passes the same tests and says the same in its header. -/
theorem head_agree (agree : AgreeOn m m' 0 stop) (inside : transportOf m + sizeofUdpHdr + dhcpOptionsOffset ≤ stop) :
    transportOf m' = transportOf m ∧ (IsDhcpPage m' ↔ IsDhcpPage m) ∧
      ({ m := m', message := messageOf m' } : Heard).head = ({ m, message := messageOf m } : Heard).head := by
  have place := transportOf_ge m
  simp only [sizeofUdpHdr, dhcpOptionsOffset] at inside
  have eth : EthHdr.read m 0 = EthHdr.read m' 0 :=
    EthHdr.read_agree agree (Nat.zero_le _) (by rw [sizeofEthHdr]; omega)
  have ip : IpHdr.read m sizeofEthHdr = IpHdr.read m' sizeofEthHdr :=
    IpHdr.read_agree agree (Nat.zero_le _) (by simp only [sizeofEthHdr, sizeofIpHdr]; omega)
  have same : transportOf m' = transportOf m := by rw [transportOf, transportOf, ip]
  have udp : UdpHdr.read m (transportOf m) = UdpHdr.read m' (transportOf m) :=
    UdpHdr.read_agree agree (Nat.zero_le _) (by rw [sizeofUdpHdr]; omega)
  obtain ⟨op, xid, yiaddr, siaddr, chaddr, magic⟩ := @DhcpHdr.head_agree m m' 0 stop (transportOf m + sizeofUdpHdr)
    agree (Nat.zero_le _) (by simp only [sizeofUdpHdr, dhcpOptionsOffset]; omega)
  refine ⟨same, ?_, ?_⟩
  · rw [IsDhcpPage, IsDhcpPage, same, ← eth, ← ip, ← udp, ← magic]
  · have server : ({ m := m', message := messageOf m' } : Heard).server =
        ({ m, message := messageOf m } : Heard).server := by
      have next : (messageOf m').dhcp.siaddr = (messageOf m).dhcp.siaddr := by
        simp only [messageOf, same, siaddr]
      have sender : (messageOf m').ip = (messageOf m).ip := ip.symm
      rw [Heard.server, Heard.server, next, sender]
    simp only [Heard.head, Heard.address, server]
    simp only [messageOf, same, ← op, ← xid, ← yiaddr, ← chaddr]

/-- A frame holds what it says in a header that lies in it. -/
theorem headOn_holds {frame : RxFrame}
    (inside : transportOf frame.alone.byte + sizeofUdpHdr + dhcpOptionsOffset ≤ frame.alone.limit) :
    frame.Holds headOn (headOn frame.alone.byte) := by
  refine RxFrame.holds_of_inside fun m agree => ?_
  obtain ⟨-, page, head⟩ := head_agree agree inside
  rw [headOn, headOn, heardOn_eq, heardOn_eq]
  by_cases isPage : IsDhcpPage frame.alone.byte
  · rw [if_pos isPage, if_pos (page.mpr isPage), Option.map_some, Option.map_some, head]
  · rw [if_neg isPage, if_neg fun other => isPage (page.mp other)]

/-- A frame holds a message when the scan ends in it. -/
theorem contentOn_holds {frame : RxFrame}
    (inside : transportOf frame.alone.byte + sizeofUdpHdr + dhcpOptionsOffset ≤ frame.alone.limit)
    (options : optionsInside frame.alone.byte (transportOf frame.alone.byte + sizeofUdpHdr + dhcpOptionsOffset)
      frame.alone.limit scanRounds 0) : frame.Holds contentOn (contentOn frame.alone.byte) := by
  refine RxFrame.holds_of_inside fun m agree => ?_
  obtain ⟨place, page, head⟩ := head_agree agree inside
  obtain ⟨same, within⟩ := visited_agree agree options
  have items : ({ m, message := messageOf m } : Heard).items =
      ({ m := frame.alone.byte, message := messageOf frame.alone.byte } : Heard).items := by
    simp only [Heard.items, messageOf, place]
    exact same
  rw [contentOn, contentOn, heardOn_eq, heardOn_eq]
  by_cases isPage : IsDhcpPage frame.alone.byte
  · rw [if_pos isPage, if_pos (page.mpr isPage), Option.map_some, Option.map_some, Option.some_inj, Heard.content,
      Heard.content, head]
    have type : ({ m, message := messageOf m } : Heard).type =
        ({ m := frame.alone.byte, message := messageOf frame.alone.byte } : Heard).type := by
      rw [Heard.type, Heard.type, items]
      refine congrArg (Option.getD · 0x00#8) (lastWrite_congr fun p member => ?_)
      have room := within p member
      simp only [typeAt, agree p (Nat.zero_le _) (by omega), agree (p + 1) (Nat.zero_le _) (by omega),
        agree (p + 2) (Nat.zero_le _) (by omega)]
    have value : ({ m, message := messageOf m } : Heard).value =
        ({ m := frame.alone.byte, message := messageOf frame.alone.byte } : Heard).value := by
      funext var
      rw [Heard.value, Heard.value, items]
      refine lastWrite_congr fun p member => ?_
      have room := within p member
      have word : frame.alone.byte.load32 (p + 2) = m.load32 (p + 2) := agree.load32 (Nat.zero_le _) (by omega)
      simp only [ConfigVar.named, agree p (Nat.zero_le _) (by omega), agree (p + 1) (Nat.zero_le _) (by omega), word]
    rw [type, value]
  · rw [if_neg isPage, if_neg fun other => isPage (page.mp other)]

end Agree

namespace DhcpLoop

/-- An iteration receives a frame that holds the header, or the message. -/
def ReceivesHead (loop : DhcpLoop) (head : DhcpHead) : Prop :=
  ∃ frame, loop.stack.nextReceive = .frame frame ∧ frame.Holds headOn (some head)

def Receives (loop : DhcpLoop) (content : DhcpContent) : Prop :=
  ∃ frame, loop.stack.nextReceive = .frame frame ∧ frame.Holds contentOn (some content)

end DhcpLoop
end UefiNetstack
