import UefiNetstack.Dhcp.Scan
import UefiNetstack.Lib.Tlv
import UefiNetstack.Reception.Acceptance

namespace UefiNetstack
open Constants LastWrite Memory Words

namespace MappedMemory

variable (memory : MappedMemory) (p : Nat)

/-- The four bytes of a `local_mem_cpy`. -/
def loadWord : Option UINT32 := do
  let _ ← memory.copy p 4
  some (memory.byte.load32 p)

/-- `if (*p == code && p[1] >= least)` with the read of its body. The length is read behind a matching code
only, and the value behind a sufficient length. -/
def takeOption {β : Type} (code least : UINT8) (value : Nat → Option β) : Option (Option β) := do
  let first ← memory.read p
  if first = code then
    let len ← memory.read (p + 1)
    if len ≥ least then
      let taken ← value (p + 2)
      some (some taken)
    else some none
  else some none

/-- The tests of the loop body in their order. -/
def storeOption (scan : DhcpScan) : Option DhcpScan := do
  let msgType ← memory.takeOption p dhcpOptMsgType 0x01#8 memory.read
  let routerIp ← memory.takeOption p dhcpOptRouter 0x04#8 memory.loadWord
  let dnsServerIp ← memory.takeOption p dhcpOptDns 0x04#8 memory.loadWord
  let subnetMask ← memory.takeOption p dhcpOptSubnetMask 0x04#8 memory.loadWord
  let leaseTime ← memory.takeOption p dhcpOptLeaseTime 0x04#8 memory.loadWord
  some
    { msgType := msgType.getD scan.msgType
      identity := { scan.identity with
        routerIp := routerIp.getD scan.identity.routerIp
        dnsServerIp := dnsServerIp.getD scan.identity.dnsServerIp
        subnetMask := subnetMask.getD scan.identity.subnetMask
        dhcpLeaseTime := (leaseTime.map ntohl).getD scan.identity.dhcpLeaseTime } }

/-- The option loop of `init_network`. It has no result where a read faults or where it has not ended within
the rounds. -/
def scanOptions (memory : MappedMemory) (options : Nat) : Nat → Nat → DhcpScan → Option DhcpScan
  | 0, _, _ => none
  | rounds + 1, offset, scan => do
    let p := options + offset
    let code ← memory.read p
    if code = dhcpOptEnd then some scan
    else if offset ≥ dhcpOptMaxScan then some scan
    else
      let scan ← memory.storeOption p scan
      if code = dhcpOptPad then memory.scanOptions options rounds (offset + 1) scan
      else
        let len ← memory.read (p + 1)
        memory.scanOptions options rounds (offset + (len.toNat + 0x02)) scan

variable {memory} {p}

theorem read_inside (inside : p < memory.limit) : memory.read p = some (memory.byte p) := if_pos inside

theorem loadWord_inside (inside : p + 4 ≤ memory.limit) : memory.loadWord p = some (memory.byte.load32 p) := by
  obtain ⟨data, copied⟩ := memory.copy_mapped inside
  rw [loadWord, copied]
  rfl

/-- A test whose reads lie on the page takes what its item holds. -/
theorem takeOption_inside {β : Type} {value : Nat → Option β} {taken : β} (code least : UINT8)
    (inside : p + 1 < memory.limit) (read : value (p + 2) = some taken) :
    memory.takeOption p code least value =
      some (if memory.byte p = code ∧ memory.byte (p + 1) ≥ least then some taken else none) := by
  rw [takeOption, read_inside (by omega), read_inside inside, read]
  by_cases first : memory.byte p = code
  · by_cases long : memory.byte (p + 1) ≥ least
    · simp [first, long]
    · simp [first, long]
  · simp [first]

theorem storeOption_inside (inside : p + 6 ≤ memory.limit) (scan : DhcpScan) :
    memory.storeOption p scan = some (scan.store memory.byte p) := by
  have byte := read_inside (show p + 2 < memory.limit by omega)
  have word := loadWord_inside (show p + 2 + 4 ≤ memory.limit by omega)
  have reads : p + 1 < memory.limit := by omega
  rw [storeOption, takeOption_inside _ _ reads byte, takeOption_inside _ _ reads word,
    takeOption_inside _ _ reads word, takeOption_inside _ _ reads word, takeOption_inside _ _ reads word]
  simp only [Option.bind_eq_bind, Option.bind_some, Option.some.injEq, DhcpScan.store]
  split_ifs
  all_goals rfl

/-- An item that starts before the limit ends at most 257 bytes behind it. -/
theorem scanOptions_inside {options : Nat} (inside : options + 507 ≤ memory.limit) {rounds offset : Nat}
    (enough : scanRounds ≤ rounds + min offset dhcpOptMaxScan) (near : offset ≤ 506) (scan : DhcpScan) :
    memory.scanOptions options rounds offset scan =
      some (UefiNetstack.scanOptions memory.byte options rounds offset scan) := by
  induction rounds generalizing offset scan with
  | zero =>
      simp only [scanRounds] at enough
      omega
  | succ rounds ih =>
      simp only [scanOptions, UefiNetstack.scanOptions]
      rw [read_inside (by omega)]
      simp only [Option.bind_eq_bind, Option.bind_some]
      by_cases ended : memory.byte (options + offset) = dhcpOptEnd
      · rw [if_pos ended, if_pos ended]
      · rw [if_neg ended, if_neg ended]
        by_cases reached : offset ≥ dhcpOptMaxScan
        · rw [if_pos reached, if_pos reached]
        · have bound : dhcpOptMaxScan = 250 := rfl
          simp only [scanRounds] at enough ih
          rw [if_neg reached, if_neg reached, storeOption_inside (by omega), Option.bind_some,
            read_inside (by omega), Option.bind_some]
          by_cases padded : memory.byte (options + offset) = dhcpOptPad
          · rw [if_pos padded, if_pos padded]
            exact ih (by omega) (by omega) _
          · have len := (memory.byte (options + offset + 1)).isLt
            rw [if_neg padded, if_neg padded]
            exact ih (by omega) (by omega) _

end MappedMemory

/-- The options area that starts at a pointer. -/
def optionArea (m : Memory) (options offset : Nat) : UINT8 := m (options + offset)

/-- The items of the options from an offset on. -/
def optionItems (m : Memory) (options offset : Nat) : List Tlv.Place :=
  Tlv.walk dhcpOptPad dhcpOptEnd dhcpOptMaxScan (optionArea m options) offset

/-- The last item of a code whose value has the least length decides. -/
def decidingItem (m : Memory) (options : Nat) (code least : UINT8) : Option Tlv.Place :=
  ((optionItems m options 0).filter fun item => item.code = code ∧ least.toNat ≤ item.length).getLast?

/-- A message without a type option has type zero. -/
def referenceType (m : Memory) (options : Nat) : UINT8 :=
  match decidingItem m options dhcpOptMsgType 0x01#8 with
  | some item => m (options + item.value)
  | none => 0x00#8

/-- The first four bytes of a value, read big-endian. -/
def bigEndian32 (m : Memory) (p : Nat) : Nat :=
  2 ^ 24 * (m p).toNat + 2 ^ 16 * (m (p + 1)).toNat + 2 ^ 8 * (m (p + 2)).toNat + (m (p + 3)).toNat

/-- An address keeps the first four bytes of the value, and the lease time is read big-endian. -/
def ConfigVar.Takes (m : Memory) (p : Nat) (taken : UINT32) : ConfigVar → Prop
  | .dhcpLeaseTime => taken.toNat = bigEndian32 m p
  | _ => le32 taken = m.slice p 4

/-- A variable takes the value of its deciding item, or stays as it was. -/
def ConfigVar.Follows (var : ConfigVar) (m : Memory) (options : Nat) (before after : UINT32) : Prop :=
  match decidingItem m options var.option 0x04#8 with
  | some item => var.Takes m (options + item.value) after
  | none => after = before

section Scan

variable {m : Memory} {options : Nat}

/-- Behind the padding the scan visits the items of the reference. -/
theorem visited_items {β : Type} (read : Nat → β) {code : UINT8} (named : code ≠ dhcpOptPad) (least : UINT8)
    {rounds offset : Nat} (enough : scanRounds ≤ rounds + offset) :
    (visited m options rounds offset).filterMap
        (fun p => if m p = code ∧ m (p + 1) ≥ least then some (read (p + 2)) else none) =
      ((optionItems m options offset).filter fun item => item.code = code ∧ least.toNat ≤ item.length).map
        fun item => read (options + item.value) := by
  induction rounds generalizing offset with
  | zero =>
      have reached : dhcpOptMaxScan ≤ offset := by simp only [scanRounds] at enough; omega
      rw [optionItems, Tlv.walk_limit reached]
      rfl
  | succ rounds ih =>
      have area (offset : Nat) : optionArea m options offset = m (options + offset) := rfl
      rw [visited, optionItems]
      by_cases ended : m (options + offset) = dhcpOptEnd
      · rw [if_pos ended, Tlv.walk_stop ((area offset).trans ended)]
        rfl
      · rw [if_neg ended]
        by_cases reached : offset ≥ dhcpOptMaxScan
        · rw [if_pos reached, Tlv.walk_limit reached]
          rfl
        · rw [if_neg reached]
          have inside := Nat.lt_of_not_le reached
          by_cases padded : m (options + offset) = dhcpOptPad
          · have other : m (options + offset) ≠ code := fun equal => named (equal.symm.trans padded)
            rw [if_pos padded, Tlv.walk_pad inside ended padded, List.filterMap_cons_none (by rw [if_neg (by tauto)])]
            exact ih (by omega)
          · rw [if_neg padded, Tlv.walk_item inside ended padded]
            have rest := @ih (offset + ((m (options + offset + 1)).toNat + 0x02)) (by omega)
            by_cases decides : m (options + offset) = code ∧ m (options + offset + 1) ≥ least
            · rw [List.filterMap_cons_some (by rw [if_pos decides]), rest,
                List.filter_cons_of_pos (by exact decide_eq_true decides)]
              rfl
            · rw [List.filterMap_cons_none (by rw [if_neg decides]), rest,
                List.filter_cons_of_neg (by exact fun taken => decides (of_decide_eq_true taken))]
              rfl

/-- So the last write of the scan is that of the deciding item. -/
theorem lastWrite_visited {β : Type} (read : Nat → β) {code : UINT8} (named : code ≠ dhcpOptPad) (least : UINT8) :
    lastWrite (fun p => if m p = code ∧ m (p + 1) ≥ least then some (read (p + 2)) else none)
        (visited m options scanRounds 0) =
      (decidingItem m options code least).map fun item => read (options + item.value) := by
  have items := @visited_items m options β read code named least scanRounds 0 (Nat.le_refl scanRounds)
  rw [lastWrite, items, List.getLast?_map, decidingItem]

/-- The scan of the options that start at a pointer. -/
def scanAt (m : Memory) (options : Nat) (identity : Identity) : DhcpScan :=
  scanOptions m options scanRounds 0 { msgType := 0x00#8, identity }

theorem scanAt_msgType (identity : Identity) : (scanAt m options identity).msgType = referenceType m options := by
  have last : lastWrite (typeAt m) (visited m options scanRounds 0) =
      (decidingItem m options dhcpOptMsgType 0x01#8).map fun item => m (options + item.value) :=
    lastWrite_visited m (by decide) _
  rw [scanAt, scanOptions_eq, Heard.foldl_store DhcpScan.msgType typeAt (fun scan m p => scan.store_msgType m p),
    last, referenceType]
  cases decidingItem m options dhcpOptMsgType 0x01#8 <;> rfl

/-- The network order of a load is the big-endian reading. -/
theorem ntohl_load32 (m : Memory) (p : Nat) : (ntohl (m.load32 p)).toNat = bigEndian32 m p := by
  have swapped : ntohl (m.load32 p) = ofLe32 (m (p + 3)) (m (p + 2)) (m (p + 1)) (m p) := swap32_load _ _ _ _
  rw [swapped, ofLe32_toNat, bigEndian32]
  omega

theorem ConfigVar.takes_stored (var : ConfigVar) (m : Memory) (p : Nat) :
    var.Takes m p (var.stored (m.load32 p)) := by
  have bytes : le32 (m.load32 p) = m.slice p 4 := le32_load _ _ _ _
  cases var with
  | dhcpLeaseTime => exact ntohl_load32 m p
  | subnetMask => exact bytes
  | routerIp => exact bytes
  | dnsServerIp => exact bytes

theorem scanAt_follows (var : ConfigVar) (identity : Identity) :
    var.Follows m options (var.get identity) (var.get (scanAt m options identity).identity) := by
  have last : lastWrite (var.named m) (visited m options scanRounds 0) =
      (decidingItem m options var.option 0x04#8).map fun item => var.stored (m.load32 (options + item.value)) :=
    lastWrite_visited (fun p => var.stored (m.load32 p)) (by cases var <;> decide) _
  rw [scanAt, scanOptions_eq, Heard.foldl_store (fun scan => var.get scan.identity) var.named
    (fun scan m p => scan.store_get m p var), last, ConfigVar.Follows]
  cases decidingItem m options var.option 0x04#8 with
  | none => rfl
  | some item => exact var.takes_stored m _

end Scan

/-- Where the options start behind an IP header of a given length. -/
def optionsAt (ipHlen : Nat) : Nat := sizeofEthHdr + ipHlen + sizeofUdpHdr + dhcpOptionsOffset

/-- The loop ends, its reads lie on the page, and it leaves what the reference says. -/
structure OptionScanCorrect (m : Memory) (options : Nat) (identity : Identity) : Prop where
  runs : MappedMemory.scanOptions { byte := m, limit := pktBufSize } options scanRounds 0
      { msgType := 0x00#8, identity } = some (scanAt m options identity)
  msgType : (scanAt m options identity).msgType = referenceType m options
  follows : ∀ var : ConfigVar, var.Follows m options (var.get identity) (var.get (scanAt m options identity).identity)

/-- The options of a message start behind an IP header of 20 to 60 bytes. -/
theorem DhcpMessage.scan_eq {m : Memory} {message : DhcpMessage} (found : dhcpMessageOn m = some message) :
    ∃ ipHlen, 20 ≤ ipHlen ∧ ipHlen ≤ 60 ∧ message.scan m = scanAt m (optionsAt ipHlen) := by
  have lower := transportOf_ge m
  have upper := transportOf_le m
  have place : message.dhcpAt = transportOf m + sizeofUdpHdr := by
    unfold dhcpMessageOn at found
    dsimp only at found
    split_ifs at found
    rw [← Option.some.inj found]
    rfl
  have length : transportOf m = 14 + (ipHlen (IpHdr.read m sizeofEthHdr)).toNat := rfl
  refine ⟨(ipHlen (IpHdr.read m sizeofEthHdr)).toNat, by omega, by omega, ?_⟩
  funext identity
  rw [DhcpMessage.scan, place]
  rfl

/-- On every page the scan behind an IP header of any length is that of the reference. -/
theorem optionScan_correct (m : Memory) (identity : Identity) {ipHlen : Nat} (lower : 20 ≤ ipHlen)
    (upper : ipHlen ≤ 60) : OptionScanCorrect m (optionsAt ipHlen) identity where
  runs := by
    have inside : optionsAt ipHlen + 507 ≤ pktBufSize := by
      simp only [optionsAt, sizeofEthHdr, sizeofUdpHdr, dhcpOptionsOffset, pktBufSize]
      omega
    exact MappedMemory.scanOptions_inside inside (Nat.le_refl scanRounds) (by omega) _
  msgType := scanAt_msgType identity
  follows := fun var => scanAt_follows var identity

/-- The options of an offer, with padding between them and a host name that the scan passes. -/
def paddedOptions : Memory :=
  Memory.write (fun _ => 0) (optionsAt 20) ([dhcpOptMsgType, 1, dhcpMsgOffer, dhcpOptPad, dhcpOptPad] ++
    [dhcpOptRouter, 4, 10, 0, 0, 1] ++ [0x0C, 2, 0x61, 0x62] ++ [dhcpOptPad, dhcpOptDns, 4, 10, 0, 0, 53, dhcpOptEnd] ++
    [dhcpOptRouter, 4, 10, 0, 0, 99])

theorem optionScan_correct_padded : OptionScanCorrect paddedOptions (optionsAt 20) {} ∧
    (scanAt paddedOptions (optionsAt 20) {}).msgType = dhcpMsgOffer ∧
    le32 (scanAt paddedOptions (optionsAt 20) {}).identity.routerIp = [10, 0, 0, 1] := by
  have correct := optionScan_correct paddedOptions {} (Nat.le_refl 20) (by decide)
  exact ⟨correct, by decide +kernel, by decide +kernel⟩

end UefiNetstack
