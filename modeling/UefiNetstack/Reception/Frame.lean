import UefiNetstack.Core.Poll

namespace UefiNetstack
open Constants Memory

/-- The memory of a frame with nothing mapped behind it. -/
def RxFrame.alone (frame : RxFrame) : MappedMemory := { byte := ofBytes frame.bytes, limit := frame.bytes.length }

/-- Receive leaves the bytes of the frame at the start of the page. -/
theorem received_agree (frame : RxFrame) (m : Memory) :
    AgreeOn frame.alone.byte (m.write 0 frame.bytes) 0 frame.alone.limit := by
  intro index _ inside
  have written := write_bytesAt m 0 frame.bytes index inside
  rw [Nat.zero_add] at written
  rw [written]
  change frame.bytes.getD index 0#8 = _
  rw [List.getD_eq_getElem?_getD, List.getElem?_eq_getElem inside, Option.getD_some]

/-- A frame holds a value when the page reads as the value with the frame on it, whatever it held before. So a frame
that is too short for a message does not hold it, even where an earlier frame has left the rest on the page. -/
def RxFrame.Holds {α : Type} (frame : RxFrame) (reading : Memory → α) (value : α) : Prop :=
  ∀ m : Memory, reading (m.write 0 frame.bytes) = value

namespace RxFrame

variable {α β : Type} {frame : RxFrame} {reading : Memory → α} {value other : α}

theorem Holds.on (holds : frame.Holds reading value) (pkt : RxPkt) : reading (pkt.receive frame).byte = value :=
  holds pkt.byte

/-- A reading that looks at nothing behind the frame is what the frame holds. -/
theorem holds_of_inside (inside : ∀ m, AgreeOn frame.alone.byte m 0 frame.alone.limit →
    reading m = reading frame.alone.byte) : frame.Holds reading (reading frame.alone.byte) :=
  fun m => inside _ (received_agree frame m)

end RxFrame

section Headers

variable {m m' : Memory} {start stop p : Nat}

theorem ByteArr.read_agree {count : Nat} (agree : AgreeOn m m' start stop) (lower : start ≤ p)
    (upper : p + count ≤ stop) : ByteArr.read count m p = ByteArr.read count m' p := by
  apply Vector.ext
  intro index inside
  simpa [ByteArr.read] using agree (p + index) (by omega) (by omega)

theorem EthHdr.read_agree (agree : AgreeOn m m' start stop) (lower : start ≤ p) (upper : p + sizeofEthHdr ≤ stop) :
    EthHdr.read m p = EthHdr.read m' p := by
  rw [sizeofEthHdr] at upper
  simp only [EthHdr.read]
  rw [@ByteArr.read_agree m m' start stop p 6 agree lower (by omega),
    @ByteArr.read_agree m m' start stop (p + 6) 6 agree (by omega) (by omega),
    @AgreeOn.load16 m m' start stop agree (p + 12) (by omega) (by omega)]

theorem IpHdr.read_agree (agree : AgreeOn m m' start stop) (lower : start ≤ p) (upper : p + sizeofIpHdr ≤ stop) :
    IpHdr.read m p = IpHdr.read m' p := by
  rw [sizeofIpHdr] at upper
  have word (offset : Nat) (inside : offset + 2 ≤ 20) : m.load16 (p + offset) = m'.load16 (p + offset) :=
    agree.load16 (by omega) (by omega)
  have long (offset : Nat) (inside : offset + 4 ≤ 20) : m.load32 (p + offset) = m'.load32 (p + offset) :=
    agree.load32 (by omega) (by omega)
  simp only [IpHdr.read, agree p lower (by omega), agree (p + 1) (by omega) (by omega),
    agree (p + 8) (by omega) (by omega), agree (p + 9) (by omega) (by omega), word 2 (by decide), word 4 (by decide),
    word 6 (by decide), word 10 (by decide), long 12 (by decide), long 16 (by decide)]

theorem IcmpHdr.read_agree (agree : AgreeOn m m' start stop) (lower : start ≤ p) (upper : p + sizeofIcmpHdr ≤ stop) :
    IcmpHdr.read m p = IcmpHdr.read m' p := by
  rw [sizeofIcmpHdr] at upper
  have word (offset : Nat) (inside : offset + 2 ≤ 8) : m.load16 (p + offset) = m'.load16 (p + offset) :=
    agree.load16 (by omega) (by omega)
  simp only [IcmpHdr.read, agree p lower (by omega), agree (p + 1) (by omega) (by omega), word 2 (by decide),
    word 4 (by decide), word 6 (by decide)]

theorem UdpHdr.read_agree (agree : AgreeOn m m' start stop) (lower : start ≤ p) (upper : p + sizeofUdpHdr ≤ stop) :
    UdpHdr.read m p = UdpHdr.read m' p := by
  rw [sizeofUdpHdr] at upper
  have word (offset : Nat) (inside : offset + 2 ≤ 8) : m.load16 (p + offset) = m'.load16 (p + offset) :=
    agree.load16 (by omega) (by omega)
  simp only [UdpHdr.read, agree.load16 lower (by omega : p + 2 ≤ stop), word 2 (by decide), word 4 (by decide),
    word 6 (by decide)]

theorem TcpHdr.read_agree (agree : AgreeOn m m' start stop) (lower : start ≤ p) (upper : p + sizeofTcpHdr ≤ stop) :
    TcpHdr.read m p = TcpHdr.read m' p := by
  rw [sizeofTcpHdr] at upper
  have word (offset : Nat) (inside : offset + 2 ≤ 20) : m.load16 (p + offset) = m'.load16 (p + offset) :=
    agree.load16 (by omega) (by omega)
  have long (offset : Nat) (inside : offset + 4 ≤ 20) : m.load32 (p + offset) = m'.load32 (p + offset) :=
    agree.load32 (by omega) (by omega)
  simp only [TcpHdr.read, agree.load16 lower (by omega : p + 2 ≤ stop), word 2 (by decide), long 4 (by decide),
    long 8 (by decide), word 12 (by decide), word 14 (by decide), word 16 (by decide), word 18 (by decide)]

theorem DnsHdr.read_agree (agree : AgreeOn m m' start stop) (lower : start ≤ p) (upper : p + sizeofDnsHdr ≤ stop) :
    DnsHdr.read m p = DnsHdr.read m' p := by
  rw [sizeofDnsHdr] at upper
  have word (offset : Nat) (inside : offset + 2 ≤ 12) : m.load16 (p + offset) = m'.load16 (p + offset) :=
    agree.load16 (by omega) (by omega)
  simp only [DnsHdr.read, agree.load16 lower (by omega : p + 2 ≤ stop), word 2 (by decide), word 4 (by decide),
    word 6 (by decide), word 8 (by decide), word 10 (by decide)]

/-- The segment for a port on a page. -/
def segmentOn (port : UINT16) (m : Memory) : Option TcpInput :=
  let ip := IpHdr.read m sizeofEthHdr
  let tcp := TcpHdr.read m (sizeofEthHdr + (ipHlen ip).toNat)
  if (EthHdr.read m 0).type = htons ethertypeIpv4 ∧ ip.protocol = ipProtoTcp ∧ ntohs tcp.dest = port ∧ port ≠ 0#16 then
    some (TcpInput.ofHeaders ip tcp)
  else none

/-- A frame holds a segment whose headers lie in it. -/
theorem segmentOn_holds {frame : RxFrame} (port : UINT16)
    (inside : sizeofEthHdr + (ipHlen (IpHdr.read frame.alone.byte sizeofEthHdr)).toNat + sizeofTcpHdr ≤ frame.alone.limit)
    (fixed : sizeofEthHdr + sizeofIpHdr ≤ frame.alone.limit) :
    frame.Holds (segmentOn port) (segmentOn port frame.alone.byte) := by
  refine RxFrame.holds_of_inside fun m agree => ?_
  have eth : EthHdr.read frame.alone.byte 0 = EthHdr.read m 0 :=
    EthHdr.read_agree agree (Nat.zero_le _) (Nat.le_trans (by decide) fixed)
  have ip : IpHdr.read frame.alone.byte sizeofEthHdr = IpHdr.read m sizeofEthHdr :=
    IpHdr.read_agree agree (Nat.zero_le _) fixed
  have tcp := @TcpHdr.read_agree frame.alone.byte m 0 frame.alone.limit _ agree (Nat.zero_le _) inside
  simp only [segmentOn, ← eth, ← ip, ← tcp]

end Headers

namespace MappedMemory

/-- A memory extends another one when it maps as much and agrees on what the other maps. -/
structure Extends (large small : MappedMemory) : Prop where
  limit : small.limit ≤ large.limit
  agree : AgreeOn small.byte large.byte 0 small.limit

variable {large small : MappedMemory} {p q : Nat}

theorem copy_extends (enlarges : Extends large small) {start len : Nat} (inside : start + len ≤ small.limit) :
    large.copy start len = small.copy start len := by
  unfold copy
  rw [if_pos inside, if_pos (Nat.le_trans inside enlarges.limit), Option.some_inj, Subtype.mk_eq_mk]
  exact (enlarges.agree.slice (Nat.zero_le _) inside).symm

theorem read_extends (enlarges : Extends large small) {byte : UINT8} (done : small.read p = some byte) :
    large.read p = some byte := by
  unfold read at done ⊢
  split at done
  · rename_i inside
    rw [if_pos (Nat.lt_of_lt_of_le inside enlarges.limit), ← enlarges.agree p (Nat.zero_le _) inside]
    exact done
  · cases done

theorem readWord_extends (enlarges : Extends large small) {x : UINT16} (done : small.readWord p = some x) :
    large.readWord p = some x := by
  obtain ⟨high, first, done⟩ := Option.bind_eq_some_iff.mp done
  obtain ⟨low, second, done⟩ := Option.bind_eq_some_iff.mp done
  rw [readWord, read_extends enlarges first, Option.bind_eq_bind, Option.bind_some, read_extends enlarges second]
  exact done

/-- More rounds skip the same labels. -/
theorem skipLabelsWithin_extends (enlarges : Extends large small) {rounds more : Nat} (enough : rounds ≤ more)
    (done : small.skipLabelsWithin rounds p = some q) : large.skipLabelsWithin more p = some q := by
  induction rounds generalizing p more with
  | zero => cases done
  | succ rounds ih =>
      obtain ⟨more, rfl⟩ := Nat.exists_eq_succ_of_ne_zero (Nat.ne_of_gt (Nat.zero_lt_of_lt enough))
      obtain ⟨length, first, done⟩ := Option.bind_eq_some_iff.mp done
      rw [skipLabelsWithin, read_extends enlarges first, Option.bind_eq_bind, Option.bind_some]
      split at done
      · rename_i zero
        rw [if_pos zero]
        exact done
      · rename_i nonzero
        rw [if_neg nonzero]
        exact ih (Nat.le_of_succ_le_succ enough) done

theorem skipLabels_extends (enlarges : Extends large small) (done : small.skipLabels p = some q) :
    large.skipLabels p = some q :=
  skipLabelsWithin_extends enlarges enlarges.limit done

theorem skipQuestions_extends (enlarges : Extends large small) {count : Nat}
    (done : small.skipQuestions count p = some q) : large.skipQuestions count p = some q := by
  induction count generalizing p with
  | zero => exact done
  | succ count ih =>
      obtain ⟨root, skipped, done⟩ := Option.bind_eq_some_iff.mp done
      rw [skipQuestions, skipLabels_extends enlarges skipped]
      exact ih done

theorem skipName_extends (enlarges : Extends large small) (done : small.skipName p = some q) :
    large.skipName p = some q := by
  obtain ⟨first, read, done⟩ := Option.bind_eq_some_iff.mp done
  rw [skipName, read_extends enlarges read, Option.bind_eq_bind, Option.bind_some]
  split at done
  · rename_i marked
    rw [if_pos marked]
    exact done
  · rename_i unmarked
    obtain ⟨root, skipped, done⟩ := Option.bind_eq_some_iff.mp done
    rw [if_neg unmarked, skipLabels_extends enlarges skipped]
    exact done

/-- The parser finds in a larger memory what it finds in a smaller one. -/
theorem findAddress_extends (enlarges : Extends large small) {count : Nat} {answer : Option UINT32}
    (done : small.findAddress count p = some answer) : large.findAddress count p = some answer := by
  induction count generalizing p with
  | zero => exact done
  | succ count ih =>
      obtain ⟨q, name, done⟩ := Option.bind_eq_some_iff.mp done
      obtain ⟨rtype, type, done⟩ := Option.bind_eq_some_iff.mp done
      obtain ⟨rdlen, length, done⟩ := Option.bind_eq_some_iff.mp done
      simp only [findAddress, skipName_extends enlarges name, readWord_extends enlarges type,
        readWord_extends enlarges length, Option.bind_eq_bind, Option.bind_some]
      split at done
      · rename_i address
        obtain ⟨data, copied, found⟩ := Option.bind_eq_some_iff.mp done
        have inside : q + 0x08 + 0x02 + 4 ≤ small.limit := copy_inside copied
        rw [if_pos address, copy_extends enlarges inside, copied, Option.bind_some,
          ← enlarges.agree.load32 (Nat.zero_le _) inside]
        exact found
      · rename_i other
        rw [if_neg other]
        exact ih done

end MappedMemory
end UefiNetstack
