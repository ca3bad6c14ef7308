import UefiNetstack.Lib.OnesComplement
import UefiNetstack.Constants

namespace UefiNetstack
open Words OnesComplement

abbrev htons (x : UINT16) : UINT16 := swap16 x
abbrev htonl (x : UINT32) : UINT32 := swap32 x
abbrev ntohs (x : UINT16) : UINT16 := htons x
abbrev ntohl (x : UINT32) : UINT32 := htonl x

namespace NetMath

/-- The loop adds each word and then a last odd byte to the accumulator. -/
def addWords : Bytes → UINT32 → UINT32
  | low :: high :: rest, sum => addWords rest (sum + (ofLe16 low high).setWidth 32)
  | [last], sum => sum + last.setWidth 32
  | [], sum => sum

/-- The loop folds the carries while there are any, for at most `rounds` rounds. -/
def foldCarries : Nat → UINT32 → UINT32
  | 0, sum => sum
  | rounds + 1, sum =>
    if sum >>> 16 > 0#32 then foldCarries rounds ((sum &&& 0xFFFF#32) + (sum >>> 16)) else sum

/-- Two rounds leave no carry in any 32 bit sum, see `foldCarries_stable`. -/
def carryRounds : Nat := 2

def checksum (data : Bytes) : UINT16 := (~~~foldCarries carryRounds (addWords data 0#32)).setWidth 16

def pseudoChecksum (saddr daddr : UINT32) (proto : UINT8) (data : Bytes) (len : UINT16) : UINT16 :=
  let ph : PseudoHdr := { saddr, daddr, zero := 0, protocol := proto, tcpLength := htons len }
  let sum := addWords ph.bytes 0#32
  (~~~foldCarries carryRounds (addWords (data.take len.toNat) sum)).setWidth 16

/-- The accumulator holds the natural sum as long as it fits 32 bits. -/
theorem addWords_toNat : ∀ (data : Bytes) (sum : UINT32), sum.toNat + wordSum data < 2 ^ 32 →
    (addWords data sum).toNat = sum.toNat + wordSum data
  | [], sum, _ => by simp [addWords]
  | [last], sum, fits => by
      have small := last.isLt
      simp only [wordSum_singleton] at fits
      simp only [addWords, BitVec.toNat_add, BitVec.toNat_setWidth, wordSum_singleton]
      omega
  | low :: high :: rest, sum, fits => by
      have word := ofLe16_toNat low high
      have small := (ofLe16 low high).isLt
      simp only [wordSum_cons_cons] at fits ⊢
      have next : (sum + (ofLe16 low high).setWidth 32).toNat = sum.toNat + (ofLe16 low high).toNat := by
        simp only [BitVec.toNat_add, BitVec.toNat_setWidth]
        omega
      rw [addWords, addWords_toNat rest _ (by omega), next, word]
      omega

/-- The loop continues over a second part that starts at an even offset. -/
theorem addWords_append : ∀ (first second : Bytes) (sum : UINT32), first.length % 2 = 0 →
    addWords (first ++ second) sum = addWords second (addWords first sum)
  | [], _, _, _ => rfl
  | [_], _, _, even => by simp at even
  | low :: high :: rest, second, sum, even => by
      simp only [List.cons_append, addWords]
      exact addWords_append rest second _ (by simp only [List.length_cons] at even; omega)

/-- One round adds the high half to the low half. -/
theorem carry_toNat (sum : UINT32) :
    ((sum &&& 0xFFFF#32) + (sum >>> 16)).toNat = sum.toNat % 65536 + sum.toNat / 65536 := by
  have bound := sum.isLt
  have low : sum.toNat &&& 65535 = sum.toNat % 65536 := Nat.and_two_pow_sub_one_eq_mod sum.toNat 16
  simp only [BitVec.toNat_add, BitVec.toNat_and, BitVec.toNat_ofNat, BitVec.toNat_ushiftRight,
    Nat.shiftRight_eq_div_pow, Nat.reducePow, Nat.reduceMod, low]
  omega

/-- The loop condition tests for a sum that does not fit 16 bits. -/
theorem carry_iff (sum : UINT32) : sum >>> 16 > 0#32 ↔ 65536 ≤ sum.toNat := by
  have value : (sum >>> 16).toNat = sum.toNat / 65536 := by
    simp [Nat.shiftRight_eq_div_pow]
  rw [gt_iff_lt, BitVec.lt_def, value]
  simp only [BitVec.toNat_ofNat, Nat.zero_mod]
  omega

/-- Two rounds reach the folded sum. -/
theorem foldCarries_toNat (sum : UINT32) : (foldCarries carryRounds sum).toNat = folded sum.toNat := by
  have bound := sum.isLt
  simp only [carryRounds, foldCarries]
  split
  · rename_i first
    rw [carry_iff] at first
    have once := carry_toNat sum
    split
    · rename_i second
      rw [carry_iff] at second
      rw [carry_toNat, once, ← folded_carry sum.toNat, ← folded_carry (sum.toNat % 65536 + _)]
      exact (folded_of_le (by omega)).symm
    · rename_i second
      rw [carry_iff] at second
      rw [once, ← folded_carry sum.toNat]
      exact (folded_of_le (by omega)).symm
  · rename_i first
    rw [carry_iff] at first
    exact (folded_of_le (by omega)).symm

/-- A sum that fits 16 bits is left alone. -/
theorem foldCarries_of_small (rounds : Nat) {sum : UINT32} (small : sum.toNat < 65536) :
    foldCarries rounds sum = sum := by
  cases rounds with
  | zero => rfl
  | succ rounds => rw [foldCarries, if_neg (by rw [carry_iff]; omega)]

/-- The rounds compose. -/
theorem foldCarries_add (first second : Nat) (sum : UINT32) :
    foldCarries (first + second) sum = foldCarries second (foldCarries first sum) := by
  induction first generalizing sum with
  | zero => rw [Nat.zero_add, foldCarries]
  | succ first ih =>
      rw [Nat.succ_add, foldCarries, foldCarries]
      split
      · exact ih _
      · rename_i settled
        rw [carry_iff] at settled
        exact (foldCarries_of_small second (by omega)).symm

/-- Further rounds find no carry, so the loop of the source ends after two. -/
theorem foldCarries_stable (rounds : Nat) (sum : UINT32) :
    foldCarries (carryRounds + rounds) sum = foldCarries carryRounds sum := by
  have small := folded_le sum.toNat
  rw [foldCarries_add, foldCarries_of_small]
  rw [foldCarries_toNat]
  omega

/-- The checksum is the complement of the folded sum. -/
theorem checksum_toNat {data : Bytes} (fits : wordSum data < 2 ^ 32) :
    (checksum data).toNat = 65535 - folded (wordSum data) := by
  have sum := addWords_toNat data 0#32 (by simpa using fits)
  have small := folded_le (wordSum data)
  simp only [checksum, BitVec.toNat_setWidth, BitVec.toNat_not, foldCarries_toNat, sum]
  simp only [BitVec.toNat_ofNat, Nat.zero_mod, Nat.zero_add]
  omega

/-- A message verifies when the code computes a zero checksum over it. -/
theorem checksum_eq_zero_iff {data : Bytes} (fits : wordSum data < 2 ^ 32) :
    checksum data = 0#16 ↔ Verifies data := by
  have value := checksum_toNat fits
  have small := folded_le (wordSum data)
  rw [Verifies, BitVec.toNat_eq, value]
  simp only [BitVec.toNat_ofNat, Nat.zero_mod]
  omega

/-- A message verifies once its checksum replaces the zero in its checksum field. The field lies at
an even offset, so it adds its value to the sum of the other words. -/
theorem checksum_stored (message : UINT16 → Bytes) (base : Nat)
    (sum : ∀ check, wordSum (message check) = base + check.toNat) (fits : base + 65535 < 2 ^ 32) :
    checksum (message (checksum (message 0#16))) = 0#16 := by
  have empty : wordSum (message 0#16) = base := by simpa using sum 0#16
  have stored := sum (checksum (message 0#16))
  rw [checksum_toNat (by omega), empty] at stored
  rw [checksum_eq_zero_iff (by omega), Verifies, stored]
  exact folded_complement base

/-- All ones may stand for a zero checksum. -/
theorem checksum_ones (message : UINT16 → Bytes) (base : Nat)
    (sum : ∀ check, wordSum (message check) = base + check.toNat) (fits : base + 65535 < 2 ^ 32)
    (zero : checksum (message 0#16) = 0#16) : checksum (message 0xFFFF#16) = 0#16 := by
  have empty : wordSum (message 0#16) = base := by simpa using sum 0#16
  have ones : wordSum (message 0xFFFF#16) = base + 65535 := by simpa using sum 0xFFFF#16
  rw [checksum_eq_zero_iff (by omega), Verifies, empty] at zero
  rw [checksum_eq_zero_iff (by omega), Verifies, ones]
  exact folded_ones zero

/-- The pseudo checksum is the plain checksum over the pseudo header and the segment. -/
theorem pseudoChecksum_eq (saddr daddr : UINT32) (proto : UINT8) (data : Bytes) (len : UINT16)
    (whole : data.length = len.toNat) :
    pseudoChecksum saddr daddr proto data len =
      checksum (PseudoHdr.bytes { saddr, daddr, protocol := proto, tcpLength := htons len } ++ data) := by
  rw [checksum, addWords_append _ _ _ (by simp), pseudoChecksum, List.take_of_length_le (by omega)]

end NetMath
end UefiNetstack
