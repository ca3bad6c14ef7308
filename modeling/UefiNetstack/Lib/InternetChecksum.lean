import UefiNetstack.Lib.OnesComplement

namespace OnesComplement
open Words

/-- The big-endian words of a message; a last odd byte is padded with a zero byte on its right. -/
def bigEndianWords : List (BitVec 8) → List (BitVec 16)
  | high :: low :: rest => (high ++ low) :: bigEndianWords rest
  | [last] => [last ++ 0#8]
  | [] => []

/-- Addition with end-around carry. -/
def onesAdd (x y : BitVec 16) : BitVec 16 := if x.toNat + y.toNat < 65536 then x + y else x + y + 1#16

def onesSum (words : List (BitVec 16)) : BitVec 16 := words.foldl onesAdd 0#16

/-- The two bytes of the checksum in network order. -/
def internetChecksum (message : List (BitVec 8)) : List (BitVec 8) :=
  let check := ~~~onesSum (bigEndianWords message)
  [(check >>> 8).setWidth 8, check.setWidth 8]

theorem onesAdd_toNat (x y : BitVec 16) : (onesAdd x y).toNat = folded (x.toNat + y.toNat) := by
  have left := x.isLt
  have right := y.isLt
  unfold onesAdd
  split
  · rename_i small
    rw [folded_of_le (by omega), BitVec.toNat_add]
    exact Nat.mod_eq_of_lt small
  · rename_i carries
    rw [BitVec.toNat_add, BitVec.toNat_add, BitVec.toNat_ofNat]
    unfold folded
    split <;> omega

/-- A part of a sum may be folded first. -/
theorem folded_add (first second : Nat) : folded (folded first + second) = folded (first + second) := by
  apply folded_unique (folded_le _)
  · unfold folded
    split <;> split <;> omega
  · unfold folded
    split <;> split <;> omega

theorem onesSum_toNat (words : List (BitVec 16)) : (onesSum words).toNat = folded (words.map BitVec.toNat).sum := by
  have run (start : BitVec 16) : (words.foldl onesAdd start).toNat =
      folded (start.toNat + (words.map BitVec.toNat).sum) := by
    induction words generalizing start with
    | nil => exact (folded_of_le (Nat.le_of_lt_succ start.isLt)).symm
    | cons word words ih =>
        rw [List.foldl_cons, ih, onesAdd_toNat, folded_add, List.map_cons, List.sum_cons, Nat.add_assoc]
  rw [onesSum, run, BitVec.toNat_ofNat, Nat.zero_mod, Nat.zero_add]

theorem append_toNat (high low : BitVec 8) : (high ++ low).toNat = 256 * high.toNat + low.toNat := by
  rw [BitVec.toNat_append, ← Nat.shiftLeft_add_eq_or_of_lt low.isLt, Nat.shiftLeft_eq]
  omega

/-- Big-endian words weigh 256 times their little-endian counterparts, up to multiples of 65535. -/
theorem bigEndian_weight : ∀ message : List (BitVec 8),
    ∃ count, 256 * ((bigEndianWords message).map BitVec.toNat).sum = wordSum message + 65535 * count ∧
      (((bigEndianWords message).map BitVec.toNat).sum = 0 ↔ wordSum message = 0)
  | [] => ⟨0, rfl, Iff.rfl⟩
  | [last] => by
      refine ⟨last.toNat, ?_, ?_⟩
      all_goals
        simp only [bigEndianWords, List.map_singleton, List.sum_singleton, append_toNat, BitVec.toNat_ofNat,
          Nat.zero_mod, Nat.add_zero, wordSum_singleton]
        omega
  | high :: low :: rest => by
      obtain ⟨count, weight, zero⟩ := bigEndian_weight rest
      refine ⟨count + high.toNat, ?_, ?_⟩
      all_goals
        simp only [bigEndianWords, List.map_cons, List.sum_cons, append_toNat, wordSum_cons_cons]
        omega

theorem swap16_bytes (x : BitVec 16) : swap16 x = ofLe16 ((x >>> 8).setWidth 8) (x.setWidth 8) := by
  rw [← swap16_load, ofLe16_store]

theorem swap16_toNat (x : BitVec 16) : (swap16 x).toNat = 256 * (x.toNat % 256) + x.toNat / 256 := by
  rw [swap16_bytes, ofLe16_toNat]
  have bound := x.isLt
  simp only [BitVec.toNat_setWidth, BitVec.toNat_ushiftRight, Nat.shiftRight_eq_div_pow]
  omega

/-- A swapped word is stored with its high byte first. -/
theorem le16_swap16 (x : BitVec 16) : le16 (swap16 x) = [(x >>> 8).setWidth 8, x.setWidth 8] := by
  rw [swap16_bytes, le16_load]

/-- A word that complements the little-endian sum stores the bytes of the checksum. -/
theorem le16_checksum {message : List (BitVec 8)} {check : BitVec 16}
    (value : check.toNat = 65535 - folded (wordSum message)) : le16 check = internetChecksum message := by
  obtain ⟨count, weight, zero⟩ := bigEndian_weight message
  generalize big : ((bigEndianWords message).map BitVec.toNat).sum = sum at weight zero
  have total : (onesSum (bigEndianWords message)).toNat = folded sum := by rw [onesSum_toNat, big]
  have small := folded_le sum
  -- swapping the bytes multiplies by 256 modulo 65535
  have swapped : folded (wordSum message) = 256 * (folded sum % 256) + folded sum / 256 := by
    refine folded_unique (by omega) ?_ ?_
    · unfold folded
      split <;> omega
    · unfold folded
      split <;> omega
  have order : check = swap16 (~~~onesSum (bigEndianWords message)) := by
    apply BitVec.eq_of_toNat_eq
    rw [value, swapped, swap16_toNat, BitVec.toNat_not, total]
    omega
  rw [order, le16_swap16]
  rfl

end OnesComplement
