import Mathlib.Tactic

namespace Words

/-- The two bytes of a word in memory order. -/
def le16 (x : BitVec 16) : List (BitVec 8) := [x.setWidth 8, (x >>> 8).setWidth 8]

/-- The four bytes of a word in memory order. -/
def le32 (x : BitVec 32) : List (BitVec 8) :=
  [x.setWidth 8, (x >>> 8).setWidth 8, (x >>> 16).setWidth 8, (x >>> 24).setWidth 8]

/-- The word that a load finds at two consecutive bytes. -/
def ofLe16 (b0 b1 : BitVec 8) : BitVec 16 := b0.setWidth 16 ||| (b1.setWidth 16 <<< 8)

/-- The word that a load finds at four consecutive bytes. -/
def ofLe32 (b0 b1 b2 b3 : BitVec 8) : BitVec 32 :=
  b0.setWidth 32 ||| (b1.setWidth 32 <<< 8) ||| (b2.setWidth 32 <<< 16) ||| (b3.setWidth 32 <<< 24)

/-- The swap exchanges the two bytes of a word. -/
def swap16 (x : BitVec 16) : BitVec 16 :=
  ((x &&& 0xFF00#16) >>> 8) ||| ((x &&& 0x00FF#16) <<< 8)

/-- The swap reverses the four bytes of a word. -/
def swap32 (x : BitVec 32) : BitVec 32 :=
  ((x &&& 0xFF000000#32) >>> 24) ||| ((x &&& 0x00FF0000#32) >>> 8) |||
    ((x &&& 0x0000FF00#32) <<< 8) ||| ((x &&& 0x000000FF#32) <<< 24)

@[simp] theorem le16_length (x : BitVec 16) : (le16 x).length = 2 := rfl

@[simp] theorem le32_length (x : BitVec 32) : (le32 x).length = 4 := rfl

/-- The value of a loaded word weighs its second byte by 256. -/
theorem ofLe16_toNat (b0 b1 : BitVec 8) : (ofLe16 b0 b1).toNat = b0.toNat + 256 * b1.toNat := by
  have lower := b0.isLt
  have upper := b1.isLt
  have apart := Nat.shiftLeft_add_eq_or_of_lt lower b1.toNat
  have wide : (b1.toNat <<< 8) % 65536 = b1.toNat <<< 8 := by rw [Nat.shiftLeft_eq]; omega
  simp only [ofLe16, BitVec.toNat_or, BitVec.toNat_setWidth, BitVec.toNat_shiftLeft, Nat.reducePow]
  rw [Nat.mod_eq_of_lt (a := b0.toNat) (by omega), Nat.mod_eq_of_lt (a := b1.toNat) (by omega), wide,
    Nat.or_comm, ← apart, Nat.shiftLeft_eq]
  omega

/-- A byte above a smaller word is weighed by its place. -/
theorem or_byte_toNat {x : BitVec 32} {place : Nat} (below : x.toNat < 2 ^ place) (fits : place + 8 ≤ 32)
    (b : BitVec 8) : (x ||| b.setWidth 32 <<< place).toNat = x.toNat + 2 ^ place * b.toNat := by
  have small := b.isLt
  have apart := Nat.shiftLeft_add_eq_or_of_lt below b.toNat
  have wide : b.toNat * 2 ^ place < 2 ^ 32 := by
    have bound : b.toNat * 2 ^ place < 2 ^ 8 * 2 ^ place := Nat.mul_lt_mul_of_pos_right small (by positivity)
    rw [← pow_add] at bound
    exact Nat.lt_of_lt_of_le bound (Nat.pow_le_pow_right (by decide) (by omega))
  rw [BitVec.toNat_or, BitVec.toNat_shiftLeft, BitVec.toNat_setWidth, Nat.mod_eq_of_lt (a := b.toNat) (by omega),
    Nat.shiftLeft_eq, Nat.mod_eq_of_lt wide, Nat.or_comm, ← Nat.shiftLeft_eq, ← apart, Nat.shiftLeft_eq, Nat.mul_comm,
    Nat.add_comm]

/-- The value of a loaded word weighs its bytes from the last one down. -/
theorem ofLe32_toNat (b0 b1 b2 b3 : BitVec 8) :
    (ofLe32 b0 b1 b2 b3).toNat = b0.toNat + 2 ^ 8 * b1.toNat + 2 ^ 16 * b2.toNat + 2 ^ 24 * b3.toNat := by
  have first := b0.isLt
  have second := b1.isLt
  have third := b2.isLt
  have value : (b0.setWidth 32).toNat = b0.toNat := by
    rw [BitVec.toNat_setWidth]
    omega
  have two : (b0.setWidth 32 ||| b1.setWidth 32 <<< 8).toNat = b0.toNat + 2 ^ 8 * b1.toNat := by
    rw [or_byte_toNat (by omega) (by decide), value]
  have three : (b0.setWidth 32 ||| b1.setWidth 32 <<< 8 ||| b2.setWidth 32 <<< 16).toNat =
      b0.toNat + 2 ^ 8 * b1.toNat + 2 ^ 16 * b2.toNat := by
    rw [or_byte_toNat (by omega) (by decide), two]
  rw [ofLe32, or_byte_toNat (by omega) (by decide), three]

/-- A load reads back the stored word. -/
@[simp] theorem ofLe16_store (x : BitVec 16) : ofLe16 (x.setWidth 8) ((x >>> 8).setWidth 8) = x := by
  have bound := x.isLt
  apply BitVec.eq_of_toNat_eq
  rw [ofLe16_toNat]
  simp only [BitVec.toNat_setWidth, BitVec.toNat_ushiftRight, Nat.shiftRight_eq_div_pow]
  omega

@[simp] theorem ofLe32_store (x : BitVec 32) :
    ofLe32 (x.setWidth 8) ((x >>> 8).setWidth 8) ((x >>> 16).setWidth 8) ((x >>> 24).setWidth 8) = x := by
  have bound := x.isLt
  apply BitVec.eq_of_toNat_eq
  rw [ofLe32_toNat]
  simp only [BitVec.toNat_setWidth, BitVec.toNat_ushiftRight, Nat.shiftRight_eq_div_pow]
  omega

/-- A store writes back the loaded bytes. -/
@[simp] theorem le16_load (b0 b1 : BitVec 8) : le16 (ofLe16 b0 b1) = [b0, b1] := by
  have first := b0.isLt
  have second := b1.isLt
  simp only [le16, List.cons.injEq, and_true]
  refine ⟨?_, ?_⟩
  all_goals
    apply BitVec.eq_of_toNat_eq
    simp only [BitVec.toNat_setWidth, BitVec.toNat_ushiftRight, Nat.shiftRight_eq_div_pow, ofLe16_toNat]
    omega

@[simp] theorem le32_load (b0 b1 b2 b3 : BitVec 8) : le32 (ofLe32 b0 b1 b2 b3) = [b0, b1, b2, b3] := by
  have first := b0.isLt
  have second := b1.isLt
  have third := b2.isLt
  have fourth := b3.isLt
  simp only [le32, List.cons.injEq, and_true]
  refine ⟨?_, ?_, ?_, ?_⟩
  all_goals
    apply BitVec.eq_of_toNat_eq
    simp only [BitVec.toNat_setWidth, BitVec.toNat_ushiftRight, Nat.shiftRight_eq_div_pow, ofLe32_toNat]
    omega

theorem le32_injective : Function.Injective le32 := by
  intro x y same
  have first : ofLe32 (x.setWidth 8) ((x >>> 8).setWidth 8) ((x >>> 16).setWidth 8) ((x >>> 24).setWidth 8) = y := by
    simp only [le32, List.cons.injEq, and_true] at same
    rw [same.1, same.2.1, same.2.2.1, same.2.2.2, ofLe32_store]
  rw [← first, ofLe32_store]

/-- The swapped load is the big-endian load. -/
@[simp] theorem swap16_load (b0 b1 : BitVec 8) : swap16 (ofLe16 b0 b1) = ofLe16 b1 b0 := by
  ext index inside
  interval_cases index <;> simp [swap16, ofLe16]

@[simp] theorem swap32_load (b0 b1 b2 b3 : BitVec 8) :
    swap32 (ofLe32 b0 b1 b2 b3) = ofLe32 b3 b2 b1 b0 := by
  ext index inside
  interval_cases index <;> simp [swap32, ofLe32]

/-- Two swaps restore the word. -/
@[simp] theorem swap16_swap16 (x : BitVec 16) : swap16 (swap16 x) = x := by
  rw [← ofLe16_store x, swap16_load, swap16_load]

@[simp] theorem swap32_swap32 (x : BitVec 32) : swap32 (swap32 x) = x := by
  rw [← ofLe32_store x, swap32_load, swap32_load]

/-- Only zero swaps to zero. -/
@[simp] theorem swap16_eq_zero_iff (x : BitVec 16) : swap16 x = 0 ↔ x = 0 := by
  constructor
  · intro zero
    rw [← swap16_swap16 x, zero]
    rfl
  · rintro rfl
    rfl

/-- The stored bytes carry the value of the word. -/
theorem le16_toNat (x : BitVec 16) :
    (x.setWidth 8).toNat + 256 * ((x >>> 8).setWidth 8).toNat = x.toNat := by
  rw [← ofLe16_toNat, ofLe16_store]

end Words
