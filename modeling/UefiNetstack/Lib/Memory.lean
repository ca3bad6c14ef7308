import UefiNetstack.Lib.Words

/-- The byte at every offset from a pointer. -/
abbrev Memory := Nat → BitVec 8

namespace Memory
open Words

/-- A block read returns the bytes from one offset on. -/
def slice (m : Memory) (start len : Nat) : List (BitVec 8) :=
  (List.range len).map fun index => m (start + index)

/-- A block write replaces the bytes from one offset on. -/
def write (m : Memory) (start : Nat) (block : List (BitVec 8)) : Memory := fun index =>
  if start ≤ index then (block[index - start]?).getD (m index) else m index

/-- A load of a sixteen bit word. -/
def load16 (m : Memory) (start : Nat) : BitVec 16 := ofLe16 (m start) (m (start + 1))

/-- A load of a thirty-two bit word. -/
def load32 (m : Memory) (start : Nat) : BitVec 32 :=
  ofLe32 (m start) (m (start + 1)) (m (start + 2)) (m (start + 3))

/-- The predicate records that a block lies at an offset. -/
def BytesAt (m : Memory) (start : Nat) (block : List (BitVec 8)) : Prop :=
  ∀ index (inside : index < block.length), m (start + index) = block[index]

/-- Two memories agree on a half-open range of offsets. -/
def AgreeOn (m m' : Memory) (start stop : Nat) : Prop :=
  ∀ index, start ≤ index → index < stop → m index = m' index

variable {m m' : Memory} {start stop len : Nat} {block first second : List (BitVec 8)}

@[simp] theorem slice_length (m : Memory) (start len : Nat) : (m.slice start len).length = len := by
  simp [slice]

@[simp] theorem slice_zero (m : Memory) (start : Nat) : m.slice start 0 = [] := rfl

theorem slice_getElem (m : Memory) (start len index : Nat) (inside : index < (m.slice start len).length) :
    (m.slice start len)[index] = m (start + index) := by
  simp [slice]

theorem slice_getElem? (m : Memory) (start len index : Nat) :
    (m.slice start len)[index]? = if index < len then some (m (start + index)) else none := by
  by_cases inside : index < (m.slice start len).length
  · rw [List.getElem?_eq_getElem inside, slice_getElem, if_pos (slice_length m start len ▸ inside)]
  · rw [List.getElem?_eq_none (Nat.le_of_not_lt inside), if_neg (slice_length m start len ▸ inside)]

/-- A longer read continues the shorter one. -/
theorem slice_add (m : Memory) (start first second : Nat) :
    m.slice start (first + second) = m.slice start first ++ m.slice (start + first) second := by
  simp [slice, List.range_add, Function.comp_def, Nat.add_assoc]

/-- A shorter read is a prefix of a longer one. -/
theorem slice_prefix (m : Memory) (start : Nat) {short long : Nat} (fits : short ≤ long) :
    m.slice start short <+: m.slice start long := by
  obtain ⟨rest, rfl⟩ := Nat.exists_eq_add_of_le fits
  rw [slice_add]
  exact List.prefix_append _ _

/-- A block that lies at an offset is what a read of its length returns. -/
theorem bytesAt_iff_slice : BytesAt m start block ↔ m.slice start block.length = block := by
  constructor
  · intro stored
    apply List.ext_getElem (slice_length _ _ _)
    intro index left right
    rw [slice_getElem, stored index right]
  · intro equal index inside
    have value := slice_getElem m start block.length index (by simpa using inside)
    simpa only [equal] using value.symm

/-- A concatenated block keeps its first part at the same offset. -/
theorem bytesAt_append_left (stored : BytesAt m start (first ++ second)) : BytesAt m start first := by
  intro index inside
  have value := stored index (by simp; omega)
  simpa only [List.getElem_append_left inside] using value

/-- A concatenated block keeps its second part after the first. -/
theorem bytesAt_append_right (stored : BytesAt m start (first ++ second)) :
    BytesAt m (start + first.length) second := by
  intro index inside
  have value := stored (first.length + index) (by simp; omega)
  simpa only [List.getElem_append_right (Nat.le_add_right _ _), Nat.add_sub_cancel_left,
    Nat.add_assoc] using value

theorem bytesAt_append_iff : BytesAt m start (first ++ second) ↔
    BytesAt m start first ∧ BytesAt m (start + first.length) second := by
  constructor
  · intro stored
    exact ⟨bytesAt_append_left stored, bytesAt_append_right stored⟩
  · rintro ⟨left, right⟩ index inside
    by_cases low : index < first.length
    · rw [List.getElem_append_left low, left index low]
    · have offset := right (index - first.length) (by simp at inside; omega)
      rw [List.getElem_append_right (by omega), ← offset]
      congr 1
      omega

@[simp] theorem bytesAt_nil : BytesAt m start [] := by
  intro index inside
  simp at inside

/-- The head of a block is the byte at its offset. -/
theorem bytesAt_head {byte : BitVec 8} (stored : BytesAt m start (byte :: block)) : m start = byte :=
  stored 0 (by simp)

theorem bytesAt_tail {byte : BitVec 8} (stored : BytesAt m start (byte :: block)) :
    BytesAt m (start + 1) block :=
  @bytesAt_append_right m start [byte] block stored

theorem bytesAt_cons_iff {byte : BitVec 8} :
    BytesAt m start (byte :: block) ↔ m start = byte ∧ BytesAt m (start + 1) block := by
  constructor
  · intro stored
    exact ⟨bytesAt_head stored, bytesAt_tail stored⟩
  · rintro ⟨head, tail⟩
    have joined := (@bytesAt_append_iff m start [byte] block).mpr
      ⟨fun index inside => by
        obtain rfl : index = 0 := by simpa using inside
        exact head, tail⟩
    exact joined

/-- The memory whose first bytes are the given list. -/
def ofBytes (content : List (BitVec 8)) : Memory := fun index => content.getD index 0#8

/-- A middle part of a list lies behind its first part. -/
theorem ofBytes_bytesAt (first middle last : List (BitVec 8)) :
    BytesAt (ofBytes (first ++ middle ++ last)) first.length middle := by
  intro index inside
  simp [ofBytes, List.getElem?_append, inside]

/-- A written block lies where it was written. -/
theorem write_bytesAt (m : Memory) (start : Nat) (block : List (BitVec 8)) :
    BytesAt (m.write start block) start block := by
  intro index inside
  simp [write, inside]

/-- A write leaves every byte outside its block. -/
theorem write_outside (m : Memory) {start index : Nat} {block : List (BitVec 8)}
    (outside : index < start ∨ start + block.length ≤ index) : m.write start block index = m index := by
  unfold write
  split
  · rw [List.getElem?_eq_none (by omega)]
    rfl
  · rfl

/-- Memories that agree on a range give the same reads inside it. -/
theorem AgreeOn.slice (agree : AgreeOn m m' start stop) {place len : Nat} (lower : start ≤ place)
    (upper : place + len ≤ stop) : m.slice place len = m'.slice place len := by
  apply List.map_congr_left
  intro index inside
  have bound := List.mem_range.mp inside
  exact agree (place + index) (by omega) (by omega)

theorem AgreeOn.load16 (agree : AgreeOn m m' start stop) {place : Nat} (lower : start ≤ place)
    (upper : place + 2 ≤ stop) : m.load16 place = m'.load16 place := by
  simp only [Memory.load16, agree place (by omega) (by omega), agree (place + 1) (by omega) (by omega)]

theorem AgreeOn.load32 (agree : AgreeOn m m' start stop) {place : Nat} (lower : start ≤ place)
    (upper : place + 4 ≤ stop) : m.load32 place = m'.load32 place := by
  simp only [Memory.load32, agree place (by omega) (by omega), agree (place + 1) (by omega) (by omega),
    agree (place + 2) (by omega) (by omega), agree (place + 3) (by omega) (by omega)]

/-- A load from a stored block returns the stored word. -/
theorem load16_stored {x : BitVec 16} (stored : BytesAt m start (le16 x)) : m.load16 start = x := by
  rw [Memory.load16, bytesAt_head stored, bytesAt_head (bytesAt_tail stored), ofLe16_store]

theorem load32_stored {x : BitVec 32} (stored : BytesAt m start (le32 x)) : m.load32 start = x := by
  have second := bytesAt_tail stored
  have third := bytesAt_tail second
  have fourth := bytesAt_tail third
  rw [Memory.load32, bytesAt_head stored, bytesAt_head second, bytesAt_head third, bytesAt_head fourth,
    ofLe32_store]

end Memory
