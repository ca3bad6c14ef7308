namespace Tlv

abbrev Byte := BitVec 8

/-- An item has a code and a value. -/
abbrev Item := Byte × List Byte

variable (pad stop : Byte)

/-- The items up to the end mark. An area without one, or with an item that is cut off, has none. -/
def decode : List Byte → Option (List Item)
  | [] => none
  | code :: rest =>
    if code = stop then some []
    else if code = pad then decode rest
    else
      match rest with
      | [] => none
      | len :: rest =>
        if len.toNat ≤ rest.length then
          (decode (rest.drop len.toNat)).map ((code, rest.take len.toNat) :: ·)
        else none
termination_by area => area.length
decreasing_by
  · simp
  · simp only [List.length_drop, List.length_cons]
    omega

/-- The bytes of an item. -/
def encodeItem (item : Item) : List Byte := item.1 :: BitVec.ofNat 8 item.2.length :: item.2

def encode (items : List Item) : List Byte := items.flatMap encodeItem

/-- An item whose code is neither of the two marks and whose length fits a byte. -/
structure Encodable (item : Item) : Prop where
  code_ne_stop : item.1 ≠ stop
  code_ne_pad : item.1 ≠ pad
  fits : item.2.length < 256

variable {pad stop}

theorem decode_stop (rest : List Byte) : decode pad stop (stop :: rest) = some [] := by
  rw [decode.eq_def]
  exact if_pos rfl

/-- An encoded item is decoded first. -/
theorem decode_item {item : Item} (encodable : Encodable pad stop item) (rest : List Byte) :
    decode pad stop (encodeItem item ++ rest) = (decode pad stop rest).map (item :: ·) := by
  have len : (BitVec.ofNat 8 item.2.length).toNat = item.2.length := by
    rw [BitVec.toNat_ofNat]
    exact Nat.mod_eq_of_lt encodable.fits
  rw [encodeItem, List.cons_append, List.cons_append, decode.eq_def]
  dsimp only
  rw [if_neg encodable.code_ne_stop, if_neg encodable.code_ne_pad, len, if_pos (by simp), List.drop_left,
    List.take_left]

/-- Decoding returns the encoded items, whatever follows the end mark. -/
theorem decode_encode {items : List Item} (encodable : ∀ item ∈ items, Encodable pad stop item) (rest : List Byte) :
    decode pad stop (encode items ++ stop :: rest) = some items := by
  induction items with
  | nil => exact decode_stop rest
  | cons item items ih =>
      have others := ih fun other member => encodable other (List.mem_cons_of_mem _ member)
      rw [encode, List.flatMap_cons, List.append_assoc, decode_item (encodable item List.mem_cons_self), ← encode,
        others, Option.map_some]

/-- The place of an item: its code, the length that it names and where its value starts. -/
structure Place where
  code : Byte
  length : Nat
  value : Nat

/-- The items of an area, walked up to the end mark or to the first item that does not start before the limit. -/
def walk (pad stop : Byte) (limit : Nat) (area : Nat → Byte) (offset : Nat) : List Place :=
  if limit ≤ offset then []
  else if area offset = stop then []
  else if area offset = pad then walk pad stop limit area (offset + 1)
  else
    let length := (area (offset + 1)).toNat
    ⟨area offset, length, offset + 2⟩ :: walk pad stop limit area (offset + (length + 2))
termination_by limit - offset

variable {limit : Nat} {area : Nat → Byte} {offset : Nat}

theorem walk_limit (reached : limit ≤ offset) : walk pad stop limit area offset = [] := by
  rw [walk, if_pos reached]

theorem walk_stop (ended : area offset = stop) : walk pad stop limit area offset = [] := by
  rw [walk, if_pos ended, ite_self]

theorem walk_pad (inside : offset < limit) (unended : area offset ≠ stop) (padded : area offset = pad) :
    walk pad stop limit area offset = walk pad stop limit area (offset + 1) := by
  rw [walk, if_neg (Nat.not_le.mpr inside), if_neg unended, if_pos padded]

theorem walk_item (inside : offset < limit) (unended : area offset ≠ stop) (item : area offset ≠ pad) :
    walk pad stop limit area offset =
      ⟨area offset, (area (offset + 1)).toNat, offset + 2⟩ ::
        walk pad stop limit area (offset + ((area (offset + 1)).toNat + 2)) := by
  rw [walk, if_neg (Nat.not_le.mpr inside), if_neg unended, if_neg item]

end Tlv
