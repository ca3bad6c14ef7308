import Mathlib.Data.Nat.Digits.Lemmas

namespace Numerals

variable {Char : Type*} {base n : Nat} {glyph : Nat → Char} {digit : Char → Nat}

/-- The digits of a number as characters. Zero has one digit. -/
def numeral (glyph : Nat → Char) (base n : Nat) : List Char :=
  if n = 0 then [glyph 0] else (base.digits n).reverse.map glyph

/-- The number that a text of digits denotes. -/
def value (digit : Char → Nat) (base : Nat) (text : List Char) : Nat :=
  text.foldl (fun read char => digit char + base * read) 0

/-- The characters are read as the digits that they are written for. -/
def Reads (digit : Char → Nat) (glyph : Nat → Char) (base : Nat) : Prop := ∀ d < base, digit (glyph d) = d

/-- A text of digits denotes what its digits denote. -/
theorem value_glyphs (reads : Reads digit glyph base) {digits : List Nat} (small : ∀ d ∈ digits, d < base) :
    value digit base (digits.reverse.map glyph) = Nat.ofDigits base digits := by
  rw [value, List.foldl_map, List.foldl_reverse]
  induction digits with
  | nil => rfl
  | cons d digits ih =>
      have below : d < base := small d List.mem_cons_self
      rw [List.foldr_cons, ih fun other member => small other (List.mem_cons_of_mem _ member), reads d below,
        Nat.ofDigits_cons]

/-- A numeral is read back as its number. -/
theorem value_numeral (reads : Reads digit glyph base) (large : 1 < base) (n : Nat) :
    value digit base (numeral glyph base n) = n := by
  unfold numeral
  split
  · rename_i zero
    have first : digit (glyph 0) = 0 := reads 0 (by omega)
    simp [value, first, zero]
  · rw [value_glyphs reads fun d member => Nat.digits_lt_base large member, Nat.ofDigits_digits]

/-- A number below a power has at most as many digits. -/
theorem numeral_length_le {width : Nat} (large : 1 < base) (pos : 0 < width) (below : n < base ^ width) :
    (numeral glyph base n).length ≤ width := by
  unfold numeral
  split
  · exact pos
  · rw [List.length_map, List.length_reverse]
    exact (Nat.digits_length_le_iff large n).mpr below

/-- Every character of a numeral is a digit of the base. -/
theorem mem_numeral {char : Char} (large : 1 < base) (member : char ∈ numeral glyph base n) :
    ∃ d < base, char = glyph d := by
  unfold numeral at member
  split at member
  · exact ⟨0, by omega, List.mem_singleton.mp member⟩
  · obtain ⟨d, digit, rfl⟩ := List.mem_map.mp member
    exact ⟨d, Nat.digits_lt_base large (List.mem_reverse.mp digit), rfl⟩

/-- No numeral but that of zero starts with the digit zero. -/
theorem numeral_head (reads : Reads digit glyph base) (large : 1 < base) (positive : n ≠ 0) :
    (numeral glyph base n).head? ≠ some (glyph 0) := by
  rw [numeral, if_neg positive, List.head?_map, List.head?_reverse,
    List.getLast?_eq_some_getLast (Nat.digits_ne_nil_iff_ne_zero.mpr positive)]
  intro leads
  have last := Nat.getLast_digit_ne_zero base positive
  have member := List.getLast_mem (Nat.digits_ne_nil_iff_ne_zero.mpr positive : base.digits n ≠ [])
  have same := congrArg digit (Option.some.inj leads)
  rw [reads _ (Nat.digits_lt_base large member), reads 0 (by omega)] at same
  exact last same

/-- The values of the fields of a text. -/
def fieldValues [BEq Char] (digit : Char → Nat) (base : Nat) (separator : Char) (text : List Char) : List Nat :=
  (text.splitOn separator).map (value digit base)

/-- The fields of a text are read back when none of them holds the separator. -/
theorem fieldValues_intercalate [BEq Char] [LawfulBEq Char] {separator : Char} {fields : List (List Char)}
    (nonempty : fields ≠ []) (clean : ∀ field ∈ fields, separator ∉ field) :
    fieldValues digit base separator ([separator].intercalate fields) = fields.map (value digit base) := by
  rw [fieldValues, List.splitOn_intercalate separator clean nonempty]

end Numerals
