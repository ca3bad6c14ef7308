import UefiNetstack.Console.Numbers

namespace UefiNetstack
open Constants

namespace Console

variable {console : Console} {text : List CHAR16} {bytes : Bytes} {byte : UINT8} {lead : CHAR16}

theorem widen_toNat (byte : UINT8) : (widen byte).toNat % 256 = byte.toNat := by
  have narrow : (widen byte).setWidth 8 = byte := by
    rw [widen]
    ext index inside
    have wider : index < 16 := by omega
    rw [BitVec.getElem_setWidth, BitVec.getLsbD_signExtend, if_pos inside, decide_eq_true wider, Bool.true_and]
    rfl
  have value := congrArg BitVec.toNat narrow
  rwa [BitVec.toNat_setWidth] at value

/-- The characters of an ASCII code are those of the byte. -/
theorem widen_eq_iff {code : UINT8} : widen byte = widen code ↔ byte = code := by
  refine ⟨fun same => BitVec.eq_of_toNat_eq ?_, congrArg widen⟩
  rw [← widen_toNat byte, ← widen_toNat code, same]

theorem widen_lf : widen byte = 0x0A#16 ↔ byte = 0x0A#8 := @widen_eq_iff byte 0x0A#8

theorem widen_cr : widen byte = 0x0D#16 ↔ byte = 0x0D#8 := @widen_eq_iff byte 0x0D#8

theorem widen_nul : widen byte = 0x00#16 ↔ byte = 0x00#8 := @widen_eq_iff byte 0x00#8

/-- What is printed before a byte, by the byte before it. -/
def returnBefore (previous : Option UINT8) (byte : UINT8) : List CHAR16 :=
  if byte = 0x0A#8 ∧ previous ≠ some 0x0D#8 then [0x0D#16] else []

/-- A zero byte prints nothing. -/
def glyphs (byte : UINT8) : List CHAR16 := if byte = 0x00#8 then [] else [widen byte]

/-- The text of the bytes that follow a byte. -/
def asciiText : Option UINT8 → Bytes → List CHAR16
  | _, [] => []
  | previous, byte :: rest => returnBefore previous byte ++ glyphs byte ++ asciiText (some byte) rest

/-- The byte in front of an offset. -/
def previousByte (m : Memory) (i : Nat) : Option UINT8 := if i = 0 then none else some (m (i - 1))

theorem printStr_char (char : CHAR16) (console : Console) :
    console.printStr [char, 0#16] = some (console.put (if char = 0#16 then [] else [char])) := by
  split
  · rename_i zero
    rw [zero]
    unfold printStr put
    split
    · rfl
    · rfl
  · rename_i nonzero
    have clean : 0#16 ∉ [char] := by simpa using Ne.symm nonzero
    exact printStr_text clean console

/-- One round prints the text of its byte. -/
theorem printAsciiChar_eq (str : MappedMemory) {i : Nat} (mapped : i < str.limit) (console : Console) :
    console.printAsciiChar str i =
      some (console.put (returnBefore (previousByte str.byte i) (str.byte i) ++ glyphs (str.byte i))) := by
  have bare : (widen (str.byte i) = 0x0A#16 ∧ (i = 0 ∨ str.byte (i - 1) ≠ 0x0D#8)) ↔
      (str.byte i = 0x0A#8 ∧ previousByte str.byte i ≠ some 0x0D#8) := by
    rw [widen_lf, previousByte]
    refine and_congr_right fun _ => ?_
    by_cases first : i = 0
    · simp [first]
    · simp [first]
  have shown : glyphs (str.byte i) = if widen (str.byte i) = 0#16 then [] else [widen (str.byte i)] :=
    if_congr widen_nul.symm rfl rfl
  rw [printAsciiChar, if_neg (by omega), returnBefore, shown]
  by_cases line : widen (str.byte i) = 0x0A#16 ∧ (i = 0 ∨ str.byte (i - 1) ≠ 0x0D#8)
  · rw [if_pos (bare.mp line), if_pos line, printStr_char]
    simp only [Option.bind_eq_bind, Option.bind_some]
    rw [printStr_char, put_put]
    rfl
  · rw [if_neg (mt bare.mpr line), if_neg line]
    exact printStr_char _ console

/-- The rounds from an offset on print the text of the bytes there. -/
theorem printAscii_rounds (str : MappedMemory) (i count : Nat) (mapped : i + count ≤ str.limit) (console : Console) :
    (List.range' i count).foldlM (fun console i => console.printAsciiChar str i) console =
      some (console.put (asciiText (previousByte str.byte i) (str.byte.slice i count))) := by
  induction count generalizing i console with
  | zero =>
      have nothing : console.put [] = console := by
        unfold put
        split
        · rw [List.append_nil]
        · rfl
      exact congrArg some nothing.symm
  | succ count ih =>
      have first := printAsciiChar_eq str (show i < str.limit by omega) console
      have block : str.byte.slice i (count + 1) = str.byte i :: str.byte.slice (i + 1) count := by
        rw [Nat.add_comm count 1, Memory.slice_add]
        rfl
      rw [List.range'_succ, List.foldlM_cons, first, Option.bind_eq_bind, Option.bind_some,
        ih (i + 1) (by omega), put_put, block]
      rfl

theorem printAsciiN_eq (str : MappedMemory) (len : UINTN) (mapped : len.toNat ≤ str.limit) (console : Console) :
    console.printAsciiN (some str) len = some (console.put (asciiText none (str.byte.slice 0 len.toNat))) := by
  have rounds := printAscii_rounds str 0 len.toNat (by omega) console
  rwa [← List.range_eq_range'] at rounds

/-- A line feed follows a carriage return. -/
def LineEnds (char next : CHAR16) : Prop := next = 0x0A#16 → char = 0x0D#16

/-- After any character, the console shows no bare line feed. -/
theorem asciiText_lines (previous : Option UINT8) (bytes : Bytes) (lead : CHAR16)
    (shown : previous = some 0x0D#8 → lead = 0x0D#16) :
    List.IsChain LineEnds (lead :: asciiText previous bytes) := by
  induction bytes generalizing previous lead with
  | nil => exact .singleton lead
  | cons byte rest ih =>
      by_cases nul : byte = 0x00#8
      · subst nul
        have later := ih (some 0x00#8) lead fun other => absurd other (by decide)
        simpa [asciiText, returnBefore, glyphs] using later
      · have own : List.IsChain LineEnds (widen byte :: asciiText (some byte) rest) :=
          ih (some byte) (widen byte) fun same => widen_cr.mpr (Option.some.inj same)
        rw [asciiText, glyphs, if_neg nul, returnBefore]
        split
        · rename_i line
          have cr : LineEnds lead 0x0D#16 := fun same => absurd same (by decide)
          exact .cons_cons cr (.cons_cons (fun _ => rfl) own)
        · rename_i plain
          refine .cons_cons (fun feed => shown ?_) own
          by_contra other
          exact plain ⟨widen_lf.mp feed, other⟩

/-- A text with every carriage return dropped that stands in front of a line feed. -/
def unixLines : List CHAR16 → List CHAR16
  | [] => []
  | char :: rest =>
    if char = 0x0D#16 ∧ rest.head? = some 0x0A#16 then unixLines rest else char :: unixLines rest

theorem unixLines_other {char : CHAR16} (other : char ≠ 0x0D#16) (rest : List CHAR16) :
    unixLines (char :: rest) = char :: unixLines rest := if_neg fun both => other both.1

/-- Behind a carriage return the text starts as the bytes do. -/
theorem asciiText_head (clean : 0x00#8 ∉ bytes) :
    (asciiText (some 0x0D#8) bytes).head? = (bytes.map widen).head? := by
  cases bytes with
  | nil => rfl
  | cons byte rest =>
      have nonzero : byte ≠ 0x00#8 := fun zero => clean (zero ▸ List.mem_cons_self)
      simp [asciiText, returnBefore, glyphs, nonzero]

/-- The text says what the bytes say, line by line. -/
theorem unixLines_asciiText (previous : Option UINT8) (clean : 0x00#8 ∉ bytes) :
    unixLines (asciiText previous bytes) = unixLines (bytes.map widen) := by
  induction bytes generalizing previous with
  | nil => rfl
  | cons byte rest ih =>
      have nonzero : byte ≠ 0x00#8 := fun zero => clean (zero ▸ List.mem_cons_self)
      have later (previous : Option UINT8) := ih previous fun member => clean (List.mem_cons_of_mem _ member)
      have own : unixLines (widen byte :: asciiText (some byte) rest) = unixLines (widen byte :: rest.map widen) := by
        by_cases cr : byte = 0x0D#8
        · subst cr
          have heads := asciiText_head fun member => clean (List.mem_cons_of_mem _ member)
          rw [unixLines, unixLines, heads, later]
        · have other : widen byte ≠ 0x0D#16 := fun same => cr (widen_cr.mp same)
          rw [unixLines_other other, unixLines_other other, later]
      rw [asciiText, glyphs, if_neg nonzero, returnBefore, List.map_cons, ← own]
      split
      · rename_i line
        have feed : widen byte = 0x0A#16 := widen_lf.mpr line.1
        rw [feed]
        exact if_pos ⟨rfl, rfl⟩
      · rfl

theorem asciiText_length (previous : Option UINT8) (bytes : Bytes) :
    (asciiText previous bytes).length ≤ 2 * bytes.length := by
  induction bytes generalizing previous with
  | nil => exact Nat.le_refl _
  | cons byte rest ih =>
      have later := ih (some byte)
      have before : (returnBefore previous byte).length ≤ 1 := by
        unfold returnBefore
        split <;> simp
      have own : (glyphs byte).length ≤ 1 := by
        unfold glyphs
        split <;> simp
      simp only [asciiText, List.length_append, List.length_cons]
      omega

/-- Bytes whose line feeds all follow carriage returns. -/
def Normal : Option UINT8 → Bytes → Prop
  | _, [] => True
  | previous, byte :: rest => (byte = 0x0A#8 → previous = some 0x0D#8) ∧ Normal (some byte) rest

theorem asciiText_normal {previous : Option UINT8} (clean : 0x00#8 ∉ bytes) (normal : Normal previous bytes) :
    asciiText previous bytes = bytes.map widen := by
  induction bytes generalizing previous with
  | nil => rfl
  | cons byte rest ih =>
      obtain ⟨here, later⟩ := normal
      have nonzero : byte ≠ 0x00#8 := fun zero => clean (zero ▸ List.mem_cons_self)
      have tail := ih (fun member => clean (List.mem_cons_of_mem _ member)) later
      have plain : ¬(byte = 0x0A#8 ∧ previous ≠ some 0x0D#8) := fun both => both.2 (here both.1)
      rw [asciiText, returnBefore, if_neg plain, glyphs, if_neg nonzero, tail]
      rfl

/-- A received text reaches the console with every line feed behind a carriage return. It says line by line what
was received, and nothing else where no line feed was bare. -/
theorem print_ascii_n_lines (str : MappedMemory) (len : UINTN) (mapped : len.toNat ≤ str.limit)
    (console : Console) :
    ∃ text, console.printAsciiN (some str) len = some (console.put text) ∧
      (∀ lead, List.IsChain LineEnds (lead :: text)) ∧ text.length ≤ 2 * len.toNat ∧
      (0x00#8 ∉ str.byte.slice 0 len.toNat →
        unixLines text = unixLines ((str.byte.slice 0 len.toNat).map widen) ∧
          (Normal none (str.byte.slice 0 len.toNat) → text = (str.byte.slice 0 len.toNat).map widen)) := by
  have length := asciiText_length none (str.byte.slice 0 len.toNat)
  rw [Memory.slice_length] at length
  refine ⟨_, printAsciiN_eq str len mapped console, fun lead => ?_, length, fun clean => ⟨?_, ?_⟩⟩
  · exact asciiText_lines none _ lead fun other => nomatch other
  · exact unixLines_asciiText none clean
  · exact asciiText_normal clean

/-- Two lines, of which the second ends with a bare line feed. -/
def twoLines : MappedMemory where
  byte := Memory.ofBytes (asciiBytes "OK\r\nabc\n")
  limit := 8

theorem print_ascii_n_lines_two : ∃ text,
    ({ attached := true } : Console).printAsciiN (some twoLines) 8#64 =
        some (({ attached := true } : Console).put text) ∧
      (∀ lead, List.IsChain LineEnds (lead :: text)) ∧ text.length ≤ 16 ∧
      (0x00#8 ∉ twoLines.byte.slice 0 8 →
        unixLines text = unixLines ((twoLines.byte.slice 0 8).map widen) ∧
          (Normal none (twoLines.byte.slice 0 8) → text = (twoLines.byte.slice 0 8).map widen)) :=
  print_ascii_n_lines twoLines 8#64 (by decide) { attached := true }

end Console
end UefiNetstack
