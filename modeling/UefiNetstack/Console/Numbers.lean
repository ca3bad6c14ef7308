import UefiNetstack.Console.Io
import UefiNetstack.Lib.Numerals

namespace UefiNetstack
open Constants Numerals

namespace Console

variable {console : Console} {text : List CHAR16}

/-- The console with a text behind what it shows. A null ConOut shows nothing. -/
def put (text : List CHAR16) (console : Console) : Console :=
  if console.attached then { console with text := console.text ++ text } else console

@[simp] theorem put_put (first second : List CHAR16) (console : Console) :
    (console.put first).put second = console.put (first ++ second) := by
  unfold put
  split
  · rw [List.append_assoc]
  · rfl

theorem put_attached (shown : console.attached) (text : List CHAR16) :
    (console.put text).text = console.text ++ text := by
  rw [put, if_pos shown]

theorem wideText_zero (clean : 0#16 ∉ text) : wideText (text ++ [0#16]) = some text := by
  have before : ∀ char ∈ text, decide (char ≠ 0#16) = true := by
    intro char member
    exact decide_eq_true fun zero => clean (zero ▸ member)
  rw [wideText, if_pos (by simp), List.takeWhile_append_of_pos before]
  simp

/-- A string is printed up to its zero. -/
theorem printStr_text (clean : 0#16 ∉ text) (console : Console) :
    console.printStr (text ++ [0#16]) = some (console.put text) := by
  unfold printStr put
  split
  · rw [wideText_zero clean]
    rfl
  · rfl

/-- The character of a digit, up to base 16. -/
def digitChar (d : Nat) : CHAR16 := BitVec.ofNat 16 (if d < 0x0A then 0x30 + d else 0x37 + d)

/-- The digit of a character. -/
def charDigit (char : CHAR16) : Nat := if char.toNat < 0x41 then char.toNat - 0x30 else char.toNat - 0x37

theorem charDigit_reads : Reads charDigit digitChar 16 := by
  intro d below
  interval_cases d <;> rfl

theorem charDigit_decimal : Reads charDigit digitChar 10 := fun d below => charDigit_reads d (by omega)

theorem hexChar_eq (d : UINTN) : hexChar d = digitChar d.toNat := by
  apply BitVec.eq_of_toNat_eq
  have below : d < 0x0A#64 ↔ d.toNat < 10 := BitVec.lt_def
  unfold hexChar digitChar
  split
  · rename_i decimal
    rw [if_pos (below.mp decimal), BitVec.toNat_setWidth, BitVec.toNat_add, BitVec.toNat_ofNat, BitVec.toNat_ofNat]
    omega
  · rename_i letter
    have above : ¬d.toNat < 10 := fun lower => letter (below.mpr lower)
    rw [if_neg above, BitVec.toNat_setWidth, BitVec.toNat_sub, BitVec.toNat_add, BitVec.toNat_ofNat,
      BitVec.toNat_ofNat, BitVec.toNat_ofNat]
    omega

theorem decDigit_eq (val : UINTN) : decDigit val = digitChar (val.toNat % 10) := by
  have digit : (val % 0x0A#64).toNat = val.toNat % 10 := BitVec.toNat_umod
  apply BitVec.eq_of_toNat_eq
  rw [decDigit, digitChar, if_pos (Nat.mod_lt _ (by decide)), BitVec.toNat_setWidth, BitVec.toNat_add, digit,
    BitVec.toNat_ofNat, BitVec.toNat_ofNat]
  omega

theorem hexDigit_eq (val : UINTN) : hexDigit val = digitChar (val.toNat % 16) := by
  have masked : (val &&& 0x0F#64).toNat = val.toNat % 16 := by
    rw [BitVec.toNat_and]
    exact Nat.and_two_pow_sub_one_eq_mod val.toNat 4
  rw [hexDigit, hexChar_eq, masked]

/-- No digit is the zero character. -/
theorem digitChar_ne_zero {d : Nat} (small : d < 16) : digitChar d ≠ 0#16 := by
  interval_cases d <;> decide

theorem numeral_clean {base n : Nat} (large : 1 < base) (small : base ≤ 16) : 0#16 ∉ numeral digitChar base n := by
  intro member
  obtain ⟨d, below, zero⟩ := mem_numeral large member
  exact digitChar_ne_zero (by omega) zero.symm

/-- The loop takes the digits of the value in order, and has room for them below a power of the base. -/
theorem storeDigits_eq {base : Nat} {digit : UINTN → CHAR16} {next : UINTN → UINTN} (large : 1 < base)
    (last : ∀ val : UINTN, digit val = digitChar (val.toNat % base))
    (rest : ∀ val : UINTN, (next val).toNat = val.toNat / base) (room : Nat) (val : UINTN) (tmp : List CHAR16)
    (fits : val.toNat < base ^ room) :
    storeDigits digit next room val tmp = some (tmp ++ (base.digits val.toNat).map digitChar) := by
  induction room generalizing val tmp with
  | zero =>
      have zero : val = 0#64 := BitVec.eq_of_toNat_eq (by simpa using fits)
      rw [zero]
      simp [storeDigits]
  | succ room ih =>
      unfold storeDigits
      split
      · rename_i positive
        have pos : 0 < val.toNat := BitVec.lt_def.mp positive
        have smaller : (next val).toNat < base ^ room := by
          rw [rest]
          exact Nat.div_lt_of_lt_mul (by rwa [pow_succ, Nat.mul_comm] at fits)
        have onward := ih (next val) (tmp ++ [digit val]) smaller
        rw [rest, List.append_assoc] at onward
        rw [Nat.digits_def' large pos, List.map_cons, ← last]
        exact onward
      · rename_i zero
        have isZero : val = 0#64 := BitVec.eq_of_toNat_eq (by have := BitVec.lt_def.not.mp zero; simpa using this)
        rw [isZero]
        simp

theorem reversedDigits_eq (tmp : List CHAR16) : reversedDigits tmp = tmp.reverse := by
  refine List.ext_getElem (by simp [reversedDigits]) fun j inside _ => ?_
  have below : tmp.length - 1 - j < tmp.length := by
    have counted : j < tmp.length := by simpa [reversedDigits] using inside
    omega
  simp [reversedDigits, List.getElem_reverse, below]

/-- The reversed digits are the numeral of the value, and they fit a buffer with room for the zero. -/
theorem stored_numeral {base room : Nat} {digit : UINTN → CHAR16} {next : UINTN → UINTN} (large : 1 < base)
    (last : ∀ val : UINTN, digit val = digitChar (val.toNat % base))
    (rest : ∀ val : UINTN, (next val).toNat = val.toNat / base) {val : UINTN} (positive : val ≠ 0#64)
    (fits : val.toNat < base ^ room) :
    ∃ tmp, storeDigits digit next room val [] = some tmp ∧ reversedDigits tmp = numeral digitChar base val.toNat := by
  refine ⟨_, storeDigits_eq large last rest room val [] fits, ?_⟩
  have nonzero : val.toNat ≠ 0 := fun zero => positive (BitVec.eq_of_toNat_eq zero)
  rw [reversedDigits_eq, numeral, if_neg nonzero, List.nil_append, List.map_reverse]

/-- A decimal numeral of any value fits the buffer. -/
theorem decimal_length (val : UINTN) : (numeral digitChar 10 val.toNat).length ≤ 20 :=
  numeral_length_le (by decide) (by decide) (by have := val.isLt; omega)

theorem hexadecimal_length (val : UINTN) : (numeral digitChar 16 val.toNat).length ≤ 16 :=
  numeral_length_le (by decide) (by decide) (by have := val.isLt; omega)

/-- The text of `print_dec`. -/
def decimal (val : UINTN) : List CHAR16 := numeral digitChar 10 val.toNat

/-- The text of `print_hex`. -/
def hexadecimal (val : UINTN) : List CHAR16 := [0x30#16, 0x78#16] ++ numeral digitChar 16 val.toNat

theorem printDec_eq (val : UINTN) (console : Console) : console.printDec val = some (console.put (decimal val)) := by
  unfold printDec
  split
  · rename_i zero
    rw [zero]
    exact printStr_text (by decide) console
  · rename_i positive
    obtain ⟨tmp, stored, reversed⟩ := @stored_numeral 10 0x16 decDigit (· / 0x0A#64) (by decide) decDigit_eq
      (fun val => BitVec.toNat_udiv) val positive (by have := val.isLt; omega)
    have room := decimal_length val
    simp only [stored, Option.bind_eq_bind, Option.bind_some, reversed]
    rw [printBuf, if_pos (by rw [List.length_append, List.length_singleton]; omega)]
    exact printStr_text (numeral_clean (by decide) (by decide)) console

theorem printHex_eq (val : UINTN) (console : Console) :
    console.printHex val = some (console.put (hexadecimal val)) := by
  unfold printHex
  split
  · rename_i zero
    rw [zero]
    exact printStr_text (by decide) console
  · rename_i positive
    have shifted (val : UINTN) : (val >>> 0x04).toNat = val.toNat / 16 := by
      rw [BitVec.toNat_ushiftRight, Nat.shiftRight_eq_div_pow]
    obtain ⟨tmp, stored, reversed⟩ := @stored_numeral 16 0x14 hexDigit (· >>> 0x04) (by decide) hexDigit_eq
      shifted val positive (by have := val.isLt; omega)
    have room := hexadecimal_length val
    simp only [stored, Option.bind_eq_bind, Option.bind_some, reversed]
    rw [printBuf, if_pos (by simp only [List.length_append, List.length_cons, List.length_nil]; omega)]
    have digits : 0#16 ∉ numeral digitChar 16 val.toNat := numeral_clean (by decide) (by decide)
    have clean : 0#16 ∉ hexadecimal val := by simp [hexadecimal, digits]
    exact printStr_text clean console

/-- A text that shows a number: no longer than a buffer, in digits of the base, read back as the number and with
no leading zero. -/
structure Shows (base width n : Nat) (text : List CHAR16) : Prop where
  length : text.length ≤ width
  digits : ∀ char ∈ text, ∃ d < base, char = digitChar d
  value : value charDigit base text = n
  leads : n ≠ 0 → text.head? ≠ some 0x30#16

theorem shows_numeral {base width n : Nat} (large : 1 < base) (small : base ≤ 16) (pos : 0 < width)
    (below : n < base ^ width) : Shows base width n (numeral digitChar base n) := by
  have reads : Reads charDigit digitChar base := fun d inside => charDigit_reads d (by omega)
  exact ⟨numeral_length_le large pos below, fun _ member => mem_numeral large member, value_numeral reads large n,
    fun positive => numeral_head reads large positive⟩

/-- Whatever the value is, `print_dec` and `print_hex` stay inside their buffers and show it on the console. -/
theorem print_numbers (val : UINTN) (console : Console) :
    (∃ text, console.printDec val = some (console.put text) ∧ Shows 10 20 val.toNat text) ∧
      ∃ text, console.printHex val = some (console.put ([0x30#16, 0x78#16] ++ text)) ∧ Shows 16 16 val.toNat text := by
  have small := val.isLt
  exact ⟨⟨_, printDec_eq val console, shows_numeral (by decide) (by decide) (by decide) (by omega)⟩,
    ⟨_, printHex_eq val console, shows_numeral (by decide) (by decide) (by decide) (by omega)⟩⟩

end Console
end UefiNetstack
