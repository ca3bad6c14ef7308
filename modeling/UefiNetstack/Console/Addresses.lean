import UefiNetstack.Console.Numbers
import UefiNetstack.Utils

namespace UefiNetstack
open Constants Numerals Words Utils

namespace Console

variable {console : Console}

/-- No digit is a separator. -/
theorem numeral_separated {base n : Nat} {separator : CHAR16} (large : 1 < base) (small : base ≤ 16)
    (apart : separator = 0x2E#16 ∨ separator = 0x3A#16) : separator ∉ numeral digitChar base n := by
  intro member
  obtain ⟨d, below, same⟩ := mem_numeral large member
  have inside : d < 16 := by omega
  rcases apart with rfl | rfl
  · interval_cases d <;> exact absurd same (by decide)
  · interval_cases d <;> exact absurd same (by decide)

/-- The text of `print_ip`. -/
def dotted (ip : UINT32) : List CHAR16 :=
  [0x2E#16].intercalate ((le32 ip).map fun octet => numeral digitChar 10 octet.toNat)

theorem octet_decimal (ip : UINT32) (places : Nat) :
    decimal (((ip >>> places) &&& 0xFF#32).setWidth 64) = numeral digitChar 10 ((ip >>> places).setWidth 8).toNat := by
  have masked : ((ip >>> places) &&& 0xFF#32).toNat = (ip >>> places).toNat % 256 := by
    rw [BitVec.toNat_and]
    exact Nat.and_two_pow_sub_one_eq_mod (ip >>> places).toNat 8
  have octet : (((ip >>> places) &&& 0xFF#32).setWidth 64).toNat = ((ip >>> places).setWidth 8).toNat := by
    rw [BitVec.toNat_setWidth, BitVec.toNat_setWidth, masked]
    omega
  rw [decimal, octet]

theorem printIp_eq (ip : UINT32) (console : Console) : console.printIp ip = some (console.put (dotted ip)) := by
  have first := octet_decimal ip 0
  rw [BitVec.ushiftRight_zero] at first
  have dot (console : Console) : console.printStr (wide ".") = some (console.put [0x2E#16]) :=
    printStr_text (by decide) console
  simp only [printIp, printDec_eq, dot, Option.bind_eq_bind, Option.bind_some, put_put, first, octet_decimal]
  simp [dotted, le32, List.intercalate]

theorem dotted_fields (ip : UINT32) : fieldValues charDigit 10 0x2E#16 (dotted ip) = (le32 ip).map BitVec.toNat := by
  have clean : ∀ field ∈ (le32 ip).map fun octet => numeral digitChar 10 octet.toNat, 0x2E#16 ∉ field := by
    intro field member
    obtain ⟨octet, -, rfl⟩ := List.mem_map.mp member
    exact numeral_separated (by decide) (by decide) (Or.inl rfl)
  rw [dotted, fieldValues_intercalate (by simp [le32]) clean, List.map_map]
  exact List.map_congr_left fun octet _ => value_numeral charDigit_decimal (by decide) octet.toNat

/-- The two digits of a byte. -/
def byteDigits (byte : UINT8) : List CHAR16 := [digitChar (byte.toNat / 16), digitChar (byte.toNat % 16)]

/-- The text of `print_mac`. -/
def colons (mac : Mac) : List CHAR16 := [0x3A#16].intercalate (mac.toList.map byteDigits)

theorem low_nibble (byte : UINT8) : (byte &&& 0x0F#8).toNat = byte.toNat % 16 := by
  rw [BitVec.toNat_and]
  exact Nat.and_two_pow_sub_one_eq_mod byte.toNat 4

theorem printMacByte_eq (byte : UINT8) (console : Console) :
    console.printMacByte byte = some (console.put (byteDigits byte)) := by
  have small := byte.isLt
  have shifted : (byte >>> 0x04).toNat = byte.toNat / 16 := by
    rw [BitVec.toNat_ushiftRight, Nat.shiftRight_eq_div_pow]
  have high : (((byte >>> 0x04) &&& 0x0F#8).setWidth 64).toNat = byte.toNat / 16 := by
    rw [BitVec.toNat_setWidth, low_nibble, shifted]
    omega
  have low : ((byte &&& 0x0F#8).setWidth 64).toNat = byte.toNat % 16 := by
    rw [BitVec.toNat_setWidth, low_nibble]
    omega
  have clean : 0#16 ∉ byteDigits byte := by
    have first := digitChar_ne_zero (show byte.toNat / 16 < 16 by omega)
    have second := digitChar_ne_zero (show byte.toNat % 16 < 16 by omega)
    simp [byteDigits, first.symm, second.symm]
  have printed := printStr_text clean console
  rw [byteDigits, ← high, ← low, ← hexChar_eq, ← hexChar_eq] at printed
  rw [byteDigits, ← high, ← low, ← hexChar_eq, ← hexChar_eq]
  exact printed

theorem printMac_eq (mac : Mac) (console : Console) : console.printMac mac = some (console.put (colons mac)) := by
  have rounds : List.finRange 6 = [0, 1, 2, 3, 4, 5] := by decide
  have bytes : mac.toList = (List.finRange 6).map mac.get := by
    refine List.ext_getElem (by simp) fun index inside _ => ?_
    simp [Vector.get]
  have colon (console : Console) : console.printStr (wide ":") = some (console.put [0x3A#16]) :=
    printStr_text (by decide) console
  rw [printMac, colons, bytes, rounds]
  simp [printMacByte_eq, colon, put_put, List.intercalate]

theorem byteDigits_value (byte : UINT8) : value charDigit 16 (byteDigits byte) = byte.toNat := by
  have small := byte.isLt
  have digits := @value_glyphs _ 16 digitChar charDigit charDigit_reads [byte.toNat % 16, byte.toNat / 16]
    (by simp; omega)
  have joined : Nat.ofDigits 16 [byte.toNat % 16, byte.toNat / 16] = byte.toNat := by
    simp only [Nat.ofDigits_cons, Nat.ofDigits_nil]
    omega
  exact digits.trans joined

theorem byteDigits_separated (byte : UINT8) : 0x3A#16 ∉ byteDigits byte := by
  have apart {d : Nat} (inside : d < 16) : 0x3A#16 ≠ digitChar d := by interval_cases d <;> decide
  have small := byte.isLt
  have first := apart (show byte.toNat / 16 < 16 by omega)
  have second := apart (show byte.toNat % 16 < 16 by omega)
  simp [byteDigits, first, second]

theorem colons_fields (mac : Mac) : fieldValues charDigit 16 0x3A#16 (colons mac) = mac.toList.map BitVec.toNat := by
  have clean : ∀ field ∈ mac.toList.map byteDigits, 0x3A#16 ∉ field := by
    intro field member
    obtain ⟨byte, -, rfl⟩ := List.mem_map.mp member
    exact byteDigits_separated byte
  have nonempty : mac.toList.map byteDigits ≠ [] := by
    intro empty
    have length := congrArg List.length empty
    simp at length
  rw [colons, fieldValues_intercalate nonempty clean, List.map_map]
  exact List.map_congr_left fun byte _ => byteDigits_value byte

/-- The console shows every IPv4 address as its four octets in dotted decimal, first octet first, and every MAC as
its six bytes in hexadecimal between colons, so that either can be read back from the text. -/
theorem print_addresses (ip : UINT32) (mac : Mac) (console : Console) :
    (∃ text, console.printIp ip = some (console.put text) ∧
        fieldValues charDigit 10 0x2E#16 text = (le32 ip).map BitVec.toNat) ∧
      ∃ text, console.printMac mac = some (console.put text) ∧
        fieldValues charDigit 16 0x3A#16 text = mac.toList.map BitVec.toNat :=
  ⟨⟨_, printIp_eq ip console, dotted_fields ip⟩, ⟨_, printMac_eq mac console, colons_fields mac⟩⟩

/-- The text of an address that `make_ipv4` builds. -/
example : dotted (makeIpv4 192 168 1 200) = "192.168.1.200".toList.map fun char => BitVec.ofNat 16 char.toNat := by
  decide

end Console
end UefiNetstack
