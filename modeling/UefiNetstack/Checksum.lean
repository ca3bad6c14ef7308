import UefiNetstack.Lib.InternetChecksum
import UefiNetstack.NetMath

namespace UefiNetstack
open Words OnesComplement

namespace NetMath

variable {data : Bytes}

/-- No message of a 16 bit length fills the accumulator, and not one with a pseudo header in front of it. -/
theorem wordSum_fits (short : data.length ≤ 65547) : wordSum data < 2 ^ 32 := by
  have bound := wordSum_le data
  omega

/-- `checksum` computes the Internet checksum: its accumulator holds the sum of what it has read, its folding
loop ends without a carry, the stored bytes are those of the checksum, and a message verifies once the bytes
replace the zeros that it was computed with. -/
structure ChecksumCorrect (data : Bytes) : Prop where
  accumulator : ∀ done, done <+: data → (addWords done 0#32).toNat = wordSum done
  ends : ¬foldCarries carryRounds (addWords data 0#32) >>> 16 > 0#32
  value : le16 (checksum data) = internetChecksum data
  verifies : ∀ before after, data = before ++ [0#8, 0#8] ++ after → before.length % 2 = 0 →
    checksum (before ++ le16 (checksum data) ++ after) = 0#16

theorem foldCarries_ends (sum : UINT32) : ¬foldCarries carryRounds sum >>> 16 > 0#32 := by
  have small := folded_le sum.toNat
  rw [carry_iff, foldCarries_toNat]
  omega

/-- The checksum of a message is zero once it stands in place of its zero bytes. -/
theorem checksum_inserted {before after : Bytes} (even : before.length % 2 = 0)
    (short : (before ++ [0#8, 0#8] ++ after).length ≤ 65547) :
    checksum (before ++ le16 (checksum (before ++ [0#8, 0#8] ++ after)) ++ after) = 0#16 := by
  have sum (check : UINT16) : wordSum (before ++ le16 check ++ after) =
      wordSum before + wordSum after + check.toNat := by
    rw [List.append_assoc, wordSum_append _ _ even, wordSum_le16_append]
    omega
  have zeros : le16 0#16 = [0#8, 0#8] := rfl
  have first := wordSum_le before
  have second := wordSum_le after
  simp only [List.length_append, List.length_cons, List.length_nil] at short
  rw [← zeros]
  exact checksum_stored (fun check => before ++ le16 check ++ after) (wordSum before + wordSum after) sum (by omega)

/-- Every message of at most 65535 bytes, of even or odd length, gets its Internet checksum. -/
theorem checksum_correct (data : Bytes) (short : data.length ≤ 65535) : ChecksumCorrect data where
  accumulator := by
    intro done isPrefix
    have fits : wordSum done < 2 ^ 32 := wordSum_fits (by have length := isPrefix.length_le; omega)
    rw [addWords_toNat done 0#32 (by simpa using fits), BitVec.toNat_ofNat, Nat.zero_mod, Nat.zero_add]
  ends := foldCarries_ends _
  value := le16_checksum (checksum_toNat (wordSum_fits (by omega)))
  verifies := by
    rintro before after rfl even
    exact checksum_inserted even (by omega)

/-- A message of odd length with a place for its checksum. -/
theorem checksum_correct_odd : ChecksumCorrect [0x08, 0x00, 0x00, 0x00, 0xAB] := checksum_correct _ (by decide)

/-- The pseudo header as it goes over the wire. -/
def pseudoHeaderBytes (saddr daddr : UINT32) (proto : UINT8) (len : UINT16) : Bytes :=
  le32 saddr ++ le32 daddr ++ [0#8, proto, (len >>> 8).setWidth 8, len.setWidth 8]

@[simp] theorem pseudoHeaderBytes_length (saddr daddr : UINT32) (proto : UINT8) (len : UINT16) :
    (pseudoHeaderBytes saddr daddr proto len).length = 12 := by
  simp [pseudoHeaderBytes]

theorem pseudoHdr_bytes (saddr daddr : UINT32) (proto : UINT8) (len : UINT16) :
    PseudoHdr.bytes { saddr, daddr, zero := 0, protocol := proto, tcpLength := htons len } =
      pseudoHeaderBytes saddr daddr proto len := by
  have length : le16 (htons len) = [(len >>> 8).setWidth 8, len.setWidth 8] := le16_swap16 len
  rw [PseudoHdr.bytes, length, pseudoHeaderBytes]
  simp

/-- A header of even length may be summed in front of the data. -/
theorem checksum_append {header : Bytes} (even : header.length % 2 = 0) (data : Bytes) :
    checksum (header ++ data) = (~~~foldCarries carryRounds (addWords data (addWords header 0#32))).setWidth 16 := by
  rw [checksum, addWords_append _ _ _ even]

/-- The two loops of `pseudo_checksum` compute the plain checksum of the pseudo header and the segment that
it points to. -/
theorem pseudoChecksum_plain (saddr daddr : UINT32) (proto : UINT8) (data : Bytes) (len : UINT16) :
    pseudoChecksum saddr daddr proto data len =
      checksum (pseudoHeaderBytes saddr daddr proto len ++ data.take len.toNat) := by
  have even : (pseudoHeaderBytes saddr daddr proto len).length % 2 = 0 := by rw [pseudoHeaderBytes_length]
  rw [pseudoChecksum, pseudoHdr_bytes, checksum_append even]

/-- So it is the Internet checksum of both. -/
theorem pseudoChecksum_internet (saddr daddr : UINT32) (proto : UINT8) (data : Bytes) (len : UINT16) :
    le16 (pseudoChecksum saddr daddr proto data len) =
      internetChecksum (pseudoHeaderBytes saddr daddr proto len ++ data.take len.toNat) := by
  have small := len.isLt
  have even : (pseudoHeaderBytes saddr daddr proto len).length % 2 = 0 := by rw [pseudoHeaderBytes_length]
  have short : (pseudoHeaderBytes saddr daddr proto len ++ data.take len.toNat).length ≤ 65547 := by
    rw [List.length_append, pseudoHeaderBytes_length, List.length_take]
    omega
  rw [pseudoChecksum, pseudoHdr_bytes, ← checksum_append even]
  exact le16_checksum (checksum_toNat (wordSum_fits short))

end NetMath
end UefiNetstack
