import UefiNetstack.Dns.Query
import UefiNetstack.Frames.Emitted
import UefiNetstack.Core.Cases

namespace UefiNetstack
open Constants NetMath Words Memory

/-- A name is a chain of labels of one to 63 octets behind their length octets, up to the octet of the root. Each
label takes an octet, so the rounds do not run out before the octets do. -/
def decodeLabels : Nat → Bytes → Option (List Bytes × Bytes)
  | 0, _ => none
  | _ + 1, [] => none
  | rounds + 1, length :: rest =>
    if length = 0#8 then some ([], rest)
    else if length.toNat < 64 ∧ length.toNat ≤ rest.length then
      (decodeLabels rounds (rest.drop length.toNat)).map fun (labels, behind) =>
        (rest.take length.toNat :: labels, behind)
    else none

/-- A question and what follows it. -/
structure QuestionSection where
  labels : List Bytes
  type : UINT16
  class_ : UINT16
  rest : Bytes
deriving DecidableEq

/-- A name of at most 255 octets, a type and a class, in network byte order. -/
def decodeQuestion (bytes : Bytes) : Option QuestionSection := do
  let (labels, behind) ← decodeLabels bytes.length bytes
  if bytes.length - behind.length ≤ 255 then
    match behind with
    | type₁ :: type₀ :: class₁ :: class₀ :: rest =>
      some { labels, type := type₁ ++ type₀, class_ := class₁ ++ class₀, rest }
    | _ => none
  else none

/-- The parts of a name that can be labels. -/
def IsLabel (text : Bytes) : Prop := 0 < text.length ∧ text.length ≤ 63

instance (text : Bytes) : Decidable (IsLabel text) := inferInstanceAs (Decidable (_ ∧ _))

/-- The length octets alone are as many as the parts. -/
theorem parts_length_le (parts : List Bytes) : parts.length ≤ (parts.flatMap partBytes).length := by
  induction parts with
  | nil => exact Nat.le_refl 0
  | cons part parts ih =>
      rw [List.flatMap_cons, List.length_append, partBytes, List.length_cons, List.length_cons]
      omega

/-- The parts of a hostname take one octet more than its characters. -/
theorem splitOn_parts_length (chars : Bytes) : ((chars.splitOn 0x2E#8).flatMap partBytes).length = chars.length + 1 := by
  obtain ⟨part, parts, split⟩ := List.exists_cons_of_ne_nil (List.splitOn_ne_nil 0x2E#8 chars)
  have written := congrArg List.length (NetStack.QnameWriter.finish_parts chars [] [])
  rw [NetStack.QnameWriter.finish, List.length_append, List.length_set, NetStack.QnameWriter.foldl_length, split] at written
  rw [split]
  simp [NetStack.QnameWriter.writing] at written ⊢
  omega

/-- The reader takes back what the encoder wrote for labels. -/
theorem decodeLabels_parts {parts : List Bytes} (labels : ∀ part ∈ parts, IsLabel part) (rest : Bytes) {rounds : Nat}
    (enough : parts.length < rounds) :
    decodeLabels rounds (parts.flatMap partBytes ++ 0#8 :: rest) = some (parts, rest) := by
  induction parts generalizing rounds with
  | nil =>
      obtain ⟨rounds, rfl⟩ := Nat.exists_eq_succ_of_ne_zero (Nat.ne_of_gt enough)
      rfl
  | cons part parts ih =>
      obtain ⟨rounds, rfl⟩ := Nat.exists_eq_succ_of_ne_zero (Nat.ne_of_gt (Nat.zero_lt_of_lt enough))
      obtain ⟨nonempty, short⟩ := labels part List.mem_cons_self
      have value : (BitVec.ofNat 8 part.length).toNat = part.length := by
        rw [BitVec.toNat_ofNat]
        exact Nat.mod_eq_of_lt (by omega)
      have nonzero : BitVec.ofNat 8 part.length ≠ 0#8 := by
        intro zero
        rw [zero] at value
        exact Nat.ne_of_gt nonempty value.symm
      have tail := ih (fun other member => labels other (List.mem_cons_of_mem _ member)) (Nat.lt_of_succ_lt_succ enough)
      rw [List.flatMap_cons, partBytes, List.cons_append, List.cons_append, decodeLabels, if_neg nonzero, value,
        if_pos ⟨by omega, by simp⟩, List.append_assoc, List.drop_left, List.take_left, tail]
      rfl

/-- What the reader takes for labels are labels, with their lengths and the root in front of the rest. -/
theorem decodeLabels_sound {rounds : Nat} {bytes rest : Bytes} {labels : List Bytes}
    (read : decodeLabels rounds bytes = some (labels, rest)) :
    (∀ label ∈ labels, IsLabel label) ∧ bytes.length = (labels.flatMap partBytes).length + 1 + rest.length := by
  induction rounds generalizing bytes labels with
  | zero => cases read
  | succ rounds ih =>
      cases bytes with
      | nil => cases read
      | cons length tail =>
          rw [decodeLabels] at read
          split at read
          · obtain ⟨rfl, rfl⟩ := Prod.mk.inj (Option.some.inj read)
            exact ⟨by simp, by simp [Nat.add_comm]⟩
          · rename_i nonzero
            split at read
            · rename_i fits
              obtain ⟨⟨later, behind⟩, decoded, equal⟩ := Option.map_eq_some_iff.mp read
              obtain ⟨rfl, rfl⟩ := Prod.mk.inj equal
              obtain ⟨valid, total⟩ := ih decoded
              have taken : (tail.take length.toNat).length = length.toNat := by
                rw [List.length_take]
                exact Nat.min_eq_left fits.2
              have positive : 0 < length.toNat := by
                rw [Nat.pos_iff_ne_zero]
                exact fun zero => nonzero (BitVec.eq_of_toNat_eq zero)
              refine ⟨?_, ?_⟩
              · intro label member
                rcases List.mem_cons.mp member with rfl | member
                · exact ⟨by omega, by omega⟩
                · exact valid label member
              · rw [List.length_drop] at total
                rw [List.flatMap_cons, List.length_append, partBytes, List.length_cons, taken, List.length_cons]
                omega
            · cases read

theorem decodeQuestion_parts {parts : List Bytes} (labels : ∀ part ∈ parts, IsLabel part) (type₁ type₀ class₁ class₀ : UINT8)
    (rest : Bytes) (short : (parts.flatMap partBytes).length ≤ 254) :
    decodeQuestion (parts.flatMap partBytes ++ 0#8 :: type₁ :: type₀ :: class₁ :: class₀ :: rest) =
      some { labels := parts, type := type₁ ++ type₀, class_ := class₁ ++ class₀, rest } := by
  have rounds := parts_length_le parts
  have enough : parts.length < (parts.flatMap partBytes ++ 0#8 :: type₁ :: type₀ :: class₁ :: class₀ :: rest).length := by
    rw [List.length_append, List.length_cons]
    omega
  rw [decodeQuestion, decodeLabels_parts labels (type₁ :: type₀ :: class₁ :: class₀ :: rest) enough]
  refine if_pos ?_
  simp only [List.length_append, List.length_cons]
  omega

/-- A question that is read has labels, a short name and its two fields. -/
theorem decodeQuestion_sound {bytes : Bytes} {question : QuestionSection} (read : decodeQuestion bytes = some question) :
    (∀ label ∈ question.labels, IsLabel label) ∧ (question.labels.flatMap partBytes).length ≤ 254 ∧
      bytes.length = (question.labels.flatMap partBytes).length + 5 + question.rest.length := by
  obtain ⟨⟨labels, behind⟩, decoded, fields⟩ := Option.bind_eq_some_iff.mp read
  obtain ⟨valid, total⟩ := decodeLabels_sound decoded
  dsimp only at fields
  split at fields
  · rename_i short
    split at fields
    · obtain rfl := Option.some.inj fields
      simp only [List.length_cons] at total short
      refine ⟨valid, ?_, ?_⟩
      all_goals
        dsimp only
        omega
    · cases fields
  · cases fields

namespace CString

/-- A hostname without the dot that marks a full name. -/
def bare (hostname : CString) : Bytes :=
  if hostname.chars.getLast? = some 0x2E#8 then hostname.chars.dropLast else hostname.chars

/-- The parts between the dots. -/
def parts (hostname : CString) : List Bytes := hostname.bare.splitOn 0x2E#8

/-- A hostname whose parts are labels and that is no longer than a name may be. -/
structure Encodable (hostname : CString) : Prop where
  labels : ∀ part ∈ hostname.parts, IsLabel part
  short : hostname.bare.length ≤ 253

/-- The question that a hostname asks. -/
def question (hostname : CString) : QuestionSection where
  labels := hostname.parts
  type := dnsTypeA
  class_ := dnsClassIn
  rest := []

end CString

namespace NetStack

variable {s s' : NetStack} {hostname : CString}

/-- The encoder's bytes are the question of a hostname if and only if the hostname has no empty and no long part,
also behind its last dot, and at most 253 characters. -/
theorem dnsQuestion_decodes : decodeQuestion (dnsQuestion hostname) = some hostname.question ↔
    (∀ part ∈ hostname.chars.splitOn 0x2E#8, IsLabel part) ∧ hostname.chars.length ≤ 253 := by
  constructor
  · intro read
    obtain ⟨labels, short, total⟩ := decodeQuestion_sound read
    change (∀ label ∈ hostname.bare.splitOn 0x2E#8, IsLabel label) at labels
    change ((hostname.bare.splitOn 0x2E#8).flatMap partBytes).length ≤ 254 at short
    change _ = ((hostname.bare.splitOn 0x2E#8).flatMap partBytes).length + 5 + 0 at total
    rw [splitOn_parts_length] at short total
    rw [dnsQuestion_length] at total
    have whole : hostname.bare = hostname.chars := by
      refine if_neg fun trailing => ?_
      -- The octet of the empty part behind the dot would be left over.
      have nonempty : 0 < hostname.chars.length := by
        refine List.length_pos_of_ne_nil fun empty => ?_
        rw [empty] at trailing
        cases trailing
      rw [CString.bare, if_pos trailing, List.length_dropLast] at total
      omega
    rw [whole] at labels short
    exact ⟨labels, by omega⟩
  · rintro ⟨labels, short⟩
    have whole : hostname.bare = hostname.chars := by
      refine if_neg fun trailing => ?_
      have split : hostname.chars.splitOn 0x2E#8 = hostname.chars.dropLast.splitOn 0x2E#8 ++ [[]] := by
        rw [← List.splitOn_nil (0x2E#8), ← List.splitOn_append_cons_self, List.dropLast_append_getLast? _ trailing]
      have last := labels [] (by rw [split]; simp)
      exact absurd last.1 (Nat.lt_irrefl 0)
    rw [dnsQuestion_parts, CString.question, CString.parts, whole]
    exact decodeQuestion_parts labels _ _ _ _ [] (by rw [splitOn_parts_length]; omega)

/-- The bytes behind the DNS header up to where the UDP length ends the datagram. -/
def datagramQuestion (frame : Bytes) : Bytes :=
  (frameQuestion frame).take ((ntohs (frameUdp frame).len).toNat - (sizeofUdpHdr + sizeofDnsHdr))

/-- A frame asks for the address of a hostname in its only question, with which the datagram ends. -/
structure AsksAddress (frame : Bytes) (hostname : CString) : Prop where
  qdcount : ntohs (frameDns frame).qdcount = 1#16
  question : decodeQuestion (datagramQuestion frame) = some hostname.question

/-- A query stays in its packet and sends a frame that asks for the hostname, or it sends nothing for a hostname
that cannot be encoded. -/
def QueriesName (s : NetStack) (hostname : CString) : Prop :=
  ∃ s', s.dnsQuery hostname = some s' ∧
    ((¬hostname.Encodable ∧ s'.sent = s.sent) ∨
      ∃ frame, s'.sent = s.sent ++ [frame] ∧ AsksAddress frame hostname)

/-- The datagram of a query ends with the encoder's bytes. -/
theorem dnsFrame_question (s : NetStack) (port id : UINT16) (random : UINT32) (fits : hostname.chars.length ≤ 540) :
    datagramQuestion (s.dnsFrame hostname port id random) = dnsQuestion hostname := by
  obtain ⟨-, -, question⟩ := dnsFrame_parts s hostname port id random
  have message : ((dnsHeader id).bytes ++ dnsQuestion hostname).length = sizeofDnsHdr + (dnsQuestion hostname).length := by
    rw [List.length_append, DnsHdr.bytes_length]
    rfl
  have formed := s.udpFrame_wellFormed s.dnsServer udpPortDns port ((dnsHeader id).bytes ++ dnsQuestion hostname) random
    (by rw [message, dnsQuestion_length, sizeofDnsHdr]; omega)
  have len : (ntohs (frameUdp (s.dnsFrame hostname port id random)).len).toNat = _ := formed.udpLen
  rw [datagramQuestion, question, len, message]
  exact List.take_of_length_le (by omega)

/-- A longer name would overrun the packet. -/
theorem dnsQuery_fits (done : s.dnsQuery hostname = some s') : hostname.chars.length ≤ 540 := by
  unfold dnsQuery at done
  split at done
  · rename_i fits
    simp only [sizeofEthHdr, sizeofIpHdr, sizeofUdpHdr, sizeofDnsHdr, dnsQuestion_length, dnsPktSize] at fits
    omega
  · cases done

/-- A query whose name fits the packet asks what its encoder wrote. -/
theorem queriesName_decodes : s.QueriesName hostname ↔
    hostname.chars.length ≤ 540 ∧ decodeQuestion (dnsQuestion hostname) = some hostname.question := by
  constructor
  · rintro ⟨s', done, effect⟩
    have fits := dnsQuery_fits done
    obtain ⟨frame, bytes, rfl⟩ := dnsQuery_cases done
    rw [sendFrame_sent, dnsPrepared_sent] at effect
    rcases effect with ⟨-, silent⟩ | ⟨other, sent, asks⟩
    · exact absurd (List.append_right_eq_self.mp silent) (List.cons_ne_nil _ _)
    · have same : frame.bytes = other := List.singleton_inj.mp (List.append_cancel_left sent)
      refine ⟨fits, ?_⟩
      rw [← dnsFrame_question s.dnsPrepared _ _ _ fits, ← bytes, same]
      exact asks.question
  · rintro ⟨fits, read⟩
    obtain ⟨frame, done, bytes⟩ := s.dnsQuery_eq hostname fits
    obtain ⟨-, header, -⟩ := dnsFrame_parts s.dnsPrepared hostname s.dnsPrepared.dns.localPort
      s.dnsPrepared.dns.currentId s.getU32.1
    refine ⟨_, done, Or.inr ⟨frame.bytes, sendFrame_sent frame s.dnsPrepared, ?_, ?_⟩⟩
    · rw [bytes, header]
      exact swap16_swap16 1#16
    · rw [bytes, dnsFrame_question s.dnsPrepared _ _ _ fits]
      exact read

/-- A query is right for a hostname if and only if every part between its dots is a label, also behind the last
dot, and the hostname has at most 253 characters. -/
theorem dnsQuery_encodes_iff (s : NetStack) (hostname : CString) : s.QueriesName hostname ↔
    (∀ part ∈ hostname.chars.splitOn 0x2E#8, 0 < part.length ∧ part.length ≤ 63) ∧ hostname.chars.length ≤ 253 := by
  rw [queriesName_decodes, dnsQuestion_decodes]
  constructor
  · exact And.right
  · intro valid
    exact ⟨Nat.le_trans valid.2 (by decide), valid⟩

end NetStack

namespace Scenario

/-- A hostname with the dot that marks a full name. -/
def fullName : CString := { chars := [0x61, 0x2E], noNul := by decide }

end Scenario

namespace NetStack

open Scenario in
/-- The query for a full name does not ask for it, although the name can be encoded. -/
theorem full_name_misencoded : fullName.Encodable ∧ ¬fresh.QueriesName fullName := by
  refine ⟨⟨by decide, by decide⟩, fun queries => ?_⟩
  exact absurd (queriesName_decodes.mp queries).2 (by decide)

end NetStack
end UefiNetstack
