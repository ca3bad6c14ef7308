import UefiNetstack.RoundTrip
import UefiNetstack.NetMath

namespace UefiNetstack
open Constants NetMath Words Memory

/-- A label has between one and 63 characters. -/
structure Label where
  text : Bytes
  nonempty : 0 < text.length
  short : text.length < 64

def Label.bytes (label : Label) : Bytes := BitVec.ofNat 8 label.text.length :: label.text

/-- A name ends in the root byte or in the offset of an earlier name, marked by two set bits. -/
inductive NameEnd where
  | root
  | pointer (high : BitVec 6) (low : UINT8)

def NameEnd.bytes : NameEnd → Bytes
  | .root => [0#8]
  | .pointer high low => [0b11#2 ++ high, low]

structure DnsName where
  labels : List Label
  tail : NameEnd

namespace DnsName

def bytes (name : DnsName) : Bytes := name.labels.flatMap Label.bytes ++ name.tail.bytes

/-- The name has no pointer. -/
def Plain (name : DnsName) : Prop := name.tail = .root

/-- The name is a pointer and nothing else. -/
def Bare (name : DnsName) : Prop := name.labels = [] ∧ name.tail ≠ .root

end DnsName

structure DnsQuestion where
  name : DnsName
  type : UINT16
  class_ : UINT16

def DnsQuestion.bytes (question : DnsQuestion) : Bytes :=
  question.name.bytes ++ (le16 (htons question.type) ++ le16 (htons question.class_))

theorem DnsQuestion.bytes_length (question : DnsQuestion) :
    question.bytes.length = question.name.bytes.length + 4 := by
  rw [bytes, List.length_append]
  rfl

/-- A record of any type with data of any length that its length field can hold. -/
structure DnsRecord where
  name : DnsName
  type : UINT16
  class_ : UINT16
  ttl : UINT32
  data : Bytes
  fits : data.length < 65536

namespace DnsRecord

variable (record : DnsRecord)

def bytes : Bytes :=
  record.name.bytes ++ (le16 (htons record.type) ++ le16 (htons record.class_) ++ le32 (htonl record.ttl) ++
    le16 (htons (BitVec.ofNat 16 record.data.length)) ++ record.data)

/-- The address of a record of type A with four bytes of data. -/
def address : Option UINT32 :=
  match record.data with
  | [a, b, c, d] => if record.type = dnsTypeA then some (ofLe32 a b c d) else none
  | _ => none

theorem address_some {a b c d : UINT8} (address : record.type = dnsTypeA) (data : record.data = [a, b, c, d]) :
    record.address = some (ofLe32 a b c d) := by
  simp only [DnsRecord.address, data]
  exact if_pos address

theorem address_none (other : ¬(record.type = dnsTypeA ∧ record.data.length = 4)) : record.address = none := by
  unfold address
  split
  · rename_i four
    exact if_neg fun address => other ⟨address, by rw [four]; rfl⟩
  · rfl

/-- The first address of a list of records. -/
def firstAddress (records : List DnsRecord) : Option UINT32 := records.findSome? address

end DnsRecord

/-- A message with what follows its answers. -/
structure DnsMessage where
  id : UINT16
  flags : UINT16
  questions : List DnsQuestion
  answers : List DnsRecord
  nscount : UINT16
  arcount : UINT16
  rest : Bytes
  questionsFit : questions.length < 65536
  answersFit : answers.length < 65536

namespace DnsMessage

variable (message : DnsMessage)

def header : DnsHdr where
  id := htons message.id
  flags := htons message.flags
  qdcount := htons (BitVec.ofNat 16 message.questions.length)
  ancount := htons (BitVec.ofNat 16 message.answers.length)
  nscount := htons message.nscount
  arcount := htons message.arcount

def bytes : Bytes :=
  message.header.bytes ++ message.questions.flatMap DnsQuestion.bytes ++
    message.answers.flatMap DnsRecord.bytes ++ message.rest

end DnsMessage

/-- The code skips the name of an answer that has no pointer or nothing else. -/
def DnsRecord.Skipped (record : DnsRecord) : Prop := record.name.Plain ∨ record.name.Bare

/-- The records up to the first address have names that the code skips. -/
def DnsRecord.AllSkipped : List DnsRecord → Prop
  | [] => True
  | record :: records => record.Skipped ∧ (record.address ≠ none ∨ AllSkipped records)

/-- The questions have no pointer, and the answers are skipped up to the first address. -/
structure DnsMessage.Skipped (message : DnsMessage) : Prop where
  questions : ∀ question ∈ message.questions, question.name.Plain
  answers : DnsRecord.AllSkipped message.answers

end UefiNetstack
