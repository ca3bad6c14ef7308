import UefiNetstack.Dns.Lost
import UefiNetstack.Reception.Frame

namespace UefiNetstack
open Constants NetMath Words Memory

/-- A name of a message ends behind the root byte or behind a pointer. -/
inductive NameEnds (m : Memory) : Nat → Nat → Prop
  | root {p : Nat} (zero : m p = 0#8) : NameEnds m p (p + 1)
  | pointer {p : Nat} (marked : m p &&& dnsPtrMask = dnsPtrMask) : NameEnds m p (p + 2)
  | label {p q : Nat} (nonempty : m p ≠ 0#8) (unmarked : m p &&& dnsPtrMask ≠ dnsPtrMask)
      (rest : NameEnds m (p + ((m p).toNat + 1)) q) : NameEnds m p q

/-- The word in network order at an offset. -/
def wordAt (m : Memory) (p : Nat) : UINT16 := ntohs (m.load16 p)

/-- A question has a type and a class behind its name. -/
def QuestionsEnd (m : Memory) : Nat → Nat → Nat → Prop
  | 0, p, q => q = p
  | count + 1, p, q => ∃ name, NameEnds m p name ∧ QuestionsEnd m count (name + 4) q

/-- A record has ten bytes behind its name, of which the last two are the length of its data. -/
def RecordsEnd (m : Memory) : Nat → Nat → Nat → Prop
  | 0, p, q => q = p
  | count + 1, p, q =>
      ∃ name, NameEnds m p name ∧ RecordsEnd m count (name + 10 + (wordAt m (name + 8)).toNat) q

/-- The number of questions in a header. -/
def questionsAt (m : Memory) (dnsAt : Nat) : Nat := (ntohs (DnsHdr.read m dnsAt).qdcount).toNat

/-- The number of answers in a header. -/
def answersAt (m : Memory) (dnsAt : Nat) : Nat := (ntohs (DnsHdr.read m dnsAt).ancount).toNat

/-- The questions and the answers of a message end before an offset. -/
def SectionsFit (m : Memory) (dnsAt stop : Nat) : Prop :=
  ∃ p q, QuestionsEnd m (questionsAt m dnsAt) (dnsAt + sizeofDnsHdr) p ∧
    RecordsEnd m (answersAt m dnsAt) p q ∧ q ≤ stop

section Stored

variable {m : Memory} {p q : Nat}

theorem NameEnds.labels {labels : List Label} (stored : BytesAt m p (labels.flatMap Label.bytes))
    (rest : NameEnds m (p + (labels.flatMap Label.bytes).length) q) : NameEnds m p q := by
  induction labels generalizing p with
  | nil => exact rest
  | cons label labels ih =>
      rw [List.flatMap_cons] at stored rest
      have first : m p = BitVec.ofNat 8 label.text.length := bytesAt_head (bytesAt_append_left stored)
      have value : (m p).toNat = label.text.length := by
        rw [first, BitVec.toNat_ofNat]
        exact Nat.mod_eq_of_lt (Nat.lt_trans label.short (by decide))
      apply NameEnds.label
      · intro zero
        rw [zero] at value
        exact absurd value (Nat.ne_of_lt label.nonempty)
      · rw [first]
        exact MappedMemory.label_unmarked label.short
      · rw [value]
        apply ih (bytesAt_append_right stored)
        rw [List.length_append, ← Nat.add_assoc] at rest
        exact rest

/-- The name that a message writes ends behind its bytes. -/
theorem DnsName.ends {name : DnsName} (stored : BytesAt m p name.bytes) : NameEnds m p (p + name.bytes.length) := by
  have tail := bytesAt_append_right stored
  apply NameEnds.labels (bytesAt_append_left stored)
  rw [DnsName.bytes, List.length_append, ← Nat.add_assoc]
  cases closing : name.tail with
  | root =>
      rw [closing] at tail
      exact .root (bytesAt_head tail)
  | pointer high low =>
      rw [closing] at tail
      apply NameEnds.pointer
      rw [bytesAt_head tail]
      exact MappedMemory.pointer_marked high

theorem questionsEnd_stored {questions : List DnsQuestion} (stored : BytesAt m p (questions.flatMap DnsQuestion.bytes)) :
    QuestionsEnd m questions.length p (p + (questions.flatMap DnsQuestion.bytes).length) := by
  induction questions generalizing p with
  | nil => rfl
  | cons question questions ih =>
      rw [List.flatMap_cons] at stored ⊢
      have length := question.bytes_length
      have next := ih (bytesAt_append_right stored)
      rw [length, ← Nat.add_assoc] at next
      refine ⟨_, DnsName.ends (bytesAt_append_left (bytesAt_append_left stored)), ?_⟩
      rw [List.length_append, length, ← Nat.add_assoc, ← Nat.add_assoc]
      exact next

theorem wordAt_stored {x : UINT16} (stored : BytesAt m p (le16 (htons x))) : wordAt m p = x := by
  rw [wordAt, load16_stored stored]
  exact swap16_swap16 x

theorem recordsEnd_stored {records : List DnsRecord} (stored : BytesAt m p (records.flatMap DnsRecord.bytes)) :
    RecordsEnd m records.length p (p + (records.flatMap DnsRecord.bytes).length) := by
  induction records generalizing p with
  | nil => rfl
  | cons record records ih =>
      rw [List.flatMap_cons] at stored ⊢
      have fields := bytesAt_append_right (bytesAt_append_left stored)
      simp only [bytesAt_append_iff, List.length_append, le16_length, le32_length, Nat.reduceAdd] at fields
      have data : (wordAt m (p + record.name.bytes.length + 8)).toNat = record.data.length := by
        rw [wordAt_stored fields.1.2, BitVec.toNat_ofNat]
        exact Nat.mod_eq_of_lt record.fits
      have next : p + record.name.bytes.length + 10 + record.data.length = p + record.bytes.length := by
        simp only [DnsRecord.bytes, List.length_append, le16_length, le32_length]
        omega
      refine ⟨_, DnsName.ends (bytesAt_append_left (bytesAt_append_left stored)), ?_⟩
      rw [data, next, List.length_append, ← Nat.add_assoc]
      exact ih (bytesAt_append_right stored)

theorem DnsMessage.questionsAt_stored {dnsAt : Nat} (message : DnsMessage)
    (header : BytesAt m dnsAt message.header.bytes) : questionsAt m dnsAt = message.questions.length := by
  rw [questionsAt, DnsHdr.read_stored header]
  exact header_count message.questionsFit

theorem DnsMessage.answersAt_stored {dnsAt : Nat} (message : DnsMessage)
    (header : BytesAt m dnsAt message.header.bytes) : answersAt m dnsAt = message.answers.length := by
  rw [answersAt, DnsHdr.read_stored header]
  exact header_count message.answersFit

/-- The sections of a message that is stored whole fit. -/
theorem DnsMessage.sectionsFit (message : DnsMessage) {dnsAt stop : Nat} (stored : BytesAt m dnsAt message.bytes)
    (inside : dnsAt + message.bytes.length ≤ stop) : SectionsFit m dnsAt stop := by
  simp only [DnsMessage.bytes, bytesAt_append_iff, List.length_append, DnsHdr.bytes_length] at stored inside
  obtain ⟨⟨⟨header, questions⟩, answers⟩, -⟩ := stored
  simp only [← Nat.add_assoc] at answers
  have questionsEnd := questionsEnd_stored questions
  have recordsEnd := recordsEnd_stored answers
  rw [← message.questionsAt_stored header] at questionsEnd
  rw [← message.answersAt_stored header] at recordsEnd
  exact ⟨_, _, questionsEnd, recordsEnd, by omega⟩

end Stored

/-- A chain of labels from an offset ends in the zero byte at another one. -/
inductive LabelsEnd (m : Memory) : Nat → Nat → Prop
  | root {p : Nat} (zero : m p = 0#8) : LabelsEnd m p p
  | label {p q : Nat} (nonempty : m p ≠ 0#8) (rest : LabelsEnd m (p + ((m p).toNat + 1)) q) : LabelsEnd m p q

/-- The walk takes every byte of a question for a label. -/
def QuestionsPassed (m : Memory) : Nat → Nat → Nat → Prop
  | 0, p, q => q = p
  | count + 1, p, q => ∃ root, LabelsEnd m p root ∧ QuestionsPassed m count (root + 5) q

/-- The walk sees a pointer only where the name starts. -/
inductive NamePassed (m : Memory) (p : Nat) : Nat → Prop
  | pointer (marked : m p &&& dnsPtrMask = dnsPtrMask) : NamePassed m p (p + 2)
  | labels {root : Nat} (unmarked : m p &&& dnsPtrMask ≠ dnsPtrMask) (ends : LabelsEnd m p root) :
      NamePassed m p (root + 1)

/-- The records up to the first address lie before an offset. Of a record that the walk passes, the data
need not. -/
inductive AnswersWithin (m : Memory) (stop : Nat) : Nat → Nat → Option UINT32 → Prop
  | done {p : Nat} : AnswersWithin m stop 0 p none
  | address {count p name : Nat} (passed : NamePassed m p name) (type : wordAt m name = dnsTypeA)
      (length : wordAt m (name + 8) = dnsRdlenIpv4) (inside : name + 14 ≤ stop) :
      AnswersWithin m stop (count + 1) p (some (m.load32 (name + 10)))
  | other {count p name : Nat} {answer : Option UINT32} (passed : NamePassed m p name)
      (kind : ¬(wordAt m name = dnsTypeA ∧ wordAt m (name + 8) = dnsRdlenIpv4)) (inside : name + 10 ≤ stop)
      (rest : AnswersWithin m stop count (name + 10 + (wordAt m (name + 8)).toNat) answer) :
      AnswersWithin m stop (count + 1) p answer

theorem LabelsEnd.le {m : Memory} {p q : Nat} (ends : LabelsEnd m p q) : p ≤ q := by
  induction ends with
  | root => exact Nat.le_refl _
  | label _ _ ih => omega

theorem NamePassed.lt {m : Memory} {p q : Nat} (passed : NamePassed m p q) : p < q := by
  cases passed with
  | pointer => omega
  | labels _ ends => exact Nat.lt_succ_of_le ends.le

theorem QuestionsPassed.le {m : Memory} {count p q : Nat} (passed : QuestionsPassed m count p q) : p ≤ q := by
  induction count generalizing p with
  | zero => exact Nat.le_of_eq passed.symm
  | succ count ih =>
      obtain ⟨root, ends, rest⟩ := passed
      have first := ends.le
      have others := ih rest
      omega

namespace MappedMemory

variable {memory : MappedMemory} {count p q : Nat}

theorem read_iff {byte : UINT8} : memory.read p = some byte ↔ p < memory.limit ∧ byte = memory.byte p := by
  unfold read
  split
  · rename_i inside
    rw [Option.some_inj, and_iff_right inside, eq_comm]
  · rename_i outside
    simp [outside]

theorem readWord_iff {x : UINT16} : memory.readWord p = some x ↔ p + 2 ≤ memory.limit ∧ x = wordAt memory.byte p := by
  have value : (memory.byte p).setWidth 16 <<< 8 ||| (memory.byte (p + 1)).setWidth 16 = wordAt memory.byte p := by
    rw [BitVec.or_comm]
    exact (swap16_load _ _).symm
  constructor
  · intro done
    obtain ⟨high, first, done⟩ := Option.bind_eq_some_iff.mp done
    obtain ⟨low, second, done⟩ := Option.bind_eq_some_iff.mp done
    obtain ⟨-, rfl⟩ := read_iff.mp first
    obtain ⟨inside, rfl⟩ := read_iff.mp second
    exact ⟨inside, (Option.some.inj done).symm.trans value⟩
  · rintro ⟨inside, rfl⟩
    rw [readWord, read_iff.mpr ⟨Nat.lt_of_succ_lt inside, rfl⟩, Option.bind_eq_bind, Option.bind_some,
      read_iff.mpr ⟨inside, rfl⟩, Option.bind_some, value]

/-- Each round passes a label, so the rounds last up to the end of the chain. -/
theorem skipLabelsWithin_ends (ends : LabelsEnd memory.byte p q) (mapped : q < memory.limit) {rounds : Nat}
    (enough : q < p + rounds) : memory.skipLabelsWithin rounds p = some q := by
  induction ends generalizing rounds with
  | @root p zero =>
      obtain ⟨rounds, rfl⟩ := Nat.exists_eq_succ_of_ne_zero (by omega : rounds ≠ 0)
      rw [skipLabelsWithin, read_iff.mpr ⟨mapped, rfl⟩, Option.bind_eq_bind, Option.bind_some, if_pos zero]
  | @label p q nonempty rest ih =>
      have later := rest.le
      obtain ⟨rounds, rfl⟩ := Nat.exists_eq_succ_of_ne_zero (by omega : rounds ≠ 0)
      have positive : 0 < (memory.byte p).toNat := by
        apply Nat.pos_of_ne_zero
        intro zero
        exact nonempty (BitVec.eq_of_toNat_eq zero)
      rw [skipLabelsWithin, read_iff.mpr ⟨by omega, rfl⟩, Option.bind_eq_bind, Option.bind_some, if_neg nonempty]
      exact ih mapped (by omega)

theorem labelsEnd_of_skipLabelsWithin {rounds : Nat} (done : memory.skipLabelsWithin rounds p = some q) :
    LabelsEnd memory.byte p q ∧ q < memory.limit := by
  induction rounds generalizing p with
  | zero => cases done
  | succ rounds ih =>
      obtain ⟨length, first, done⟩ := Option.bind_eq_some_iff.mp done
      obtain ⟨mapped, rfl⟩ := read_iff.mp first
      split at done
      · rename_i zero
        obtain rfl := Option.some.inj done
        exact ⟨.root zero, mapped⟩
      · rename_i nonempty
        obtain ⟨ends, inside⟩ := ih done
        exact ⟨.label nonempty ends, inside⟩

theorem skipLabels_iff : memory.skipLabels p = some q ↔ LabelsEnd memory.byte p q ∧ q < memory.limit := by
  constructor
  · exact labelsEnd_of_skipLabelsWithin
  · rintro ⟨ends, mapped⟩
    exact skipLabelsWithin_ends ends mapped (Nat.lt_of_lt_of_le mapped (Nat.le_add_left _ _))

theorem skipQuestions_passed (done : memory.skipQuestions count p = some q) : QuestionsPassed memory.byte count p q := by
  induction count generalizing p with
  | zero => exact (Option.some.inj done).symm
  | succ count ih =>
      obtain ⟨root, skipped, done⟩ := Option.bind_eq_some_iff.mp done
      exact ⟨root, (skipLabels_iff.mp skipped).1, ih done⟩

theorem skipQuestions_done (passed : QuestionsPassed memory.byte count p q) (mapped : q ≤ memory.limit) :
    memory.skipQuestions count p = some q := by
  induction count generalizing p with
  | zero => exact congrArg some passed.symm
  | succ count ih =>
      obtain ⟨root, ends, rest⟩ := passed
      have later := rest.le
      rw [skipQuestions, skipLabels_iff.mpr ⟨ends, by omega⟩]
      exact ih rest

theorem skipName_passed (done : memory.skipName p = some q) : NamePassed memory.byte p q := by
  obtain ⟨first, read, done⟩ := Option.bind_eq_some_iff.mp done
  obtain ⟨mapped, rfl⟩ := read_iff.mp read
  split at done
  · rename_i marked
    obtain rfl := Option.some.inj done
    exact .pointer marked
  · rename_i unmarked
    obtain ⟨root, skipped, done⟩ := Option.bind_eq_some_iff.mp done
    obtain rfl := Option.some.inj done
    exact .labels unmarked (skipLabels_iff.mp skipped).1

theorem skipName_done (passed : NamePassed memory.byte p q) (mapped : q ≤ memory.limit) : memory.skipName p = some q := by
  have first : memory.read p = some (memory.byte p) := read_iff.mpr ⟨Nat.lt_of_lt_of_le passed.lt mapped, rfl⟩
  rw [skipName, first, Option.bind_eq_bind, Option.bind_some]
  cases passed with
  | pointer marked => rw [if_pos marked]
  | labels unmarked ends => rw [if_neg unmarked, skipLabels_iff.mpr ⟨ends, mapped⟩]; rfl

/-- The answer loop ends exactly when the records up to the first address are mapped. -/
theorem findAddress_iff {answer : Option UINT32} :
    memory.findAddress count p = some answer ↔ AnswersWithin memory.byte memory.limit count p answer := by
  constructor
  · intro done
    induction count generalizing p with
    | zero =>
        obtain rfl := Option.some.inj done
        exact .done
    | succ count ih =>
        obtain ⟨name, skipped, done⟩ := Option.bind_eq_some_iff.mp done
        obtain ⟨rtype, type, done⟩ := Option.bind_eq_some_iff.mp done
        obtain ⟨rdlen, length, done⟩ := Option.bind_eq_some_iff.mp done
        have passed := skipName_passed skipped
        obtain ⟨-, rfl⟩ := readWord_iff.mp type
        obtain ⟨inside, rfl⟩ := readWord_iff.mp length
        split at done
        · rename_i kind
          obtain ⟨data, copied, found⟩ := Option.bind_eq_some_iff.mp done
          obtain rfl := Option.some.inj found
          have inside := copy_inside copied
          exact .address passed kind.1 kind.2 (by omega)
        · rename_i kind
          exact .other passed kind inside (ih done)
  · intro within
    induction within with
    | done => rfl
    | @address count p name passed type length inside =>
        have skipped := skipName_done passed (by omega)
        have rtype := readWord_iff.mpr ⟨(by omega : name + 2 ≤ memory.limit), rfl⟩
        have rdlen := readWord_iff.mpr ⟨(by omega : name + 8 + 2 ≤ memory.limit), rfl⟩
        simp only [findAddress, skipped, rtype, rdlen, Option.bind_eq_bind, Option.bind_some,
          if_pos (And.intro type length), copy, if_pos inside]
    | @other count p name answer passed kind inside rest ih =>
        have skipped := skipName_done passed (by omega)
        have rtype := readWord_iff.mpr ⟨(by omega : name + 2 ≤ memory.limit), rfl⟩
        have rdlen := readWord_iff.mpr ⟨inside, rfl⟩
        simp only [findAddress, skipped, rtype, rdlen, Option.bind_eq_bind, Option.bind_some, if_neg kind]
        exact ih

end MappedMemory

/-- The walk through the questions and the answers of a message. -/
def MappedMemory.dnsWalk (memory : MappedMemory) (dnsAt : Nat) : Option (Option UINT32) := do
  let p ← memory.skipQuestions (questionsAt memory.byte dnsAt) (dnsAt + sizeofDnsHdr)
  memory.findAddress (answersAt memory.byte dnsAt) p

theorem AnswersWithin.inside {m : Memory} {stop count p : Nat} {answer : Option UINT32}
    (within : AnswersWithin m stop count p answer) (nonzero : count ≠ 0) : p ≤ stop := by
  cases within with
  | done => exact absurd rfl nonzero
  | address passed _ _ inside =>
      have moved := passed.lt
      omega
  | other passed _ inside _ =>
      have moved := passed.lt
      omega

/-- The walk of a response with answers ends exactly when the records up to the first address are mapped
behind the questions. -/
theorem MappedMemory.dnsWalk_iff (memory : MappedMemory) {dnsAt : Nat} {answer : Option UINT32}
    (answers : answersAt memory.byte dnsAt ≠ 0) :
    memory.dnsWalk dnsAt = some answer ↔
      ∃ p, QuestionsPassed memory.byte (questionsAt memory.byte dnsAt) (dnsAt + sizeofDnsHdr) p ∧
        AnswersWithin memory.byte memory.limit (answersAt memory.byte dnsAt) p answer := by
  constructor
  · intro done
    obtain ⟨p, skipped, found⟩ := Option.bind_eq_some_iff.mp done
    exact ⟨p, skipQuestions_passed skipped, findAddress_iff.mp found⟩
  · rintro ⟨p, passed, within⟩
    have mapped : p ≤ memory.limit := within.inside answers
    rw [dnsWalk, skipQuestions_done passed mapped]
    exact findAddress_iff.mpr within

/-- The receive page with nothing mapped from an offset on. -/
def RxPkt.clip (pkt : RxPkt) (stop : Nat) : MappedMemory := { byte := pkt.byte, limit := stop }

/-- What the walk finds before the end of the page it finds on the page. -/
theorem RxPkt.dnsWalk_clip {pkt : RxPkt} {stop dnsAt : Nat} {answer : Option UINT32} (page : stop ≤ pktBufSize)
    (done : (pkt.clip stop).dnsWalk dnsAt = some answer) : pkt.dnsWalk dnsAt = some answer := by
  have enlarges : MappedMemory.Extends pkt.toMappedMemory (pkt.clip stop) :=
    { limit := Nat.le_trans page pkt.page, agree := fun _ _ _ => rfl }
  obtain ⟨p, skipped, found⟩ := Option.bind_eq_some_iff.mp done
  have skipped := MappedMemory.skipQuestions_extends enlarges skipped
  exact Option.bind_eq_some_iff.mpr ⟨p, skipped, MappedMemory.findAddress_extends enlarges found⟩

/-- The resolution with the answer of a walk. -/
def DnsResolution.store (dns : DnsResolution) : Option UINT32 → DnsResolution
  | some address => { dns with resolvedIp := address, resolved := true }
  | none => dns

namespace NetStack

/-- A datagram on the page with a response that the resolver walks through. -/
structure WalksDns (s : NetStack) (udpAt : Nat) : Prop where
  dest : ntohs (UdpHdr.read s.rxPkt.byte udpAt).dest = s.dns.localPort
  asked : s.dns.localPort ≠ 0#16
  source : ntohs (UdpHdr.read s.rxPkt.byte udpAt).source = udpPortDns
  id : (DnsHdr.read s.rxPkt.byte (udpAt + sizeofUdpHdr)).id = htons s.dns.currentId
  response : ntohs (DnsHdr.read s.rxPkt.byte (udpAt + sizeofUdpHdr)).flags &&& dnsFlagResponse ≠ 0#16
  answers : answersAt s.rxPkt.byte (udpAt + sizeofUdpHdr) ≠ 0

/-- The DNS branch of `handle_udp`. -/
def dnsBranch (s : NetStack) (udpAt : Nat) : Option NetStack := s.receiveDns (UdpHdr.read s.rxPkt.byte udpAt) udpAt

variable {s s' : NetStack} {udpAt stop : Nat}

/-- The branch stores what the walk finds on the page. -/
theorem dnsBranch_walks (walks : s.WalksDns udpAt) : s.dnsBranch udpAt =
    (s.rxPkt.dnsWalk (udpAt + sizeofUdpHdr)).map fun answer => { s with dns := s.dns.store answer } := by
  have answers : ntohs (DnsHdr.read s.rxPkt.byte (udpAt + sizeofUdpHdr)).ancount ≠ 0#16 :=
    fun zero => walks.answers (congrArg BitVec.toNat zero)
  rw [dnsBranch, receiveDns, if_pos ⟨walks.dest, walks.asked, walks.source⟩]
  unfold handleDns
  dsimp only
  rw [if_neg (not_not_intro walks.id), if_neg walks.response, if_neg answers]
  simp only [MappedMemory.dnsWalk, questionsAt, answersAt, Option.bind_eq_bind, Option.map_bind]
  congr 1
  funext p
  show Option.bind _ _ = Option.map _ _
  rw [Option.map_eq_bind]
  congr 1
  funext answer
  cases answer with
  | none => rfl
  | some address => rfl

theorem dnsBranch_silent (silent : ¬s.WalksDns udpAt) : s.dnsBranch udpAt = some s := by
  unfold dnsBranch receiveDns
  split
  · rename_i wanted
    unfold handleDns
    dsimp only
    split
    · rfl
    · rename_i id
      split
      · rfl
      · rename_i response
        split
        · rfl
        · rename_i answers
          have counted : answersAt s.rxPkt.byte (udpAt + sizeofUdpHdr) ≠ 0 :=
            fun zero => answers (BitVec.eq_of_toNat_eq zero)
          exact absurd ⟨wanted.1, wanted.2.1, wanted.2.2, not_not.mp id, response, counted⟩ silent
  · rfl

/-- The walk reads before an offset, and a message with sections that end behind it resolves nothing. -/
structure DnsWalkWithin (s : NetStack) (udpAt stop : Nat) : Prop where
  reads : s.WalksDns udpAt → ∃ answer, (s.rxPkt.clip stop).dnsWalk (udpAt + sizeofUdpHdr) = some answer
  keeps : ¬SectionsFit s.rxPkt.byte (udpAt + sizeofUdpHdr) stop → ∀ s', s.dnsBranch udpAt = some s' →
    s'.dns.resolved = s.dns.resolved ∧ s'.dns.resolvedIp = s.dns.resolvedIp

/-- The questions and the records up to the first address lie before an offset, and so do the sections unless
there is no address or it is the one already resolved. -/
def AnswerWithin (s : NetStack) (udpAt stop : Nat) : Prop :=
  ∃ p answer,
    QuestionsPassed s.rxPkt.byte (questionsAt s.rxPkt.byte (udpAt + sizeofUdpHdr))
      (udpAt + sizeofUdpHdr + sizeofDnsHdr) p ∧
    AnswersWithin s.rxPkt.byte stop (answersAt s.rxPkt.byte (udpAt + sizeofUdpHdr)) p answer ∧
    ∀ address, answer = some address → SectionsFit s.rxPkt.byte (udpAt + sizeofUdpHdr) stop ∨
      s.dns.resolved = true ∧ s.dns.resolvedIp = address

/-- A message that is stored whole, with names that the walk skips, keeps the walk inside. -/
theorem answerWithin_stored {message : DnsMessage} (stored : BytesAt s.rxPkt.byte (udpAt + sizeofUdpHdr) message.bytes)
    (inside : udpAt + sizeofUdpHdr + message.bytes.length ≤ stop) (skipped : message.Skipped) :
    s.AnswerWithin udpAt stop := by
  have fit := message.sectionsFit stored inside
  simp only [DnsMessage.bytes, bytesAt_append_iff, List.length_append, DnsHdr.bytes_length] at stored inside
  obtain ⟨⟨⟨header, questions⟩, answers⟩, -⟩ := stored
  have skips := (s.rxPkt.clip stop).skipQuestions_stored skipped.questions questions
    (by rw [RxPkt.clip]; dsimp only; omega)
  simp only [← Nat.add_assoc] at answers
  have finds := (s.rxPkt.clip stop).findAddress_stored skipped.answers answers (by rw [RxPkt.clip]; dsimp only; omega)
  have passed := MappedMemory.skipQuestions_passed skips
  have within := MappedMemory.findAddress_iff.mp finds
  rw [← message.questionsAt_stored header] at passed
  rw [← message.answersAt_stored header] at within
  exact ⟨_, _, passed, within, fun _ _ => Or.inl fit⟩

theorem dnsWalkWithin_iff (page : stop ≤ pktBufSize) :
    s.DnsWalkWithin udpAt stop ↔ (s.WalksDns udpAt → s.AnswerWithin udpAt stop) := by
  constructor
  · intro within walks
    obtain ⟨answer, done⟩ := within.reads walks
    obtain ⟨p, passed, answers⟩ := (MappedMemory.dnsWalk_iff (s.rxPkt.clip stop) walks.answers).mp done
    refine ⟨p, answer, passed, answers, ?_⟩
    rintro address rfl
    by_cases fit : SectionsFit s.rxPkt.byte (udpAt + sizeofUdpHdr) stop
    · exact Or.inl fit
    · have stored := dnsBranch_walks walks
      rw [RxPkt.dnsWalk_clip page done, Option.map_some] at stored
      obtain ⟨resolved, resolvedIp⟩ := within.keeps fit _ stored
      exact Or.inr ⟨resolved.symm, resolvedIp.symm⟩
  · intro follows
    constructor
    · intro walks
      obtain ⟨p, answer, passed, answers, -⟩ := follows walks
      exact ⟨answer, (MappedMemory.dnsWalk_iff (s.rxPkt.clip stop) walks.answers).mpr ⟨p, passed, answers⟩⟩
    · intro unfit s' stored
      by_cases walks : s.WalksDns udpAt
      · obtain ⟨p, answer, passed, answers, repeated⟩ := follows walks
        have done := (MappedMemory.dnsWalk_iff (s.rxPkt.clip stop) walks.answers).mpr ⟨p, passed, answers⟩
        rw [dnsBranch_walks walks, RxPkt.dnsWalk_clip page done, Option.map_some] at stored
        obtain rfl := Option.some.inj stored
        cases answer with
        | none => exact ⟨rfl, rfl⟩
        | some address =>
            obtain ⟨resolved, resolvedIp⟩ := (repeated address rfl).resolve_left unfit
            exact ⟨resolved.symm, resolvedIp.symm⟩
      · rw [dnsBranch_silent walks] at stored
        obtain rfl := Option.some.inj stored
        exact ⟨rfl, rfl⟩

/-- A datagram ends where its length field says, and at the latest with the page. -/
def datagramEnd (s : NetStack) (udpAt : Nat) : Nat :=
  min (udpAt + (ntohs (UdpHdr.read s.rxPkt.byte udpAt).len).toNat) pktBufSize

/-- The end of the datagram is on the page. The walk stays in front of any stop there, such as this end, the end of what
was received or the end of the page, exactly when the message does as far as the walk follows it. -/
theorem dnsWalk_bounds (s : NetStack) (udpAt : Nat) :
    s.datagramEnd udpAt ≤ pktBufSize ∧ ∀ stop ≤ pktBufSize,
      (s.DnsWalkWithin udpAt stop ↔ (s.WalksDns udpAt → s.AnswerWithin udpAt stop)) := by
  constructor
  · exact Nat.min_le_right _ _
  · exact fun stop onPage => dnsWalkWithin_iff onPage

open Scenario in
/-- The walk of a response with one question and one address stays in its datagram. -/
theorem dnsWalk_bounds_answer :
    (querying (answering compressed)).DnsWalkWithin 34 ((querying (answering compressed)).datagramEnd 34) := by
  have arrival := querying_arrival compressed (by decide)
  obtain ⟨onPage, exactly⟩ := dnsWalk_bounds (querying (answering compressed)) 34
  have inside : 34 + sizeofUdpHdr + (answering compressed).bytes.length ≤
      (querying (answering compressed)).datagramEnd 34 := by
    rw [datagramEnd, arrival.len, Nat.add_assoc]
    exact Nat.le_min.mpr ⟨Nat.le_refl _, by decide⟩
  have skipped : (answering compressed).Skipped :=
    { questions := by
        intro question member
        obtain rfl := List.mem_singleton.mp member
        rfl
      answers := ⟨Or.inr ⟨rfl, NameEnd.noConfusion⟩, Or.inr trivial⟩ }
  exact (exactly _ onPage).mpr fun _ => answerWithin_stored arrival.stored inside skipped

/-- A frame with a response of two answers, of which only the first one is there. It is no address, and its
data would end 65535 bytes behind it. -/
def longRdata : Bytes :=
  { type := htons ethertypeIpv4 : EthHdr }.bytes ++
    { ihlVersion := ipVersionIhlDefault, totLen := htons 52, ttl := ipDefaultTtl, protocol := ipProtoUdp : IpHdr }.bytes ++
    { source := htons udpPortDns, dest := htons 1053, len := htons 32 : UdpHdr }.bytes ++
    { id := htons 7, flags := htons 0x8180, ancount := htons 2 : DnsHdr }.bytes ++
    [0xC0, 0x0C, 0x00, 0x05, 0x00, 0x01, 0x00, 0x00, 0x00, 0x3C, 0xFF, 0xFF]

/-- A stack that has asked and holds the frame on its page. -/
def longRdataStack : NetStack :=
  { NetStack.initial .zeros {} with
    dns := { currentId := 7, localPort := 1053 }
    rxPkt := { RxPkt.zeros with byte := Memory.write RxPkt.zeros.byte 0 longRdata } }

/-- The second answer would start behind the datagram and behind the page. -/
theorem long_rdata_overruns : ¬∀ (s : NetStack) (udpAt : Nat),
    s.DnsWalkWithin udpAt (s.datagramEnd udpAt) ∨ s.DnsWalkWithin udpAt pktBufSize := by
  intro always
  have walks : longRdataStack.WalksDns 34 :=
    { dest := by decide
      asked := by decide
      source := by decide
      id := by decide
      response := by decide
      answers := by decide }
  rcases always longRdataStack 34 with within | within
  · obtain ⟨answer, done⟩ := within.reads walks
    have faults : (longRdataStack.rxPkt.clip (longRdataStack.datagramEnd 34)).dnsWalk 42 = none := by decide +kernel
    cases faults.symm.trans done
  · obtain ⟨answer, done⟩ := within.reads walks
    have faults : (longRdataStack.rxPkt.clip pktBufSize).dnsWalk 42 = none := by decide +kernel
    cases faults.symm.trans done

end NetStack
end UefiNetstack
