import UefiNetstack.Api.Init
import UefiNetstack.Dns.Response

namespace UefiNetstack
open Constants NetMath Words Memory

namespace MappedMemory

variable {memory : MappedMemory} {stop p q : Nat}

/-- The packet memory is zero from an offset on. -/
def BlankFrom (memory : MappedMemory) (stop : Nat) : Prop := ∀ p, stop ≤ p → p < memory.limit → memory.byte p = 0#8

theorem read_blank (blank : memory.BlankFrom stop) (late : stop ≤ p) {byte : UINT8} (read : memory.read p = some byte) :
    byte = 0#8 := by
  unfold MappedMemory.read at read
  split at read
  · rename_i inside
    exact (Option.some.inj read).symm.trans (blank p late inside)
  · cases read

theorem readWord_blank (blank : memory.BlankFrom stop) (late : stop ≤ p) {x : UINT16} (read : memory.readWord p = some x) :
    x = 0#16 := by
  obtain ⟨high, first, read⟩ := Option.bind_eq_some_iff.mp read
  obtain ⟨low, second, value⟩ := Option.bind_eq_some_iff.mp read
  obtain rfl := read_blank blank late first
  obtain rfl := read_blank blank (Nat.le_succ_of_le late) second
  exact (Option.some.inj value).symm

theorem skipLabelsWithin_blank (blank : memory.BlankFrom stop) (late : stop ≤ p) {rounds : Nat}
    (done : memory.skipLabelsWithin rounds p = some q) : stop ≤ q := by
  cases rounds with
  | zero => cases done
  | succ rounds =>
      obtain ⟨length, first, done⟩ := Option.bind_eq_some_iff.mp done
      rw [if_pos (read_blank blank late first)] at done
      obtain rfl := Option.some.inj done
      exact late

theorem skipQuestions_blank (blank : memory.BlankFrom stop) (late : stop ≤ p) {count : Nat}
    (done : memory.skipQuestions count p = some q) : stop ≤ q := by
  induction count generalizing p with
  | zero =>
      obtain rfl := Option.some.inj done
      exact late
  | succ count ih =>
      obtain ⟨root, skipped, done⟩ := Option.bind_eq_some_iff.mp done
      have later := skipLabelsWithin_blank blank late skipped
      exact ih (Nat.le_add_right_of_le later) done

theorem skipName_blank (blank : memory.BlankFrom stop) (late : stop ≤ p) (done : memory.skipName p = some q) : stop ≤ q := by
  obtain ⟨first, read, done⟩ := Option.bind_eq_some_iff.mp done
  split at done
  · obtain rfl := Option.some.inj done
    exact Nat.le_add_right_of_le late
  · obtain ⟨root, skipped, done⟩ := Option.bind_eq_some_iff.mp done
    obtain rfl := Option.some.inj done
    exact Nat.le_add_right_of_le (skipLabelsWithin_blank blank late skipped)

/-- The answer loop finds no address behind a name that ends in blank memory. -/
theorem findAddress_behind (blank : memory.BlankFrom stop) {count : Nat} {answer : Option UINT32}
    (lost : ∀ q, memory.skipName p = some q → stop ≤ q)
    (later : ∀ p answer, stop ≤ p → memory.findAddress count p = some answer → answer = none)
    (done : memory.findAddress (count + 1) p = some answer) : answer = none := by
  obtain ⟨q, name, done⟩ := Option.bind_eq_some_iff.mp done
  obtain ⟨rtype, type, done⟩ := Option.bind_eq_some_iff.mp done
  obtain ⟨rdlen, length, done⟩ := Option.bind_eq_some_iff.mp done
  have late := lost q name
  obtain rfl := readWord_blank blank late type
  rw [if_neg (fun address => absurd address.1 (by decide))] at done
  exact later _ answer (by omega) done

theorem findAddress_blank (blank : memory.BlankFrom stop) (late : stop ≤ p) {count : Nat} {answer : Option UINT32}
    (done : memory.findAddress count p = some answer) : answer = none := by
  induction count generalizing p answer with
  | zero => exact (Option.some.inj done).symm
  | succ count ih =>
      exact findAddress_behind blank (fun q name => skipName_blank blank late name)
        (fun p answer late done => ih late done) done

theorem pointer_large (high : BitVec 6) : 192 ≤ (0b11#2 ++ high : UINT8).toNat := by
  revert high
  decide

/-- The label loop takes the first byte of a pointer for a length. -/
theorem skipLabelsWithin_pointer (blank : memory.BlankFrom stop) (labels : List Label) {high : BitVec 6} {low : UINT8}
    (stored : BytesAt memory.byte p (labels.flatMap Label.bytes ++ [0b11#2 ++ high, low]))
    (inside : p + (labels.flatMap Label.bytes ++ [0b11#2 ++ high, low]).length ≤ memory.limit) (far : stop ≤ p + 193)
    {rounds : Nat} (done : memory.skipLabelsWithin rounds p = some q) : stop ≤ q := by
  induction labels generalizing p rounds with
  | nil =>
      cases rounds with
      | zero => cases done
      | succ rounds =>
          have large := pointer_large high
          have nonzero : (0b11#2 ++ high : UINT8) ≠ 0#8 := by
            intro zero
            rw [zero] at large
            exact absurd large (by decide)
          rw [skipLabelsWithin, read_stored memory stored inside, Option.bind_eq_bind, Option.bind_some,
            if_neg nonzero] at done
          exact skipLabelsWithin_blank blank (by omega) done
  | cons label labels ih =>
      cases rounds with
      | zero => cases done
      | succ rounds =>
          rw [List.flatMap_cons, List.append_assoc] at stored inside
          rw [List.length_append, ← Nat.add_assoc] at inside
          rw [skipLabelsWithin_label memory rounds (bytesAt_append_left stored) (by omega)] at done
          exact ih (bytesAt_append_right stored) inside (by omega) done

/-- A name with a pointer leads the label loop to blank memory. -/
theorem skipLabels_lost (blank : memory.BlankFrom stop) {name : DnsName} (pointed : ¬name.Plain)
    (stored : BytesAt memory.byte p name.bytes) (inside : p + name.bytes.length ≤ memory.limit) (far : stop ≤ p + 193)
    (done : memory.skipLabels p = some q) : stop ≤ q := by
  cases tail : name.tail with
  | root => exact absurd tail pointed
  | pointer high low =>
    rw [DnsName.bytes, tail] at stored inside
    exact skipLabelsWithin_pointer blank name.labels stored inside far done

/-- A name with a pointer behind a label leads the answer loop there too. -/
theorem skipName_lost (blank : memory.BlankFrom stop) {name : DnsName} (mixed : ¬(name.Plain ∨ name.Bare))
    (stored : BytesAt memory.byte p name.bytes) (inside : p + name.bytes.length ≤ memory.limit) (far : stop ≤ p + 193)
    (done : memory.skipName p = some q) : stop ≤ q := by
  have pointed : ¬name.Plain := fun plain => mixed (Or.inl plain)
  cases shape : name.labels with
  | nil => exact absurd (Or.inr ⟨shape, pointed⟩) mixed
  | cons label labels =>
    have first : memory.read p = some (BitVec.ofNat 8 label.text.length) := by
      rw [DnsName.bytes, shape, List.flatMap_cons, List.append_assoc] at stored inside
      rw [List.length_append] at inside
      exact read_stored memory (bytesAt_append_left stored) (by rw [← Label.bytes]; omega)
    rw [skipName, first, Option.bind_eq_bind, Option.bind_some, if_neg (label_unmarked label.short)] at done
    obtain ⟨root, skipped, done⟩ := Option.bind_eq_some_iff.mp done
    obtain rfl := Option.some.inj done
    exact Nat.le_add_right_of_le (skipLabels_lost blank pointed stored inside far skipped)

theorem skipQuestions_lost (blank : memory.BlankFrom stop) {questions : List DnsQuestion}
    (pointed : ¬∀ question ∈ questions, question.name.Plain)
    (stored : BytesAt memory.byte p (questions.flatMap DnsQuestion.bytes))
    (inside : p + (questions.flatMap DnsQuestion.bytes).length ≤ memory.limit) (far : stop ≤ p + 193)
    (done : memory.skipQuestions questions.length p = some q) : stop ≤ q := by
  induction questions generalizing p with
  | nil => exact absurd (by simp) pointed
  | cons question questions ih =>
      rw [List.flatMap_cons] at stored inside
      rw [List.length_append, ← Nat.add_assoc] at inside
      have name := bytesAt_append_left (bytesAt_append_left stored)
      have length := question.bytes_length
      by_cases plain : question.name.Plain
      · rw [List.length_cons, skipQuestions_plain memory plain (bytesAt_append_left stored) (by omega)] at done
        have others : ¬∀ other ∈ questions, other.name.Plain := by
          intro all
          exact pointed (List.forall_mem_cons.mpr ⟨plain, all⟩)
        exact ih others (bytesAt_append_right stored) inside (by omega) done
      · obtain ⟨root, skipped, done⟩ := Option.bind_eq_some_iff.mp done
        have late := skipLabels_lost blank plain name (by omega) far skipped
        exact skipQuestions_blank blank (Nat.le_add_right_of_le late) done

theorem findAddress_lost (blank : memory.BlankFrom stop) {records : List DnsRecord}
    (mixed : ¬DnsRecord.AllSkipped records) (stored : BytesAt memory.byte p (records.flatMap DnsRecord.bytes))
    (inside : p + (records.flatMap DnsRecord.bytes).length ≤ memory.limit) (far : stop ≤ p + 193)
    {answer : Option UINT32} (done : memory.findAddress records.length p = some answer) : answer = none := by
  induction records generalizing p with
  | nil => exact absurd trivial mixed
  | cons record records ih =>
      rw [List.flatMap_cons] at stored inside
      rw [List.length_append, ← Nat.add_assoc] at inside
      by_cases skipped : record.Skipped
      · have goes : record.address = none := by
          by_contra found
          exact mixed ⟨skipped, Or.inl found⟩
        have reads := readsRecord memory skipped (bytesAt_append_left stored) (by omega)
        rw [List.length_cons, findAddress_goes memory reads goes] at done
        exact ih (fun all => mixed ⟨skipped, Or.inr all⟩) (bytesAt_append_right stored) inside (by omega) done
      · have short : record.name.bytes.length ≤ record.bytes.length := by
          rw [DnsRecord.bytes, List.length_append]
          exact Nat.le_add_right _ _
        refine findAddress_behind blank (fun q name => ?_) (fun p answer late done => findAddress_blank blank late done) done
        exact skipName_lost blank skipped (bytesAt_append_left (bytesAt_append_left stored)) (by omega) far name

end MappedMemory

namespace NetStack

variable {s s' : NetStack} {udpAt : Nat} {message : DnsMessage}

/-- A short response whose names the parser cannot skip resolves nothing on a blank page. -/
theorem handleUdp_lost (arrival : DnsArrival s udpAt message) (mixed : ¬message.Skipped)
    (short : message.bytes.length ≤ 205)
    (blank : s.rxPkt.BlankFrom (udpAt + sizeofUdpHdr + message.bytes.length))
    (done : s.handleUdp udpAt = some s') : s'.dns = s.dns := by
  obtain ⟨received, user, dns, rxPkt⟩ := receiveUser_keeps arrival
  rw [handleUdp, user, Option.bind_eq_bind, Option.bind_some] at done
  have stored := arrival.stored
  have inside := Nat.le_trans arrival.fits s.rxPkt.page
  have lengths : message.bytes.length = 12 + (message.questions.flatMap DnsQuestion.bytes).length +
      (message.answers.flatMap DnsRecord.bytes).length + message.rest.length := by
    simp only [DnsMessage.bytes, List.length_append, DnsHdr.bytes_length]
  rw [DnsMessage.bytes, bytesAt_append_iff, bytesAt_append_iff, bytesAt_append_iff] at stored
  simp only [List.length_append, DnsHdr.bytes_length, ← Nat.add_assoc] at stored
  obtain ⟨⟨⟨header, questions⟩, answers⟩, -⟩ := stored
  -- either section leads to blank memory, and no address is found there
  have silent {p : Nat} {answer : Option UINT32}
      (skips : s.rxPkt.skipQuestions message.questions.length (udpAt + sizeofUdpHdr + 12) = some p)
      (finds : s.rxPkt.findAddress message.answers.length p = some answer) : answer = none := by
    by_cases plain : ∀ question ∈ message.questions, question.name.Plain
    · have walked := s.rxPkt.skipQuestions_stored plain questions (by omega)
      rw [walked] at skips
      obtain rfl := Option.some.inj skips
      exact MappedMemory.findAddress_lost blank (fun all => mixed ⟨plain, all⟩) answers (by omega) (by omega) finds
    · have late := MappedMemory.skipQuestions_lost blank plain questions (by omega) (by omega) skips
      exact MappedMemory.findAddress_blank blank late finds
  unfold receiveDns at done
  split at done
  · unfold handleDns at done
    rw [rxPkt, DnsHdr.read_stored header] at done
    dsimp only [DnsMessage.header] at done
    rw [DnsMessage.header_count message.questionsFit, DnsMessage.header_count message.answersFit, sizeofDnsHdr] at done
    split at done
    · rw [← Option.some.inj done, dns]
    · split at done
      · rw [← Option.some.inj done, dns]
      · split at done
        · rw [← Option.some.inj done, dns]
        · obtain ⟨p, skips, done⟩ := Option.bind_eq_some_iff.mp done
          obtain ⟨answer, finds, done⟩ := Option.bind_eq_some_iff.mp done
          obtain rfl := silent skips finds
          rw [← Option.some.inj done, dns]
  · rw [← Option.some.inj done, dns]

/-- A response is parsed as it is meant when it has no answers, for then no name is read, or when no question has a
pointer and no answer up to the first address has a pointer behind a label. Of a short response on a blank page that
has an address or no answers it is so only then. -/
theorem handleUdp_resolution (arrival : DnsArrival s udpAt message) :
    (message.answers = [] ∨ message.Skipped → ∃ s', s.handleUdp udpAt = some s' ∧ s'.dns = s.dns.resolve message) ∧
    (message.bytes.length ≤ 205 → s.rxPkt.BlankFrom (udpAt + sizeofUdpHdr + message.bytes.length) →
      s.dns.resolved = false → message.answers = [] ∨ DnsRecord.firstAddress message.answers ≠ none →
      ((∃ s', s.handleUdp udpAt = some s' ∧ s'.dns = s.dns.resolve message) ↔
        message.answers = [] ∨ message.Skipped)) := by
  refine ⟨handleUdp_resolves arrival, fun short blank unresolved answered => ?_⟩
  constructor
  · rintro ⟨s', done, resolved⟩
    refine answered.imp_right fun found => ?_
    by_contra mixed
    rw [handleUdp_lost arrival mixed short blank done, DnsResolution.resolve] at resolved
    cases address : DnsRecord.firstAddress message.answers with
    | none => exact found address
    | some value =>
      rw [address] at resolved
      have flag := congrArg DnsResolution.resolved resolved
      rw [unresolved] at flag
      cases flag
  · exact handleUdp_resolves arrival

end NetStack

namespace Scenario

def labelOf (char : UINT8) : Label := { text := [char], nonempty := by simp, short := by simp }

/-- The name that the query has asked for. -/
def asked : DnsName := { labels := [labelOf 0x61#8], tail := .root }

/-- A response with one address, for an answer of the given name. -/
def answering (name : DnsName) : DnsMessage where
  id := 7
  flags := 0x8180#16
  questions := [{ name := asked, type := dnsTypeA, class_ := dnsClassIn }]
  answers :=
    [{ name, type := dnsTypeA, class_ := dnsClassIn, ttl := 60, data := le32 gatewayIp, fits := by simp }]
  nscount := 0
  arcount := 0
  rest := []
  questionsFit := by simp
  answersFit := by simp

def dnsUdpHeader (message : DnsMessage) : UdpHdr where
  source := htons udpPortDns
  dest := htons 0xC000#16
  len := htons (BitVec.ofNat 16 (sizeofUdpHdr + message.bytes.length))

/-- A stack with an open query and a datagram with the message on its page. -/
def querying (message : DnsMessage) : NetStack :=
  { NetStack.initial
      { RxPkt.zeros with byte := Memory.write (fun _ => 0) 34 ((dnsUdpHeader message).bytes ++ message.bytes) } {} with
    dns := { currentId := 7, localPort := 0xC000#16 } }

theorem querying_arrival (name : DnsName) (short : (answering name).bytes.length ≤ 205) :
    DnsArrival (querying (answering name)) 34 (answering name) := by
  have stored : BytesAt (querying (answering name)).rxPkt.byte 34
      ((dnsUdpHeader (answering name)).bytes ++ (answering name).bytes) := write_bytesAt _ _ _
  have header := UdpHdr.read_stored (bytesAt_append_left stored)
  have value : (BitVec.ofNat 16 (sizeofUdpHdr + (answering name).bytes.length)).toNat =
      sizeofUdpHdr + (answering name).bytes.length := by
    rw [BitVec.toNat_ofNat, sizeofUdpHdr]
    omega
  exact
    { asked := by change (0xC000#16 : UINT16) ≠ 0#16; decide
      dest := by rw [header]; exact swap16_swap16 _
      source := by rw [header]; exact swap16_swap16 _
      len := by rw [header]; exact (congrArg BitVec.toNat (swap16_swap16 _)).trans value
      id := rfl
      response := by change 0x8180#16 &&& dnsFlagResponse ≠ 0#16; decide
      stored := bytesAt_append_right stored
      fits := by simp only [sizeofUdpHdr, pktBufSize]; omega }

/-- A pointer to the name of the question, alone and behind a label. -/
def compressed : DnsName := { labels := [], tail := .pointer 0 0x0C#8 }
def mixed : DnsName := { labels := [labelOf 0x62#8], tail := .pointer 0 0x0C#8 }

end Scenario

open Scenario in
/-- A compressed name is resolved. -/
theorem handleUdp_resolution_compressed : ∃ s', (querying (answering compressed)).handleUdp 34 = some s' ∧
    s'.dns = (querying (answering compressed)).dns.resolve (answering compressed) := by
  have arrival := querying_arrival compressed (by decide)
  refine (NetStack.handleUdp_resolution arrival).1 (Or.inr ⟨?_, ?_⟩)
  · intro question member
    obtain rfl := List.mem_singleton.mp member
    rfl
  · exact ⟨Or.inr ⟨rfl, by intro root; cases root⟩, Or.inl (by decide)⟩

open Scenario in
/-- A pointer behind a label hides the address of a response. -/
theorem mixed_name_hides_address : ¬∀ (s : NetStack) (udpAt : Nat) (message : DnsMessage),
    DnsArrival s udpAt message → ∃ s', s.handleUdp udpAt = some s' ∧ s'.dns = s.dns.resolve message := by
  intro resolves
  obtain ⟨s', done, resolved⟩ := resolves _ 34 _ (querying_arrival mixed (by decide))
  have lost : ((querying (answering mixed)).handleUdp 34).map (fun s => s.dns.resolved) = some false := by
    decide +kernel
  rw [done, Option.map_some, resolved] at lost
  exact absurd lost (by decide +kernel)

end UefiNetstack
