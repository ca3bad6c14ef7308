import UefiNetstack.Core.SendRaw
import UefiNetstack.Lib.Custody

namespace UefiNetstack
open Constants Custody

/-- GetStatus returns a transmit buffer. -/
def StatusAnswer.Returns (answer : StatusAnswer) : Prop := answer.status.isError = false ∧ answer.txBuf

instance (answer : StatusAnswer) : Decidable answer.Returns := inferInstanceAs (Decidable (_ ∧ _))

/-- What an event does to the transmit page. -/
def Event.custody : Event → Effect
  | .copyToTxPkt _ => .use
  | .transmit _ status => if status.isError then .none else .handOver
  | .getStatus answer => if answer.Returns then .giveBack else .none
  | _ => .none

namespace Snp

/-- One of the next answers of GetStatus returns a buffer. -/
def ReturnsWithin (retries : Nat) (snp : Snp) : Prop := ∃ index < retries, (snp.getStatus.getD index {}).Returns

theorem returnsWithin_succ (retries : Nat) (snp : Snp) :
    snp.ReturnsWithin (retries + 1) ↔ snp.nextStatus.1.Returns ∨ snp.nextStatus.2.ReturnsWithin retries := by
  have first : snp.getStatus.getD 0 {} = snp.nextStatus.1 := by
    rw [nextStatus]
    cases snp.getStatus <;> rfl
  have later (index : Nat) : snp.getStatus.getD (index + 1) {} = snp.nextStatus.2.getStatus.getD index {} := by
    rw [nextStatus]
    cases snp.getStatus <;> rfl
  constructor
  · rintro ⟨index, inside, returns⟩
    cases index with
    | zero => exact Or.inl (first ▸ returns)
    | succ index => exact Or.inr ⟨index, Nat.lt_of_succ_lt_succ inside, later index ▸ returns⟩
  · rintro (returns | ⟨index, inside, returns⟩)
    · exact ⟨0, Nat.succ_pos _, first ▸ returns⟩
    · exact ⟨index + 1, Nat.succ_lt_succ inside, later index ▸ returns⟩

/-- The frame that goes out next is completed before the retries run out, or does not go out. -/
def CompletesInTime (snp : Snp) : Prop :=
  snp.nextTransmit.1.isError ∨ snp.nextStatus.2.nextTransmit.2.ReturnsWithin timeoutTxRetries

/-- The completion loop uses nothing and stops at the first return. -/
theorem awaitTransmit_custody (retries : Nat) (snp : Snp) :
    Effect.use ∉ (awaitTransmit retries snp).1.map Event.custody ∧
      (after ((awaitTransmit retries snp).1.map Event.custody) 1 = 0 ↔ snp.ReturnsWithin retries) := by
  induction retries generalizing snp with
  | zero => exact ⟨List.not_mem_nil, by simp [awaitTransmit, ReturnsWithin]⟩
  | succ retries ih =>
      rw [returnsWithin_succ]
      by_cases returns : snp.nextStatus.1.Returns
      · have effect : Event.custody (.getStatus snp.nextStatus.1) = .giveBack := if_pos returns
        have stops : (awaitTransmit (retries + 1) snp).1 = [.getStatus snp.nextStatus.1] :=
          congrArg Prod.fst (if_pos returns)
        rw [stops, List.map_singleton, effect]
        simp [Effect.apply, returns]
      · have effect : Event.custody (.getStatus snp.nextStatus.1) = .none := if_neg returns
        have goesOn : (awaitTransmit (retries + 1) snp).1 =
            .getStatus snp.nextStatus.1 :: .stall stall500us :: (awaitTransmit retries snp.nextStatus.2).1 :=
          congrArg Prod.fst (if_neg returns)
        obtain ⟨noUse, completes⟩ := ih snp.nextStatus.2
        rw [goesOn, List.map_cons, List.map_cons, effect]
        constructor
        · simpa [Event.custody] using noUse
        · simpa [Effect.apply, Event.custody, returns] using completes

/-- A call with nothing out copies before it hands the frame over, and it returns success with the page
back exactly when the frame completes in time. -/
theorem sendRaw_custody (data : Bytes) (snp : Snp) :
    Exclusive ((snp.sendRaw data).2.1.map Event.custody) 0 ∧
      (after ((snp.sendRaw data).2.1.map Event.custody) 0 = 0 ↔ snp.CompletesInTime) ∧
      ((snp.sendRaw data).1 = .success ↔ snp.nextTransmit.1.isError = false) := by
  have front (status : EfiStatus) (polled : List Event) :
      ([Event.copyToTxPkt data, .getStatus snp.nextStatus.1, .transmit data status] ++ polled).map Event.custody =
        [.use, Event.custody (.getStatus snp.nextStatus.1), Event.custody (.transmit data status)] ++
          polled.map Event.custody := List.map_append
  have asked : (Event.custody (.getStatus snp.nextStatus.1)).apply 0 = 0 := by
    rw [Event.custody]
    split <;> rfl
  have notUse (answer : StatusAnswer) : Event.custody (.getStatus answer) ≠ .use := by
    rw [Event.custody]
    split <;> nofun
  have same : snp.nextStatus.2.nextTransmit.1 = snp.nextTransmit.1 := rfl
  obtain ⟨noUse, completes⟩ := awaitTransmit_custody timeoutTxRetries snp.nextStatus.2.nextTransmit.2
  unfold sendRaw CompletesInTime
  dsimp only
  cases failed : snp.nextTransmit.1.isError with
  | true =>
      have effect : Event.custody (.transmit data snp.nextTransmit.1) = .none := if_pos failed
      rw [same, if_pos failed, ← List.append_nil [_, _, _], front, effect]
      refine ⟨⟨fun _ => rfl, fun same => absurd same (notUse _), nofun, trivial⟩, ?_, ?_⟩
      · exact iff_of_true asked (Or.inl rfl)
      · have notSuccess : snp.nextTransmit.1 ≠ .success := EfiStatus.isError_ne_success failed
        simp [notSuccess]
  | false =>
      have succeeded : ¬snp.nextTransmit.1.isError = true := Bool.eq_false_iff.mp failed
      have effect : Event.custody (.transmit data snp.nextTransmit.1) = .handOver := if_neg succeeded
      rw [same, if_neg succeeded, front, effect, exclusive_append, after_append]
      have handed : after [.use, Event.custody (.getStatus snp.nextStatus.1), .handOver] 0 = 1 :=
        congrArg (· + 1) asked
      rw [handed]
      refine ⟨⟨⟨fun _ => rfl, fun same => absurd same (notUse _), nofun, trivial⟩, .of_noUse noUse 1⟩, ?_, ?_⟩
      · simpa using completes
      · simp

end Snp

namespace NetStack

/-- The transmitted frames that the NIC has not returned. -/
def txOut (s : NetStack) : Nat := after (s.trace.map Event.custody) 0

/-- The stack after a sequence of sends. -/
def sendAll (sends : List TxFrame) (s : NetStack) : NetStack := sends.foldl (fun s data => s.sendFrame data) s

variable {s : NetStack}

theorem sendAll_snoc (sends : List TxFrame) (data : TxFrame) (s : NetStack) :
    s.sendAll (sends ++ [data]) = (s.sendAll sends).sendFrame data :=
  List.foldl_append

theorem sendFrame_txOut (data : TxFrame) (s : NetStack) :
    (s.sendFrame data).txOut = after ((s.snp.sendRaw data.bytes).2.1.map Event.custody) s.txOut := by
  change after ((s.trace ++ (s.snp.sendRaw data.bytes).2.1).map Event.custody) 0 = _
  rw [List.map_append, after_append]
  rfl

/-- A call keeps to the ownership of the page: it copies and hands over only what the NIC does not own, and
returns success only with the frame completed. -/
structure KeepsOwnership (data : TxFrame) (s : NetStack) : Prop where
  exclusive : Exclusive ((s.snp.sendRaw data.bytes).2.1.map Event.custody) s.txOut
  completed : (s.sendRaw data).1 = .success → (s.sendRaw data).2.txOut = 0

/-- With nothing out a call keeps to the ownership exactly when its frame completes in time. -/
theorem keepsOwnership_iff (data : TxFrame) (idle : s.txOut = 0) :
    s.KeepsOwnership data ↔ s.snp.CompletesInTime := by
  obtain ⟨exclusive, completes, succeeds⟩ := s.snp.sendRaw_custody data.bytes
  have out := s.sendFrame_txOut data
  rw [idle] at out
  constructor
  · intro keeps
    cases failed : s.snp.nextTransmit.1.isError with
    | true => exact Or.inl failed
    | false => exact completes.mp (out.symm.trans (keeps.completed (succeeds.mpr failed)))
  · intro inTime
    exact ⟨idle ▸ exclusive, fun _ => out.trans (completes.mpr inTime)⟩

/-- The first event of a call copies into the page. -/
theorem KeepsOwnership.idle {data : TxFrame} (keeps : s.KeepsOwnership data) : s.txOut = 0 := by
  obtain ⟨polled, events, -⟩ := s.snp.sendRaw_events data.bytes
  have exclusive := keeps.exclusive
  rw [events] at exclusive
  exact exclusive.1 rfl

/-- A sequence of sends keeps to the ownership of the page exactly when each of its frames that Transmit
accepts is completed before the retries of its call run out. -/
theorem send_raw_ownership (sends : List TxFrame) (idle : s.txOut = 0) :
    (∀ earlier data later, sends = earlier ++ data :: later → (s.sendAll earlier).KeepsOwnership data) ↔
      ∀ earlier data later, sends = earlier ++ data :: later → (s.sendAll earlier).snp.CompletesInTime := by
  constructor
  · intro keeps earlier data later parts
    have kept := keeps earlier data later parts
    exact (keepsOwnership_iff data kept.idle).mp kept
  · intro inTime earlier data later parts
    have quiet : (s.sendAll earlier).txOut = 0 := by
      induction earlier using List.reverseRecOn generalizing data later with
      | nil => exact idle
      | append_singleton earlier last ih =>
          have before : sends = earlier ++ last :: data :: later := by
            rw [parts, List.append_assoc]
            rfl
          have out := ih last (data :: later) before
          rw [sendAll_snoc, sendFrame_txOut, out]
          exact (Snp.sendRaw_custody last.bytes _).2.1.mpr (inTime earlier last _ before)
    exact (keepsOwnership_iff data quiet).mpr (inTime earlier data later parts)

/-- A frame of one byte, and a NIC that completes it one poll too late. -/
def shortFrame : TxFrame := ⟨[0x55], by decide⟩

def lateNic : NetStack :=
  .initial .zeros { getStatus := List.replicate (timeoutTxRetries + 1) { txBuf := false } }

theorem lateNic_misses : ¬lateNic.snp.CompletesInTime := by
  rintro (failed | ⟨index, inside, returns⟩)
  · exact absurd failed (by decide)
  · have silent : (List.replicate timeoutTxRetries ({ txBuf := false } : StatusAnswer)).getD index {} =
        { txBuf := false } := by
      rw [List.getD_eq_getElem?_getD, List.getElem?_replicate, if_pos inside]
      rfl
    have buffer := returns.2
    change ((List.replicate timeoutTxRetries ({ txBuf := false } : StatusAnswer)).getD index {}).txBuf = true at buffer
    rw [silent] at buffer
    cases buffer

/-- A NIC that completes at once gets its second frame after it has returned the first. -/
theorem send_raw_ownership_prompt :
    ((NetStack.initial .zeros {}).sendAll [shortFrame]).KeepsOwnership shortFrame := by
  refine (@send_raw_ownership (.initial .zeros {}) [shortFrame, shortFrame] rfl).mpr ?_ [shortFrame] shortFrame [] rfl
  intro earlier data later _
  have prompt (sends : List TxFrame) : ((NetStack.initial .zeros {}).sendAll sends).snp = {} := by
    induction sends using List.reverseRecOn with
    | nil => rfl
    | append_singleton sends last ih =>
        rw [sendAll_snoc]
        change (((NetStack.initial .zeros {}).sendAll sends).snp.sendRaw last.bytes).2.2 = _
        rw [ih]
        rfl
  rw [prompt]
  exact Or.inr ⟨0, by decide, by decide⟩

theorem late_completion_unnoticed : ¬∀ (sends : List TxFrame) (s : NetStack), s.txOut = 0 →
    ∀ earlier data later, sends = earlier ++ data :: later → (s.sendAll earlier).KeepsOwnership data := by
  intro always
  have keeps := always [shortFrame, shortFrame] lateNic rfl [] shortFrame [shortFrame] rfl
  exact lateNic_misses ((keepsOwnership_iff shortFrame rfl).mp keeps)

end NetStack
end UefiNetstack
