import UefiNetstack.Outcomes.Inbox
import UefiNetstack.Session.Handshake

namespace UefiNetstack
open Constants Memory NetStack Search

/-- The bytes of a segment, as far as there is room. -/
def RxPkt.stream (page : RxPkt) (input : TcpInput) (tcpAt : Nat) (maxLen : UINTN) : Bytes :=
  page.byte.slice (tcpAt + input.tcpHlen.toNat) (min input.payloadLen.toNat maxLen.toNat)

namespace NetStack

variable {s s' : NetStack} {input : TcpInput} {tcpAt : Nat} {buffer : Memory} {port : UINT16} {maxLen : UINTN}

/-- An established session waits for its first byte. -/
structure ReceivesStream (port : UINT16) (buffer : Memory) (maxLen : UINTN) (s : NetStack) : Prop where
  state : s.tcp.state = .established
  port : s.tcp.localPort = port
  pending : s.tcp.rxBuffer = some buffer
  room : s.tcp.rxMaxLen = maxLen
  empty : s.tcp.rxCurrentLen = 0#64
  open_ : s.tcp.rxDone = false

/-- What a receive has when it ends: some bytes of the stream, and whether they or a reset set its flag. -/
structure Obtains (buffer : Memory) (data : Bytes) (flag : Bool) (s : NetStack) : Prop where
  flag : s.tcp.rxDone = flag
  currentLen : s.tcp.rxCurrentLen = BitVec.ofNat 64 data.length
  buffer : s.tcp.rxBuffer = some (buffer.write 0 data)

theorem ReceivesStream.waits (receiving : ReceivesStream port buffer maxLen s) : s.tcpReceiveDone = false := by
  simp [tcpReceiveDone, receiving.open_, receiving.state]

/-- What ends a receive also ends its loop. -/
theorem Obtains.done {data : Bytes} (holds : Obtains buffer data (data ≠ []) s) {fin : Bool}
    (state : s.tcp.state = if fin then .closedDone else .established) (carries : fin ∨ data ≠ []) :
    s.tcpReceiveDone = true := by
  rcases carries with rfl | nonempty
  · simp [tcpReceiveDone, state]
  · have flag := holds.flag
    simp [nonempty] at flag
    simp [tcpReceiveDone, flag]

/-- The stall behind a poll changes nothing of it. -/
theorem Obtains.stall {data : Bytes} {flag : Bool} (obtains : Obtains buffer data flag s) :
    Obtains buffer data flag (s.stall stall100us) :=
  ⟨obtains.flag, obtains.currentLen, obtains.buffer⟩

/-- The call returns what the session has when its loop ends. -/
theorem Obtains.returned {ended : NetStack} {data : Bytes} {flag : Bool} (obtains : Obtains buffer data flag ended)
    (fallback : Memory) : Received.Is
      { status := if ended.tcp.rxDone then .success else .timeout
        actualLen := ended.tcp.rxCurrentLen
        buffer := ended.tcp.rxBuffer.getD fallback
        stack := ended.tcpReceiveEnd } (if flag then .success else .timeout) buffer data where
  status := by rw [obtains.flag]
  actualLen := obtains.currentLen
  buffer := by rw [obtains.buffer, Option.getD_some]

end NetStack
end UefiNetstack
