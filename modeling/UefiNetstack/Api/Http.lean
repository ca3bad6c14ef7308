import UefiNetstack.Api.Datagram

namespace UefiNetstack
open Constants NetStack

/-- The characters of a literal. -/
def asciiBytes (literal : String) : Bytes := literal.toList.map fun char => BitVec.ofNat 8 char.toNat

/-- The parts of a request, in order. -/
def httpParts (hostname path : CString) : List Bytes :=
  [asciiBytes "GET ", path.chars, asciiBytes " HTTP/1.1\r\nHost: ", hostname.chars,
    asciiBytes "\r\nConnection: close\r\n\r\n"]

/-- Each part is copied as far as the buffer has room in front of its last byte. -/
def httpRequest (hostname path : CString) : Bytes :=
  (httpParts hostname path).foldl (fun req part => req ++ part.take (httpReqSize - 1 - req.length)) []

/-- A resolver that returns no error has found an address; no call returns a warning. -/
theorem Api.resolveHostname_noWarning {hostname : CString} {outIp targetIp : UINT32} {st : EfiStatus}
    {s resolved : NetStack} (done : Api.resolveHostname hostname outIp s = some (st, targetIp, resolved))
    (noError : ¬st.isError = true) : st = .success := by
  obtain ⟨ended, -, result⟩ := Option.bind_eq_some_iff.mp done
  have status := (Prod.mk.inj (Option.some.inj result)).1
  split at result
  · exact (Prod.mk.inj (Option.some.inj result)).1.symm
  · rw [← (Prod.mk.inj (Option.some.inj result)).1] at noError
    exact absurd rfl noError

theorem Api.tcpConnect_noWarning {ip : UINT32} {port : UINT16} {st : EfiStatus} {s connected : NetStack}
    (done : Api.tcpConnect ip port s = some (st, connected)) (noError : ¬st.isError = true) : st = .success := by
  obtain ⟨ended, -, result⟩ := Option.bind_eq_some_iff.mp done
  rw [← (Prod.mk.inj (Option.some.inj result)).1] at noError ⊢
  split at noError
  · rename_i established
    exact if_pos established
  · exact absurd rfl noError

theorem Api.tcpSend_noWarning {data : Bytes} {st : EfiStatus} {s before : NetStack}
    (done : Api.tcpSend data s = some (st, before)) (noError : ¬st.isError = true) : st = .success := by
  unfold Api.tcpSend at done
  split at done
  · rw [← (Prod.mk.inj (Option.some.inj done)).1] at noError
    exact absurd rfl noError
  · obtain ⟨ended, -, result⟩ := Option.bind_eq_some_iff.mp done
    exact (Prod.mk.inj (Option.some.inj result)).1.symm

/-- The call returns its status with `actual_len` and the response buffer, which only the receive writes. -/
def Api.httpGet (hostname path : CString) (responseBuffer : Memory) (maxLen actualLen : UINTN) (s : NetStack) :
    Option Received := do
  let (st, targetIp, s) ← Api.resolveHostname hostname 0#32 s
  if st.isError then some { status := st, actualLen, buffer := responseBuffer, stack := s }
  else
    let (st, s) ← Api.tcpConnect targetIp 0x50#16 s
    if st.isError then some { status := st, actualLen, buffer := responseBuffer, stack := s }
    else
      let (st, s) ← Api.tcpSend (httpRequest hostname path) s
      if st.isError then
        let (_, s) ← Api.tcpClose s
        some { status := st, actualLen, buffer := responseBuffer, stack := s }
      else
        let received ← Api.tcpReceive responseBuffer maxLen 0x1388#32 s
        let (_, s) ← Api.tcpClose received.stack
        some { received with stack := s }

end UefiNetstack
