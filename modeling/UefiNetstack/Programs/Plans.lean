import UefiNetstack.Network.Steps
import UefiNetstack.Session.Related
import UefiNetstack.Programs.Demos

namespace UefiNetstack
open Constants NetStack Utils Relation

/-- A text fits the memory that it is read from. -/
def Output.Fits : Output → Prop
  | .ascii text len => len.toNat ≤ text.limit
  | _ => True

def Output.text : Output → List CHAR16
  | .str literal => (wide literal).takeWhile (· ≠ 0#16)
  | .dec val => Console.decimal val
  | .hex val => Console.hexadecimal val
  | .ip address => Console.dotted address
  | .mac address => Console.colons address
  | .ascii text len => Console.asciiText none (text.byte.slice 0 len.toNat)

theorem Output.print_eq {output : Output} (fits : output.Fits) (console : Console) :
    output.print console = some (console.put output.text) := by
  cases output with
  | str literal =>
      have ended : 0#16 ∈ wide literal := by simp [wide]
      rw [print, Console.printStr, Console.put, wideText, if_pos ended]
      split
      · rfl
      · rfl
  | dec val => exact Console.printDec_eq val console
  | hex val => exact Console.printHex_eq val console
  | ip address => exact Console.printIp_eq address console
  | mac address => exact Console.printMac_eq address console
  | ascii text len => exact Console.printAsciiN_eq text len fits console

namespace Machine

variable {m m' : Machine}

/-- The machine with a text behind what its console shows. -/
def put (text : List CHAR16) (m : Machine) : Machine := { m with console := m.console.put text }

theorem put_nil (m : Machine) : m.put [] = m := by
  have nothing : m.console.put [] = m.console := by
    unfold Console.put
    split
    · rw [List.append_nil]
    · rfl
  rw [put, nothing]

theorem print_eq {outputs : List Output} (fits : ∀ output ∈ outputs, output.Fits) (m : Machine) :
    m.print outputs = some (m.put (outputs.flatMap Output.text)) := by
  induction outputs generalizing m with
  | nil => exact congrArg some m.put_nil.symm
  | cons output outputs ih =>
      have first := Output.print_eq (fits output List.mem_cons_self) m.console
      have rest := ih (fun other member => fits other (List.mem_cons_of_mem _ member)) (m.put output.text)
      rw [print, List.foldlM_cons, first, Option.bind_eq_bind, Option.bind_some]
      rw [print] at rest
      rw [List.flatMap_cons, put, ← Console.put_put]
      exact rest

/-- The stack goes through small steps and the console shows some more text. -/
structure Runs (m m' : Machine) : Prop where
  steps : CallSteps m.stack m'.stack
  text : ∃ text, m'.console = m.console.put text

theorem Runs.refl (m : Machine) : Runs m m := ⟨ReflTransGen.refl, [], congrArg Machine.console m.put_nil.symm⟩

theorem Runs.trans {m'' : Machine} (first : Runs m m') (second : Runs m' m'') : Runs m m'' := by
  obtain ⟨steps, text, shown⟩ := first
  obtain ⟨steps', text', shown'⟩ := second
  exact ⟨ReflTransGen.trans steps steps', text ++ text', by rw [shown', shown, Console.put_put]⟩

theorem runs_put (m : Machine) (text : List CHAR16) : Runs m (m.put text) := ⟨ReflTransGen.refl, text, rfl⟩

theorem runs_stack {stack : NetStack} (steps : CallSteps m.stack stack) : Runs m { m with stack } :=
  ⟨steps, (Runs.refl m).text⟩

end Machine

/-- What a program does beside printing: it chooses a call by the stack in front of it and goes on by the reply. -/
inductive Plan where
  | stop
  | call (choose : NetStack → Operation) (next : Reply → Plan)
  | wait (micros : Nat) (next : Plan)

/-- The stack behind the plan, unless one of its calls leaves defined behaviour. -/
def Plan.run : Plan → NetStack → Option NetStack
  | .stop, s => some s
  | .call choose next, s => ((choose s).run s).bind fun (reply, stack) => (next reply).run stack
  | .wait micros next, s => next.run (s.stall micros)

/-- A program with a plan prints what it likes and makes the calls of the plan. It returns where the plan stops, and
only a call of the plan that leaves defined behaviour ends it before. -/
inductive Executes : Plan → Machine → Option Machine → Prop
  | returns (m : Machine) : Executes .stop m (some m)
  | prints {plan : Plan} {m : Machine} {result : Option Machine} (text : List CHAR16)
      (rest : Executes plan (m.put text) result) : Executes plan m result
  | waits {micros : Nat} {next : Plan} {m : Machine} {result : Option Machine}
      (rest : Executes next { m with stack := m.stack.stall micros } result) : Executes (.wait micros next) m result
  | calls {choose : NetStack → Operation} {next : Reply → Plan} {m : Machine} {result : Option Machine} {reply : Reply}
      {stack : NetStack} (done : (choose m.stack).run m.stack = some (reply, stack))
      (rest : Executes (next reply) { m with stack } result) : Executes (.call choose next) m result
  | undefined {choose : NetStack → Operation} {next : Reply → Plan} {m : Machine}
      (fails : (choose m.stack).run m.stack = none) : Executes (.call choose next) m none

/-- `http_get` is made of the calls before it. -/
theorem httpGet_steps {hostname path : CString} {buffer : Memory} {maxLen actualLen : UINTN} {received : Received}
    {s : NetStack} (done : Api.httpGet hostname path buffer maxLen actualLen s = some received) :
    CallSteps s received.stack := by
  obtain ⟨⟨st, targetIp, resolved⟩, resolves, done⟩ := Option.bind_eq_some_iff.mp done
  have first : CallSteps s resolved :=
    @ApiCall.run_callSteps s resolved (.resolveHostname hostname 0#32) (by rw [ApiCall.run, resolves]; rfl)
  dsimp only at done
  split at done
  · obtain rfl := Option.some.inj done
    exact first
  obtain ⟨⟨st, connected⟩, connects, done⟩ := Option.bind_eq_some_iff.mp done
  have second : CallSteps s connected := ReflTransGen.trans first (tcpConnect_steps connects)
  dsimp only at done
  split at done
  · obtain rfl := Option.some.inj done
    exact second
  obtain ⟨⟨st, sent⟩, sends, done⟩ := Option.bind_eq_some_iff.mp done
  have third : CallSteps s sent := ReflTransGen.trans second
    (@ApiCall.run_callSteps connected sent (.tcpSend (httpRequest hostname path)) (by rw [ApiCall.run, sends]; rfl))
  have closing {before after : NetStack} {st : EfiStatus} (closes : Api.tcpClose before = some (st, after)) :
      CallSteps before after := @ApiCall.run_callSteps before after .tcpClose (by rw [ApiCall.run, closes]; rfl)
  dsimp only at done
  split at done
  · obtain ⟨⟨st, closed⟩, closes, done⟩ := Option.bind_eq_some_iff.mp done
    obtain rfl := Option.some.inj done
    exact ReflTransGen.trans third (closing closes)
  · obtain ⟨returned, receives, done⟩ := Option.bind_eq_some_iff.mp done
    have fourth : CallSteps sent returned.stack :=
      @ApiCall.run_callSteps sent returned.stack (.tcpReceive buffer maxLen 0x1388#32) (by rw [ApiCall.run, receives]; rfl)
    obtain ⟨⟨st, closed⟩, closes, done⟩ := Option.bind_eq_some_iff.mp done
    obtain rfl := Option.some.inj done
    exact ReflTransGen.trans third (ReflTransGen.trans fourth (closing closes))

theorem ApiCall.reply_run {call : ApiCall} {s s' : NetStack} {reply : Reply} (done : call.reply s = some (reply, s')) :
    call.run s = some s' := by
  cases call
  all_goals
    obtain ⟨returned, ran, same⟩ := Option.map_eq_some_iff.mp done
    obtain ⟨-, rfl⟩ := Prod.mk.inj same
    rw [ApiCall.run, ran]
    rfl

theorem Operation.run_steps {operation : Operation} {s s' : NetStack} {reply : Reply}
    (done : operation.run s = some (reply, s')) : CallSteps s s' := by
  cases operation with
  | initNetwork boot =>
      obtain ⟨returned, ran, same⟩ := Option.map_eq_some_iff.mp done
      obtain ⟨-, rfl⟩ := Prod.mk.inj same
      exact initNetwork_steps ran
  | initNetworkStatic boot ip gateway mask dns =>
      obtain ⟨returned, ran, same⟩ := Option.map_eq_some_iff.mp done
      obtain ⟨-, rfl⟩ := Prod.mk.inj same
      exact initNetworkStatic_steps ran
  | call own => exact ApiCall.run_callSteps (ApiCall.reply_run done)
  | httpGet hostname path buffer maxLen actualLen =>
      obtain ⟨received, ran, same⟩ := Option.map_eq_some_iff.mp done
      obtain ⟨-, rfl⟩ := Prod.mk.inj same
      exact httpGet_steps ran

/-- A program that returns has run the stack by the steps of its calls. -/
theorem Executes.runs {plan : Plan} {m m' : Machine} {result : Option Machine} (executes : Executes plan m result)
    (returned : result = some m') : m.Runs m' := by
  induction executes with
  | returns m =>
      obtain rfl := Option.some.inj returned
      exact .refl m
  | prints text rest ih => exact (Machine.runs_put _ text).trans (ih returned)
  | waits rest ih => exact (Machine.runs_stack (ReflTransGen.single (CallStep.stall _ _))).trans (ih returned)
  | calls done rest ih => exact (Machine.runs_stack (Operation.run_steps done)).trans (ih returned)
  | undefined fails => cases returned

/-- A program leaves the stack as its plan does. -/
theorem Executes.stack {plan : Plan} {m : Machine} {result : Option Machine} (executes : Executes plan m result) :
    result.map Machine.stack = plan.run m.stack := by
  induction executes with
  | returns m => rfl
  | prints text rest ih => exact ih
  | waits rest ih => exact ih
  | calls done rest ih =>
      rw [Plan.run, done]
      exact ih
  | undefined fails =>
      rw [Plan.run, fails]
      rfl

/-- The rest of a program executes a plan. -/
def Follows {Result : Type} (plan : Plan) (m : Machine) (after : Result → Machine) (rest : Option Result) : Prop :=
  Executes plan m (rest.map after)

namespace Follows
open Machine

variable {First Last : Type} {m : Machine} {after : Last → Machine} {choose : NetStack → Operation} {next : Reply → Plan}

theorem stop {result : Last} (same : after result = m) : Follows .stop m after (some result) := by
  rw [Follows, Option.map_some, same]
  exact .returns m

/-- The rest of a program behind outputs that fit. -/
theorem print {plan : Plan} {outputs : List Output} {f : Machine → Option Last} (fits : ∀ output ∈ outputs, output.Fits)
    (rest : ∀ m', m'.stack = m.stack → Follows plan m' after (f m')) : Follows plan m after ((m.print outputs).bind f) := by
  rw [print_eq fits, Option.bind_some]
  exact .prints _ (rest _ rfl)

/-- The rest of a program behind a call. -/
theorem call {Raw : Type} {raw : Option Raw} {reply : Raw → Reply} {stack : Raw → NetStack} {g : Raw → First}
    {f : First → Option Last} (runs : (choose m.stack).run m.stack = raw.map fun raw => (reply raw, stack raw))
    (rest : ∀ returned, raw = some returned →
      Follows (next (reply returned)) { m with stack := stack returned } after (f (g returned))) :
    Follows (.call choose next) m after ((raw.map g).bind f) := by
  cases raw with
  | none => exact .undefined runs
  | some returned => exact .calls runs (rest returned rfl)

section Calls

variable {f : EfiStatus × Machine → Option Last}

theorem initNetwork {boot : Boot} (chosen : choose m.stack = .initNetwork boot)
    (rest : ∀ st stack, Api.initNetwork boot m.stack = some (st, stack) →
      Follows (next { status := st }) { m with stack } after (f (st, { m with stack }))) :
    Follows (.call choose next) m after ((m.initNetwork boot).bind f) :=
  call (by rw [chosen]; rfl) fun returned => rest returned.1 returned.2

theorem initNetworkStatic {boot : Boot} {ip gateway mask dns : UINT32}
    (chosen : choose m.stack = .initNetworkStatic boot ip gateway mask dns)
    (rest : ∀ st stack, Follows (next { status := st }) { m with stack } after (f (st, { m with stack }))) :
    Follows (.call choose next) m after ((m.initNetworkStatic boot ip gateway mask dns).bind f) :=
  call (by rw [chosen]; rfl) fun returned _ => rest returned.1 returned.2

theorem ping {targetIp timeoutMs : UINT32} (chosen : choose m.stack = .call (.ping targetIp timeoutMs))
    (rest : ∀ st stack, Follows (next { status := st }) { m with stack } after (f (st, { m with stack }))) :
    Follows (.call choose next) m after ((m.ping targetIp timeoutMs).bind f) :=
  call (by rw [chosen]; rfl) fun returned _ => rest returned.1 returned.2

theorem tcpConnect {ip : UINT32} {port : UINT16} (chosen : choose m.stack = .call (.tcpConnect ip port))
    (rest : ∀ st stack, Follows (next { status := st }) { m with stack } after (f (st, { m with stack }))) :
    Follows (.call choose next) m after ((m.tcpConnect ip port).bind f) :=
  call (by rw [chosen]; rfl) fun returned _ => rest returned.1 returned.2

theorem tcpSend {data : Bytes} (chosen : choose m.stack = .call (.tcpSend data))
    (rest : ∀ st stack, Follows (next { status := st }) { m with stack } after (f (st, { m with stack }))) :
    Follows (.call choose next) m after ((m.tcpSend data).bind f) :=
  call (by rw [chosen]; rfl) fun returned _ => rest returned.1 returned.2

theorem tcpClose (chosen : choose m.stack = .call .tcpClose)
    (rest : ∀ st stack, Follows (next { status := st }) { m with stack } after (f (st, { m with stack }))) :
    Follows (.call choose next) m after (m.tcpClose.bind f) :=
  call (by rw [chosen]; rfl) fun returned _ => rest returned.1 returned.2

theorem udpSend {destIp : UINT32} {destPort : UINT16} {data : Bytes}
    (chosen : choose m.stack = .call (.udpSend destIp destPort data))
    (rest : ∀ st stack, Follows (next { status := st }) { m with stack } after (f (st, { m with stack }))) :
    Follows (.call choose next) m after ((m.udpSend destIp destPort data).bind f) :=
  call (by rw [chosen]; rfl) fun returned _ => rest returned.1 returned.2

theorem resolveHostname {hostname : CString} {outIp : UINT32} {f : EfiStatus × UINT32 × Machine → Option Last}
    (chosen : choose m.stack = .call (.resolveHostname hostname outIp))
    (rest : ∀ st ip stack,
      Follows (next { status := st, address := ip }) { m with stack } after (f (st, ip, { m with stack }))) :
    Follows (.call choose next) m after ((m.resolveHostname hostname outIp).bind f) :=
  call (by rw [chosen]; rfl) fun returned _ => rest returned.1 returned.2.1 returned.2.2

/-- A call that fills a buffer. -/
theorem receive {fill : NetStack → Option Received} {f : Received × Machine → Option Last}
    (chosen : (choose m.stack).run m.stack = (fill m.stack).map Received.reply)
    (rest : ∀ received, fill m.stack = some received →
      Follows (next received.reply.1) { m with stack := received.stack } after
        (f (received, { m with stack := received.stack }))) :
    Follows (.call choose next) m after ((m.receive fill).bind f) :=
  call chosen rest

end Calls
end Follows

end UefiNetstack
