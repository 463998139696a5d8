import Mathlib.Tactic.Simps.Basic
import Sockets.Proofs.Outcome

/-!
# A host that writes down every call

`Host.tracing H` is the host `H` with a trace: it runs every call as `H` does and writes down one
`HostCall` for it, in order, whether the call returns or fails. A `HostCall` names the call with the
arguments a property of the library speaks of; for the calls whose answer such a property reads
(undoing a delegate's preparation, closing a native socket, unlinking a node, sending, waiting
for readiness), it also holds the answer.

So a program run on `H.tracing` leaves in the trace exactly the calls it made: a trace that did
not grow means that no call was made at all, and the order of the entries is the order of the
calls. Since `H` is any host, a property stated on `H.tracing` holds for every behaviour of the
system and the delegates.
-/

namespace Sockets

/-- A call of the system or of a delegate, as a tracing host writes it down. -/
inductive HostCall where
  /-- A native socket was made. -/
  | create (family type proto : Int)
  /-- The native socket of a descriptor was taken over. -/
  | adopt (fd : Int)
  /-- A native socket was closed; the answer. -/
  | close (h : Handle) (answer : Except Failure Unit)
  /-- A native socket was shut down. -/
  | shutdown (h : Handle) (how : Nat)
  /-- A native socket was made to block or not. -/
  | setBlocking (h : Handle) (flag : Bool)
  /-- An option was set. -/
  | setOption (h : Handle) (opt : SockOpt)
  /-- A native socket was bound. -/
  | bind (h : Handle)
  /-- A native socket was made to listen. -/
  | listen (h : Handle)
  /-- A connection was accepted. -/
  | accept (h : Handle)
  /-- A native socket was connected. -/
  | connect (h : Handle)
  /-- The bound address was asked for. -/
  | sockName (h : Handle)
  /-- The pending error was read. -/
  | pendingError (h : Handle)
  /-- A stream receive, with the room it was given. -/
  | recv (h : Handle) (size : Nat) (nowait : Bool)
  /-- A datagram receive, with the room it was given. -/
  | recvFrom (h : Handle) (size : Nat)
  /-- A send of bytes; the answer. -/
  | send (h : Handle) (data : List UInt8) (answer : Except Failure Nat)
  /-- A datagram was sent. -/
  | sendTo (h : Handle) (data : List UInt8)
  /-- Readiness was asked for; the answer. -/
  | select (readable writable : List Int) (answer : Except Failure (List Int × List Int))
  /-- A node was unlinked; the answer. -/
  | unlink (path : Value) (answer : Except Failure Unit)
  /-- A host name was resolved. -/
  | resolve
  /-- A delegate was asked to prepare. -/
  | setUp (d : String) (asServer : Bool)
  /-- A delegate was asked to undo its preparation; the answer. -/
  | tearDown (d : String) (answer : Except Failure Unit)
  /-- A delegate's accept hook ran. -/
  | onAccept (d : String)
  /-- A delegate's connect hook ran. -/
  | onConnect (d : String)
  /-- A delegate was asked to send bytes; the answer. -/
  | delegateSend (d : String) (data : List UInt8) (answer : Except Failure Nat)
  /-- A delegate was asked to receive. -/
  | delegateRecv (d : String) (size : Nat)

namespace Host

variable {σ α : Type}

/-- A call run with a trace: it writes down `entry` of its answer. -/
def traced (act : EStateM Failure σ α) (entry : Except Failure α → HostCall) :
    EStateM Failure (σ × List HostCall) α := fun (w, trace) =>
  match act w with
  | .ok a w' => .ok a (w', trace ++ [entry (.ok a)])
  | .error e w' => .error e (w', trace ++ [entry (.error e)])

section Answered

variable {act : EStateM Failure σ α} {entry : Except Failure α → HostCall} {w w' : σ}

/-- A traced call that returns writes its answer down. -/
theorem traced_of_ok {a : α} (hact : act w = .ok a w') (trace : List HostCall) :
    traced act entry (w, trace) = .ok a (w', trace ++ [entry (.ok a)]) := by
  simp [traced, hact]

/-- A traced call that fails writes its failure down. -/
theorem traced_of_error {e : Failure} (hact : act w = .error e w') (trace : List HostCall) :
    traced act entry (w, trace) = .error e (w', trace ++ [entry (.error e)]) := by
  simp [traced, hact]

end Answered

/-- The host `H`, writing down every call it is asked to make. -/
@[simps]
def tracing (H : Host σ) : Host (σ × List HostCall) where
  fileno h w := H.fileno h w.1
  family h w := H.family h w.1
  socketType h w := H.socketType h w.1
  blocking h w := H.blocking h w.1
  interruptions h w := H.interruptions h w.1
  create family type proto := traced (H.create family type proto) fun _ => .create family type proto
  adopt fd := traced (H.adopt fd) fun _ => .adopt fd
  close h := traced (H.close h) (.close h)
  shutdown h how := traced (H.shutdown h how) fun _ => .shutdown h how
  setBlocking h flag := traced (H.setBlocking h flag) fun _ => .setBlocking h flag
  setOption h opt v := traced (H.setOption h opt v) fun _ => .setOption h opt
  bind h address := traced (H.bind h address) fun _ => .bind h
  listen h backlog := traced (H.listen h backlog) fun _ => .listen h
  accept h := traced (H.accept h) fun _ => .accept h
  connect h address := traced (H.connect h address) fun _ => .connect h
  sockName h := traced (H.sockName h) fun _ => .sockName h
  pendingError h := traced (H.pendingError h) fun _ => .pendingError h
  recv h size nowait := traced (H.recv h size nowait) fun _ => .recv h size nowait
  recvFrom h size := traced (H.recvFrom h size) fun _ => .recvFrom h size
  send h data := traced (H.send h data) (.send h data)
  sendTo h data address := traced (H.sendTo h data address) fun _ => .sendTo h data
  select r w wait := traced (H.select r w wait) (.select r w)
  unlink path := traced (H.unlink path) (.unlink path)
  resolve host port hints := traced (H.resolve host port hints) fun _ => .resolve
  delegates :=
    { setUp := fun d asServer => traced (H.delegates.setUp d asServer) fun _ => .setUp d asServer
      tearDown := fun d => traced (H.delegates.tearDown d) (.tearDown d)
      onAccept := fun d h => traced (H.delegates.onAccept d h) fun _ => .onAccept d
      onConnect := fun d h => traced (H.delegates.onConnect d h) fun _ => .onConnect d
      send := fun d h data => traced (H.delegates.send d h data) (.delegateSend d data)
      recv := fun d h size => traced (H.delegates.recv d h size) fun _ => .delegateRecv d size
      sendRetries := fun d w => H.delegates.sendRetries d w.1
      recvRetries := fun d w => H.delegates.recvRetries d w.1 }

end Host

namespace Socket

open Host

variable {σ α : Type} {st : Socket × (σ × List HostCall)}
  {ok : α → Socket × (σ × List HostCall) → Prop}
  {err : Failure → Socket × (σ × List HostCall) → Prop}

/-- A traced call ends as the call does, with its entry written down. -/
theorem ends_sys_traced (act : EStateM Failure σ α) (entry : Except Failure α → HostCall) :
    Ends (sys (traced act entry)) st ok err =
      ((∀ a w, act st.2.1 = .ok a w → ok a (st.1, (w, st.2.2 ++ [entry (.ok a)]))) ∧
        ∀ e w, act st.2.1 = .error e w → err e (st.1, (w, st.2.2 ++ [entry (.error e)]))) := by
  obtain ⟨s, w, trace⟩ := st
  simp only [ends_sys, traced]
  cases act w <;> simp

end Socket

end Sockets
