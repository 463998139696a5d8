import Sockets.Kernel.UnixDomain
import Sockets.Kernel.Internet
import Sockets.Host
import Sockets.Checks

/-!
# The machine the sessions run on

A `World` is the whole machine as the sessions see it: the kernel with its endpoints and the
Unix-domain file system, the scripted delegates by name, and the record of the delegate calls
made so far.

A native call runs in `Native`: it may change the world and may fail; a kernel call that fails
with an error number becomes the OS failure of that number. A native socket is named by its
endpoint's number, so a `Handle` and an endpoint are one thing here.
-/

namespace Sockets

/-- A scripted secure-transport delegate: what it is told to do, and how many sends and
receives it has seen. -/
structure Script where
  /-- The text its records start with: its name as it prints. -/
  label : String := ""
  /-- The hooks that fail, each with the delegate failure it raises. -/
  fail : List (String × DelegateError) := []
  /-- How many sends still ask to retry. -/
  retrySend : Nat := 0
  /-- How many receives still ask to retry (while the socket is readable). -/
  retryRecv : Nat := 0
  /-- The sends, by count from 1, that ask to retry; a count is listed when a listed value
  equals it. -/
  retrySendOn : List Value := []
  /-- The receives, by count from 1, that ask to retry (while the socket is readable). -/
  retryRecvOn : List Value := []
  /-- Whether a send takes nothing, as over a transport that was shut down. -/
  shutdownSend : Bool := false
  /-- The sends seen. -/
  sends : Nat := 0
  /-- The receives seen. -/
  recvs : Nat := 0
  deriving Inhabited

/-- The machine. -/
structure World where
  /-- The kernel. -/
  kernel : Kernel := {}
  /-- The scripted delegates, by the key the sockets know them by. -/
  scripts : List (String × Script) := []
  /-- The delegate calls made, oldest first. -/
  calls : List String := []
  deriving Inhabited

/-- A native call with a result of type `α`. -/
abbrev Native (α : Type) := EStateM Failure World α

namespace Native

/-- Run a kernel call; its error number becomes an OS failure. -/
def kernel {α : Type} (c : Call α) : Native α := fun w =>
  match c w.kernel with
  | .ok a k => .ok a { w with kernel := k }
  | .error n k => .error (Failure.errno n) { w with kernel := k }

/-- Fail unless a check passed. -/
def check {α : Type} : Except Failure α → Native α
  | .ok a => pure a
  | .error f => throw f

/-- The live endpoint behind a native socket. -/
def endpoint (h : Handle) : Native Endpoint := kernel (Call.endpoint h.id)

/-- Record a delegate call. -/
def record (entry : String) : Native Unit :=
  modify fun w => { w with calls := w.calls ++ [entry] }

/-- The descriptor of a native socket, or -1 once it is closed. -/
def fileno (h : Handle) (w : World) : Int :=
  match w.kernel.get? h.id with
  | some e => if e.dead then Limits.invalidDescriptor else
      match e.fd with
      | some fd => fd
      | none => Limits.invalidDescriptor
  | none => Limits.invalidDescriptor

end Native

end Sockets
