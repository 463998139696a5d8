import Sockets.Host
import Sockets.Signature
import Sockets.Checks
import Sockets.Value.Conversion

/-!
# Sockets

A `Socket` wraps a native socket and adds what the library keeps of its own: its `Signature`,
whether it is connected or listening, its blocking mode, an optional secure-transport delegate,
and a read storage of bytes received but not yet handed out.

An operation on a socket runs in `SocketM σ`: it reads and changes the socket and the system
`σ`, and may fail. Whatever it changed before failing stays changed, as the sockets of the
library keep their state when an error escapes.

The common steps of the operations live here:

* `checkDescriptor`: the native socket must be open, else "bad descriptor";
* `callDelegate`: a delegate's own failure becomes a socket failure with the delegate's code and
  reason;
* `streamError`: an OS error of a stream becomes "connection reset" (broken pipe, reset), "bad
  descriptor" (bad or non-socket descriptor), "not connected" (not connected, invalid argument)
  or the operation's own code, with the error's text as reason.
-/

namespace Sockets

/-- A socket of the library. -/
structure Socket where
  /-- The native socket; none once closed. -/
  native : Option Handle
  /-- What the socket is and what is known of its endpoint. -/
  signature : Signature
  /-- The name of the secure-transport delegate. -/
  delegate : Option String := none
  /-- Whether this socket has initialized its delegate. -/
  delegateReady : Bool := false
  /-- Whether an accepted socket still waits for the delegate's accept hook. -/
  awaitingAccept : Bool := false
  /-- Whether the socket is connected. -/
  connected : Bool := false
  /-- Whether the socket listens. -/
  listening : Bool := false
  /-- Whether the socket blocks. -/
  blocking : Bool := true
  /-- Whether a read saw the end of the stream. -/
  remoteClosed : Bool := false
  /-- The size of the buffer handed to native receives. -/
  readBufferSize : Nat := Limits.defaultReadBufferSize
  /-- Bytes received and not handed out yet. -/
  storage : List UInt8 := []
  /-- The backlog for listening, as given. -/
  backlog : Value := .int Limits.defaultBacklog
  /-- The Unix-domain node the socket made and removes when it closes. -/
  ownedPath : Option Value := none
  deriving Inhabited

/-- An operation on a socket over a system state `σ`. -/
abbrev SocketM (σ : Type) := EStateM Failure (Socket × σ)

namespace Socket

variable {σ : Type}

/-- Run a system call inside a socket operation. -/
def sys {α : Type} (act : EStateM Failure σ α) : SocketM σ α := fun (s, w) =>
  match act w with
  | .ok a w' => .ok a (s, w')
  | .error e w' => .error e (s, w')

/-- The socket. -/
def current : SocketM σ Socket := fun (s, w) => .ok s (s, w)

/-- The system state. -/
def system : SocketM σ σ := fun (s, w) => .ok w (s, w)

/-- Change the socket. -/
def change (f : Socket → Socket) : SocketM σ Unit := fun (s, w) => .ok () (f s, w)

/-- Change the signature. -/
def changeSignature (f : Signature → Signature) : SocketM σ Unit :=
  change fun s => { s with signature := f s.signature }

/-- The native socket, which must be open. -/
def checkDescriptor (H : Host σ) : SocketM σ Handle := do
  let s ← current
  match s.native with
  | some h => if H.fileno h (← system) < 0 then throw (Failure.code .badDescriptor) else pure h
  | none => throw (Failure.code .badDescriptor)

/-- Run a delegate hook: the delegate's own failure becomes a socket failure. -/
def callDelegate {α : Type} (act : EStateM Failure σ α) : SocketM σ α :=
  tryCatch (sys act) fun f =>
    match f with
    | .delegate e => throw (.socket e.toSocketError)
    | other => throw other

/-- Prepare the delegate, if any, as server or client. -/
def prepareDelegate (H : Host σ) (asServer : Bool) : SocketM σ Unit := do
  if let some d := (← current).delegate then
    callDelegate (H.delegates.setUp d asServer)
    change fun s => { s with delegateReady := true }

/-- Run the hook of this socket's delegate, if any, on a native socket; the connection it served
is secure afterwards. -/
def secureWith (hook : String → Option Handle → EStateM Failure σ Unit) : SocketM σ Unit := do
  let s ← current
  if let some d := s.delegate then
    callDelegate (hook d s.native)
    changeSignature fun g => { g with isSecure := true }

/-- Run an operation and keep its failure as a value. -/
def attempt {α : Type} (op : SocketM σ α) : SocketM σ (Except Failure α) :=
  tryCatch (Except.ok <$> op) fun f => pure (.error f)

/-- Fail with a failure kept as a value. -/
def rethrow {α : Type} : Except Failure α → SocketM σ α
  | .ok a => pure a
  | .error f => throw f

/-- Run an operation on another socket: its result, or its failure, and that socket as the
operation left it. -/
def within {α : Type} (t : Socket) (op : SocketM σ α) : SocketM σ (Except Failure α × Socket) :=
  fun (s, w) =>
    match op (t, w) with
    | .ok a (t', w') => .ok (.ok a, t') (s, w')
    | .error f (t', w') => .ok (.error f, t') (s, w')

/-- The socket failure of an OS error on a stream. -/
def streamError (f : Failure) (fallback : ErrorCode) : Failure :=
  let n := f.errno?
  let code :=
    if n.any (Limits.connectionResetErrnos.contains ·) then ErrorCode.connectionReset
    else if n.any (Limits.closedSocketErrnos.contains ·) then ErrorCode.badDescriptor
    else if n.any (Limits.notConnectedErrnos.contains ·) then ErrorCode.notConnected
    else fallback
  Failure.code code (some f.reason)

/-- A failure of `op` that is an OS error becomes a socket failure with a code. -/
def orCode {α : Type} (code : ErrorCode) (op : SocketM σ α) : SocketM σ α :=
  tryCatch op fun f => if f.isOsError then throw (Failure.code code (some f.reason)) else throw f

/-- Wait, without limit or at most `wait` milliseconds, for a descriptor to become readable (`read`) or writable
(`write`); whether it became readable, and whether writable. -/
def pollFor (H : Host σ) (fd : Int) (wait : Option Nat) (read write : Bool) :
    SocketM σ (Bool × Bool) := do
  let (r, w) ← orCode .selectFailed (sys (H.select (if read then [fd] else [])
    (if write then [fd] else []) wait))
  pure (read && r.contains fd, write && w.contains fd)

/-- Wait until the native socket is readable or writable. -/
def waitUntil (H : Host σ) (readable writable : Bool) : SocketM σ Unit := do
  let h ← checkDescriptor H
  let _ ← pollFor H (H.fileno h (← system)) none readable writable

/-- Set a socket option; a refusal is "setsockopt failed". -/
def setOption (H : Host σ) (h : Handle) (opt : SockOpt) (v : Value) : SocketM σ Unit :=
  orCode .setsockoptFailed (sys (H.setOption h opt v))

end Socket

end Sockets
