import Sockets.Socket.Lifecycle

/-!
# Serving: binding, listening and accepting

* `listen` binds an internet socket to a port on every interface (port 0 lets the system pick
  one) and, for a stream, starts listening. Addresses are always reusable; ports are shared when
  asked; a version 6 socket takes internet-mapped traffic only when asked for both stacks. The
  delegate, if any, is prepared as a server before binding, and a listening stream is secure
  exactly when it has a delegate.
* `listenUnix` binds a Unix-domain socket to a path, removing a stale node first, and owns the
  node from then on.
* `acceptClient` hands a waiting connection out as a new socket that shares the listener's path
  and delegate; `invokeOnAccept` runs the listener's accept hook on it, now or later.
* `acceptConnection` turns the listener itself into the accepted connection.
-/

namespace Sockets

namespace Socket

variable {σ : Type}

/-- Fail unless the socket is a listener that is not connected. -/
def requireListener : SocketM σ Unit := do
  let s ← current
  if s.connected then throw (Failure.code .alreadyConnected)
  if !s.listening then throw (Failure.code .notListening)

/-- Bind to the first of some addresses that takes the binding; the address taken with its
family. -/
def bindFirst (H : Host σ) (h : Handle) : List Resolved → Option Failure →
    SocketM σ (Int × Value)
  | [], last =>
    throw (Failure.code .bindFailed (some ((last.map Failure.reason).getD "No address to bind.")))
  | r :: rest, _ => do
    match ← attempt (sys (H.bind h r.sockaddr)) with
    | .ok _ => pure (r.family, r.sockaddr)
    | .error f => if f.isOsError then bindFirst H h rest (some f) else throw f

/-- The address a native socket is bound to, as an address of its family. -/
def boundAddress (H : Host σ) (h : Handle) (whyUnknown : String) : SocketM σ (Address Value) := do
  let raw ← orCode .bindFailed (sys (H.sockName h))
  let fam := H.family h (← system)
  match ← rethrow (Address.ofSyscall (.int fam) raw) with
  | some a => pure a
  | none => throw (Failure.code .wrongProtocol whyUnknown)

/-- Set an option that sharing ports needs; a system without port sharing is of no account. -/
def sharePorts (H : Host σ) (h : Handle) : SocketM σ Unit :=
  tryCatch (sys (H.setOption h .reusePort (.bool true))) fun f =>
    if f.errno?.any (Limits.reuseportUnsupportedErrnos.contains ·) then pure ()
    else if f.isOsError then throw (Failure.code .setsockoptFailed (some f.reason))
    else throw f

/-- Store a backlog for listening; none keeps the stored one. -/
def keepBacklog (backlog : Value) : SocketM σ Unit :=
  match backlog with
  | .none => pure ()
  | b => change fun s => { s with backlog := b }

/-- Bind to `port` on every interface and, for a stream, listen. `backlog`, unless it is none,
replaces the stored backlog; `reuse` asks to share the port, `dualStack` to take internet-mapped
traffic on a version 6 socket. -/
def listen (H : Host σ) (port backlog reuse dualStack : Value) :
    SocketM σ Unit := do
  let h ← checkDescriptor H
  let s ← current
  if s.connected then throw (Failure.code .alreadyConnected)
  if !(← rethrow (Checks.portOk port true)) then
    throw (Failure.code .invalidPort
      "The port specified is invalid. Must be in the range of 0-65535.")
  let sig := s.signature
  if sig.family == .unix then
    throw (Failure.code .wrongProtocol "Use listen_unix() for Unix-domain sockets.")
  keepBacklog backlog
  setOption H h .reuseAddr (.bool true)
  if reuse.truthy then sharePorts H h
  if sig.family == .inet6 then setOption H h .v6only (.bool !dualStack.truthy)
  if sig.type != .datagram then prepareDelegate H true
  let hints : Hints := { family := sig.family.value, socketType := sig.type.value, passive := true }
  let infos ← orCode .getaddrinfoFailed (sys (H.resolve .none port hints))
  let (fam, sockaddr) ← bindFirst H h infos none
  let unknown := "Unable to determine listening socket protocol family."
  let address ← if port.equals (.int 0) then boundAddress H h unknown
    else rethrow (Address.ofNative sockaddr (.int fam))
  let (host, p) := address.hostAndPort?.getD (.none, .int Limits.invalidPort)
  changeSignature fun g => { g with
    hostname := host, port := p, isBound := true, address := .addr address }
  if sig.type == .datagram then return
  orCode .listenFailed (sys (H.listen h (← current).backlog))
  change fun s => { s with
    listening := true, signature := { s.signature with isSecure := s.delegate.isSome } }

/-- Remove the node at a path, if there is one; any other refusal fails the binding. -/
def clearNode (H : Host σ) (path : Value) : SocketM σ Unit :=
  tryCatch (sys (H.unlink path)) fun f =>
    if f.errno? == some Errno.enoent then pure ()
    else if f.isOsError then throw (Failure.code .bindFailed (some f.reason))
    else throw f

/-- Bind to the Unix-domain node at `path` and, for a stream, listen; the socket owns the node
from then on. `backlog`, unless it is none, replaces the stored backlog. -/
def listenUnix (H : Host σ) (path backlog : Value) : SocketM σ Unit := do
  let h ← checkDescriptor H
  let s ← current
  let sig := s.signature
  if sig.family != .unix then throw (Failure.code .wrongProtocol)
  if s.connected then throw (Failure.code .alreadyConnected)
  keepBacklog backlog
  setOption H h .reuseAddr (.bool true)
  let ns ← rethrow (Signature.forPath (.int sig.type.value) (.int Protocol.unix.value) path)
  clearNode H ns.path
  let target := match ns.address with
    | .addr a => a.forConnection
    | other => other
  orCode .bindFailed (sys (H.bind h target))
  change fun s => { s with ownedPath := some ns.path }
  if sig.type != .datagram then
    orCode .listenFailed (sys (H.listen h (← current).backlog))
    change fun s => { s with listening := true }
  changeSignature fun g => { g with
    path := ns.path, isBound := true, isSecure := false, address := ns.address }

/-- Accept on a native socket, calling again while a signal interrupts the call, at most
`retries` more times; the last call's answer is taken as it is. -/
def acceptRetrying (H : Host σ) (h : Handle) : Nat → EStateM Failure σ (Handle × Value)
  | 0 => H.accept h
  | retries + 1 => tryCatch (H.accept h) fun f =>
    if f.isInterrupted then acceptRetrying H h retries else throw f

/-- Take a waiting connection: its native socket and the peer's address. -/
def acceptNative (H : Host σ) (h : Handle) : SocketM σ (Handle × Address Value) := do
  let (nh, raw) ← orCode .acceptFailed (sys (acceptRetrying H h (H.interruptions h (← system))))
  let fam := H.family nh (← system)
  match ← orCode .acceptFailed (rethrow (Address.ofSyscall (.int fam) raw)) with
  | some a => pure (nh, a)
  | none =>
    sys (H.close nh)
    throw (Failure.code .wrongProtocol "Unable to determine incoming socket protocol family.")

/-- Run the listener's accept hook on a socket that waits for it; the socket, secured and no
longer waiting. -/
def invokeOnAccept (H : Host σ) (target : Socket) : SocketM σ Socket := do
  if !target.awaitingAccept then throw (Failure.code .invalidDelegateCall)
  let target ← match (← current).delegate with
    | some d => do
      callDelegate (H.delegates.onAccept d target.native)
      pure { target with signature := { target.signature with isSecure := true } }
    | none => pure target
  pure { target with awaitingAccept := false }

/-- Accept a waiting connection as a new socket with the listener's path and delegate. With a
delegate, the new socket waits for the accept hook, which runs at once when `invoke` is set; if
the hook fails, the new socket is closed. -/
def acceptClient (H : Host σ) (invoke : Bool) : SocketM σ Socket := do
  let h ← checkDescriptor H
  requireListener
  let (nh, address) ← acceptNative H h
  let s ← current
  let fresh ← sys (fromNative H nh (.addr address) s.signature.path s.delegate)
  if s.delegate.isNone then return fresh
  let fresh := { fresh with awaitingAccept := true }
  if !invoke then return fresh
  match ← attempt (invokeOnAccept H fresh) with
  | .ok done => pure done
  | .error f =>
    let (closed, _) ← within fresh (close H)
    rethrow closed
    throw f

/-- Accept a waiting connection in place of listening: the listener is closed and the socket
becomes the connection, keeping its path. -/
def acceptConnection (H : Host σ) : SocketM σ Unit := do
  let h ← checkDescriptor H
  requireListener
  let (nh, address) ← acceptNative H h
  let path := (← current).signature.path
  let closed ← attempt (closeWith H false)
  change fun s => { s with native := some nh }
  rethrow closed
  let blocking := H.blocking nh (← system)
  change fun s => { s with blocking := blocking }
  changeSignature fun g =>
    let g := { g with address := .addr address, path := path }
    match address.hostAndPort? with
    | some (host, port) => { g with hostname := host, port := port }
    | none => g
  change fun s => { s with connected := true, listening := false, remoteClosed := false }
  secureWith H.delegates.onAccept

end Socket

end Sockets
