import Sockets.Socket.Server

/-!
# Connecting

* `connect` resolves a host and port and tries each address of a family it knows in turn with a
  fresh native socket (a trial); the first trial that connects replaces the socket's native
  socket, and the signature becomes that of the endpoint reached. When no trial connects, the
  last trial's failure is the reason. With a timeout, a trial that is still connecting is given
  that many milliseconds.
* `connectUnix` connects a Unix-domain socket to the node at a path.
* `connectUsing` connects to what a signature describes: its path first, then its host and
  port, then its resolved address.
* `createConnected` makes a socket for a signature and connects it, closing it if that fails.

A connection made through `connect` or a resolved address is secured by the delegate's connect
hook; the delegate is prepared as a client before the first attempt.
-/

namespace Sockets

namespace Socket

variable {σ : Type}

/-- Connect a trial native socket to an address, within `timeout` milliseconds when it is
positive; a trial of a non-blocking socket, or one with a timeout, does not block. -/
def connectTrial (H : Host σ) (trial : Handle) (sockaddr : Value) (timeout : Int) :
    SocketM σ Unit := do
  if !(← current).blocking || timeout > 0 then sys (H.setBlocking trial false)
  match ← attempt (sys (H.connect trial sockaddr)) with
  | .ok _ => pure ()
  | .error f =>
    if !f.isBlocking then throw f
    if timeout ≤ 0 then return
    let (_, writable) ← pollFor H (H.fileno trial (← system)) (some timeout.toNat) false true
    if !writable then throw (Failure.code .connectTimeout "Connection timed out")
    if H.fileno trial (← system) ≥ 0 then
      let err ← sys (H.pendingError trial)
      if err != 0 then throw (Failure.errno err)

/-- Try the resolved addresses in turn, passing over those of a family the library does not
know; the first trial that connects, with its address. `last` is the failure of the trial
before. -/
def firstConnection (H : Host σ) (timeout : Int) : List Resolved → Option Failure →
    SocketM σ (Handle × Resolved)
  | [], last =>
    throw (Failure.code .connectFailed (some ((last.map Failure.reason).getD "No address found.")))
  | r :: rest, last =>
    if !r.known then firstConnection H timeout rest last else do
    match ← attempt (sys (H.create r.family r.socketType r.protocol)) with
    | .error f => if f.isOsError then firstConnection H timeout rest (some f) else throw f
    | .ok trial =>
      match ← attempt (connectTrial H trial r.sockaddr timeout) with
      | .ok _ => pure (trial, r)
      | .error f =>
        sys (H.close trial)
        if f.isOsError then firstConnection H timeout rest (some f) else throw f

/-- Connect to `host` at `port`, each trial within `timeout` milliseconds (0 follows the
blocking mode). -/
def connect (H : Host σ) (host port timeout : Value) : SocketM σ Unit := do
  let _ ← checkDescriptor H
  let s ← current
  if s.connected then throw (Failure.code .alreadyConnected)
  if !host.truthy then throw (Failure.code .invalidHostname)
  if !(← rethrow (Checks.portOk port false)) then
    throw (Failure.code .invalidPort
      "The port specified is invalid. Must be in the range of 1-65535.")
  let timeout := ((← rethrow (Checks.validateTimeout timeout)).asInt?).getD 0
  prepareDelegate H false
  let type := s.signature.type
  let infos ← tryCatch (sys (H.resolve host port { socketType := type.value })) fun f =>
    if f.isOsError || f.isUnicodeError then
      throw (Failure.code .getaddrinfoFailed (some f.reason))
    else throw f
  let (trial, r) ← firstConnection H timeout infos none
  let address ← rethrow (Address.ofNative r.sockaddr (.int r.family))
  let proto := if r.protocol != 0 then r.protocol
    else if type == .stream then Protocol.tcp.value else Protocol.udp.value
  let closed ← attempt (closeWith H false)
  change fun s => { s with native := some trial }
  rethrow closed
  let sig ← rethrow (Signature.forEndpoint (.int r.family) (.int r.socketType)
    (.int proto) (.addr address) host port)
  change fun s => { s with signature := sig }
  if (← current).blocking && timeout > 0 then sys (H.setBlocking trial true)
  change fun s => { s with connected := true, remoteClosed := false }
  secureWith H.delegates.onConnect

/-- Connect a Unix-domain socket to the node at `path`. -/
def connectUnix (H : Host σ) (path : Value) : SocketM σ Unit := do
  let h ← checkDescriptor H
  let s ← current
  if s.signature.family != .unix then throw (Failure.code .wrongProtocol)
  if s.connected then throw (Failure.code .alreadyConnected)
  let sig ← rethrow
    (Signature.forPath (.int s.signature.type.value) (.int Protocol.unix.value) path)
  orCode .connectFailed (sys (H.connect h path))
  change fun s => { s with signature := sig, connected := true, remoteClosed := false }

/-- Connect to the endpoint a signature describes: its path, else its host and port, else its
resolved address. -/
def connectUsing (H : Host σ) (g : Signature) : SocketM σ Unit := do
  let h ← checkDescriptor H
  if !(g.path matches .none) then return (← connectUnix H g.path)
  if !(g.hostname matches .none) && !g.port.equals (.int Limits.invalidPort) then
    return (← connect H g.hostname g.port (.int 0))
  let address := g.address
  if address matches .none then
    throw (Failure.code .missingConnectionData "Unable to access connection data.")
  if (← current).connected then throw (Failure.code .alreadyConnected)
  prepareDelegate H false
  let target ← match address with
    | .addr a => pure a.forConnection
    | other => throw (.attributeError
        ("'" ++ other.typeName ++ "' object has no attribute 'for_connection'"))
  orCode .connectFailed (sys (H.connect h target))
  let sig := match address with
    | .addr a => match a.hostAndPort? with
      | some (host, port) => { g with hostname := host, port := port }
      | none => g
    | _ => g
  change fun s => { s with signature := sig, connected := true, remoteClosed := false }
  secureWith H.delegates.onConnect

/-- A socket made for a signature and connected to what it describes; if connecting fails, the
socket is closed. -/
def createConnected (H : Host σ) (g : Signature) (d : Option String) :
    EStateM Failure σ Socket := do
  let s ← create H (.int g.family.value) (.int g.type.value) (.int g.protocol.value) d
  fun w =>
    match (connectUsing H g : SocketM σ Unit) (s, w) with
    | .ok _ (s', w') => .ok s' w'
    | .error f (s', w') =>
      match (close H : SocketM σ Unit) (s', w') with
      | .ok _ (_, w'') => .error f w''
      | .error f' (_, w'') => .error f' w''

end Socket

end Sockets
