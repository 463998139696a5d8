import Sockets.Socket.Basic

/-!
# Making and closing sockets

A socket is made in one of three ways:

* `create` makes a fresh native socket of a family, type and protocol (a Unix-domain socket
  always takes the protocol number 0);
* `fromNative` wraps a native socket that is already connected, given the remote address: a
  Unix-domain address with a path gives a signature for that path, an internet address a
  signature for its host and port;
* `wrapNative` and `adopt` do the same for a native socket or a descriptor number handed in
  by a caller, who must give the remote address.

`close` ends a socket. It runs the delegate's teardown if this socket prepared the delegate,
shuts a listener down, closes the native socket and removes the Unix-domain node the socket
made. Whatever fails, the socket ends closed, neither connected nor listening, with its storage
empty and its signature without host, port, path or security; when two steps fail, the later
failure is the one reported.
-/

namespace Sockets

namespace Socket

variable {σ : Type}

/-- Install a delegate, or remove it. A new delegate is not prepared yet, and a socket with a
delegate reads through the larger buffer of secure transports. -/
def setDelegate (d : Option String) : SocketM σ Unit := do
  change fun s => { s with delegate := d, delegateReady := false }
  if d.isSome then
    change fun s => { s with readBufferSize := Limits.secureReadBufferSize }

/-- Change the size of the buffer handed to native receives; a size below the minimum is
raised to it, and a new buffer must fit in memory. The size now in use. -/
def resizeReadBuffer (size : Value) : SocketM σ Nat := do
  let v ← rethrow (Checks.validateBufferSize size)
  let n := max (v.asInt?.getD 0).toNat Limits.minimumReadBufferSize
  if n ≠ (← current).readBufferSize then
    if (n : Int) ≥ Value.wordLimit then throw Value.indexOverflow
    if (n : Int) > Value.allocationLimit then throw .memory
  change fun s => { s with readBufferSize := n }
  pure n

/-- A socket around a native socket, with a signature and an optional delegate. -/
def wrap (H : Host σ) (h : Handle) (sig : Signature) (connected : Bool) (d : Option String) :
    EStateM Failure σ Socket := fun w =>
  let s : Socket :=
    { native := some h, signature := sig, connected := connected, blocking := H.blocking h w }
  match (setDelegate d : SocketM σ Unit) (s, w) with
  | .ok _ (s', w') => .ok s' w'
  | .error f (_, w') => .error f w'

/-- A fresh unconnected socket of a family, type and protocol. -/
def create (H : Host σ) (family type proto : Value) (d : Option String) :
    EStateM Failure σ Socket := do
  let proto := if family.equals (.int Family.unix.value) then .int Protocol.unix.value else proto
  let sig ← liftExcept (Signature.fromValues family type proto .none)
  let h ← tryCatch (H.create sig.family.value sig.type.value sig.protocol.value) fun f =>
    if f.isOsError then throw (Failure.code .unableToCreateSocket (some f.reason)) else throw f
  wrap H h sig false d
where
  liftExcept {α : Type} : Except Failure α → EStateM Failure σ α
    | .ok a => pure a
    | .error f => throw f

/-- The signature of a connected native socket of a type, from its remote address; `path`, if
given, takes the place of the address's path. -/
def connectedSignature (type : SocketType) (address path : Value) : Except Failure Signature :=
  match address with
  | .addr (.unix p) =>
    let path := if path.truthy then path else p
    if path.truthy then Signature.forPath (.int type.value) (.int Protocol.unix.value) path
    else Signature.fromValues (.int Family.unix.value) (.int type.value)
      (.int Protocol.unix.value) address
  | .addr a =>
    let proto := if type == .stream then Protocol.tcp else Protocol.udp
    let (host, port) := a.hostAndPort?.getD (.none, .none)
    Signature.forEndpoint (.int a.family.value) (.int type.value) (.int proto.value) address
      host port
  | other => .error (.attributeError ("'" ++ other.typeName ++ "' object has no attribute 'family'"))

/-- Wrap a connected native socket, given its remote address and perhaps the path it serves.
If no signature can be made, the native socket is closed. -/
def fromNative (H : Host σ) (h : Handle) (address path : Value) (d : Option String) :
    EStateM Failure σ Socket := do
  let type := (SocketType.ofValue? (.int (H.socketType h (← get)))).getD .stream
  match connectedSignature type address path with
  | .ok sig => wrap H h sig true d
  | .error f => do
    H.close h
    throw f

/-- The refusal of a missing remote address. -/
def missingAddress : Failure :=
  Failure.code .missingConnectionData "Unable to access connection data."

/-- Wrap a connected native socket, given the remote address, which must be present. -/
def wrapNative (H : Host σ) (h : Handle) (address : Value) (d : Option String) :
    EStateM Failure σ Socket := do
  if let .none := address then throw missingAddress
  fromNative H h address .none d

/-- Wrap a connected native socket given by its descriptor number; a missing address is refused
first, and a number that is no socket is a bad descriptor. -/
def adopt (H : Host σ) (fd address : Value) (d : Option String) : EStateM Failure σ Socket := do
  if let .none := address then throw missingAddress
  let h ← match fd.asInt? with
    | some n => tryCatch (H.adopt n) fun f =>
        if f.isOsError then throw (Failure.code .badDescriptor (some f.reason)) else throw f
    | none => throw (.typeError ("'" ++ fd.typeName ++ "' object cannot be interpreted as an integer"))
  fromNative H h address .none d

/-- Shut a listener down and close the native socket, if there is one; a refused shutdown is of
no account. -/
def closeNative (H : Host σ) (native : Option Handle) (listening : Bool) : SocketM σ Unit := do
  if let some h := native then
    if listening then
      let _ ← attempt (sys (H.shutdown h 2))
    sys (H.close h)

/-- Remove the node the socket made, if any; a node that is gone already is of no account. -/
def removeOwnedPath (H : Host σ) : SocketM σ Unit := do
  if let some p := (← current).ownedPath then
    change fun s => { s with ownedPath := none }
    tryCatch (sys (H.unlink p)) fun f =>
      if f.errno? == some Errno.enoent then pure () else throw f

/-- Close the socket; `teardown` asks to undo the delegate's preparation too. -/
def closeWith (H : Host σ) (teardown : Bool) : SocketM σ Unit := do
  let s ← current
  change fun s => { s with native := none }
  let first ← attempt do
    if teardown && s.delegateReady then
      if let some d := s.delegate then
        change fun s => { s with delegateReady := false }
        callDelegate (H.delegates.tearDown d)
  let second ← attempt do
    closeNative H s.native s.listening
    removeOwnedPath H
  change fun s => { s with
    listening := false, connected := false, storage := []
    signature := { s.signature with
      hostname := .none, port := .int Limits.invalidPort, path := .none, isSecure := false } }
  match second, first with
  | .error f, _ => throw f
  | _, .error f => throw f
  | _, _ => pure ()

/-- Close the socket. Closing a closed socket does nothing more. -/
def close (H : Host σ) : SocketM σ Unit := closeWith H true

/-- Let go of a socket that nothing holds any more: its native socket is closed if it is still
open and the node it owns is removed, without telling the delegate; a failure on the way is of
no account. -/
def discard (H : Host σ) : SocketM σ Unit := do
  let _ ← attempt do
    if let some h := (← current).native then
      if H.fileno h (← system) ≥ 0 then sys (H.close h)
  let _ ← attempt (removeOwnedPath H)

end Socket

end Sockets
