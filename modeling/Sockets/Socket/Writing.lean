import Sockets.Socket.Reading

/-!
# Writing

Text is written as its UTF-8 bytes.

* `write` sends everything on a connection, send after send. A send that would have to wait
  ends the write with what was sent so far when the socket does not block or something was
  sent already; otherwise the write fails. A send that takes nothing means the transport was
  shut down. A delegate sends in place of the native socket; when it asks to retry, the write
  waits until the socket is writable.
* `writeTo` sends one datagram to an address; a datagram that cannot be queued at once counts
  as nothing sent on a socket that does not block.
-/

namespace Sockets

namespace Socket

variable {σ : Type}

/-- The bytes to send for a value: the UTF-8 bytes of text, or the bytes themselves. -/
def payload (data : Value) : Except Failure (List UInt8) :=
  match data with
  | .str t => strictUtf8 t
  | .bytes b => .ok b
  | .bytearray b => .ok b
  | other => .error (.typeError
      ("memoryview: a bytes-like object is required, not '" ++ other.typeName ++ "'"))

/-- Send through the delegate `d`, waiting until writable at most `fuel` times while it asks
to retry. -/
def delegateSend (H : Host σ) (d : String) (data : List UInt8) : Nat → SocketM σ Nat
  | 0 => throw wouldWait
  | fuel + 1 => do
    let s ← current
    match ← attempt (sys (H.delegates.send d s.native data)) with
    | .ok n => pure n
    | .error (.delegate e) =>
      if !e.isRetry then throw (.socket e.toSocketError)
      waitUntil H false true
      delegateSend H d data fuel
    | .error f => throw f

/-- One send of a write. -/
def sendOnce (H : Host σ) (h : Handle) (data : List UInt8) : SocketM σ Nat := do
  match (← current).delegate with
  | some d => delegateSend H d data (H.delegates.sendRetries d (← system) + 1)
  | none => sys (H.send h data)

/-- Send the bytes of `data` after the first `sent`, at most `fuel` sends; the number of bytes
sent in all. -/
def sendAll (H : Host σ) (h : Handle) (data : List UInt8) (sent : Nat) : Nat → SocketM σ Nat
  | 0 => pure sent
  | fuel + 1 => do
    if sent ≥ data.length then return sent
    match ← attempt (sendOnce H h (data.drop sent)) with
    | .error f =>
      if f.isBlocking then
        if !(← current).blocking || sent > 0 then return sent
        throw (Failure.code .writeFailed (some f.reason))
      if f.isOsError then throw (streamError f .writeFailed)
      throw f
    | .ok n =>
      if n == 0 then throw (Failure.code .writeFailed "Transport shutdown")
      sendAll H h data (sent + n) fuel

/-- Send all of `data` on the connection; the number of bytes sent. -/
def write (H : Host σ) (data : Value) : SocketM σ Nat := do
  let bytes ← rethrow (payload data)
  if bytes.isEmpty then return 0
  let h ← checkDescriptor H
  if !(← current).connected then throw (Failure.code .notConnected)
  sendAll H h bytes 0 (bytes.length + 1)

/-- A value as a datagram carries it: text as its UTF-8 bytes, anything else as it is, for the
send to take or refuse. -/
def encodeText (data : Value) : Except Failure Value :=
  match data with
  | .str t => (strictUtf8 t).map .bytes
  | other => .ok other

/-- The bytes a send takes from a value: those of bytes or of a byte array. -/
def sendBuffer (data : Value) : Except Failure (List UInt8) :=
  match data with
  | .bytes b => .ok b
  | .bytearray b => .ok b
  | other => .error (.typeError
      ("a bytes-like object is required, not '" ++ other.typeName ++ "'"))

/-- Send `data` as one datagram to an address; the number of bytes sent. Text is encoded first,
but a value that is neither text nor bytes is refused by the send itself, once the socket and
the address have been checked. -/
def writeTo (H : Host σ) (data address : Value) : SocketM σ Nat := do
  let data ← rethrow (encodeText data)
  let h ← checkDescriptor H
  requireDatagram
  let target ← match address with
    | .addr a => pure a.forConnection
    | other => throw (.attributeError
        ("'" ++ other.typeName ++ "' object has no attribute 'for_connection'"))
  let bytes ← rethrow (sendBuffer data)
  match ← attempt (sys (H.sendTo h bytes target)) with
  | .ok n => pure n
  | .error f =>
    if f.isBlocking then
      if !(← current).blocking then return 0
      throw (Failure.code .writeFailed (some f.reason))
    if f.errno?.any (Limits.connectionResetErrnos.contains ·) then
      throw (Failure.code .connectionReset (some f.reason))
    if f.isOsError then throw (Failure.code .writeFailed (some f.reason))
    throw f

end Socket

end Sockets
