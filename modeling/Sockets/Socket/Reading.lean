import Sockets.Socket.Server
import Sockets.Codec

/-!
# Reading

A connected socket reads through its storage. When the storage is empty, a read drains the
connection into it: the first receive may wait (as the blocking mode says), each later one
returns at once, and draining stops at a receive that fills less than the read buffer, at one
that would have to wait, or at the end of the stream, which marks the remote side closed. A
delegate receives in place of the native socket; when it asks to retry, the first receive
waits until the socket is readable and tries again, a later one stops draining.

* `readInto` copies the storage into a buffer of fixed size. Bytes that do not fit stay
  stored when `truncate` is set; otherwise nothing is copied and the failure says how many bytes
  a buffer needs.
* `readData` hands out the whole storage; `readString` decodes it.
* `readDatagramInto` and `readDatagram` receive one datagram whole, with its sender; a datagram
  longer than the read buffer is cut to it. A receive that would have to wait gives nothing
  and no sender.
* `listenForMessage` binds a datagram socket first, if it is not bound yet.
-/

namespace Sockets

namespace Socket

variable {σ : Type}

/-- The most receives one drain of a read makes. The library's own loop has no such bound: it
receives until a receive comes back short. A drain spends this budget only once every receive
filled the read buffer, so only after it stored `receiveRounds` full buffers, at least 64 MiB as
the read buffer holds at least 1024 bytes; a read that receives less never meets it. -/
def receiveRounds : Nat := 65536

/-- The failure that stops a drain: a receive would have to wait. -/
def wouldWait : Failure := Failure.errno Errno.eagain

/-- Receive through the delegate `d`, trying again at most `fuel` times while it asks to
retry; `first` tells whether this is the first receive of a drain. -/
def delegateRecv (H : Host σ) (d : String) (first : Bool) : Nat → SocketM σ (List UInt8)
  | 0 => throw wouldWait
  | fuel + 1 => do
    let s ← current
    match ← attempt (sys (H.delegates.recv d s.native s.readBufferSize)) with
    | .ok data => pure data
    | .error (.delegate e) =>
      if !e.isRetry then throw (.socket e.toSocketError)
      if !first then throw wouldWait
      waitUntil H true false
      delegateRecv H d first fuel
    | .error f => throw f

/-- One receive of a drain into the read buffer. -/
def recvOnce (H : Host σ) (h : Handle) (first : Bool) : SocketM σ (List UInt8) := do
  let s ← current
  match s.delegate with
  | some d => delegateRecv H d first (H.delegates.recvRetries d (← system) + 1)
  | none => sys (H.recv h s.readBufferSize !first)

/-- Drain the connection into the storage, at most `fuel` receives; the size of the storage
afterwards. -/
def drain (H : Host σ) (h : Handle) : Nat → SocketM σ Nat
  | 0 => do pure (← current).storage.length
  | fuel + 1 => do
    let s ← current
    match ← attempt (recvOnce H h s.storage.isEmpty) with
    | .error f =>
      if f.isBlocking then return s.storage.length
      if f.isOsError then throw (streamError f .recvFailed)
      throw f
    | .ok data =>
      if data.isEmpty then
        change fun s => { s with remoteClosed := true }
        return s.storage.length
      change fun s => { s with storage := s.storage ++ data }
      if data.length < s.readBufferSize then return s.storage.length + data.length
      drain H h fuel

/-- The stored bytes, filling the connection in first if nothing is stored; none when the
connection had nothing. -/
def fill (H : Host σ) : SocketM σ Bool := do
  let h ← checkDescriptor H
  if !(← current).connected then throw (Failure.code .notConnected)
  if (← current).storage.isEmpty then
    if (← drain H h receiveRounds) == 0 then return false
  pure true

/-- Take at most `size` stored bytes: all of them when they fit, else the first `size` when
`truncate` is set, else nothing, failing with the size needed. -/
def takeStored (size : Nat) (truncate : Bool) : SocketM σ (List UInt8) := do
  let stored := (← current).storage
  if size < stored.length then
    if !truncate then throw (.socket (SocketError.bufferTooSmall stored.length))
    change fun s => { s with storage := stored.drop size }
    return stored.take size
  change fun s => { s with storage := [] }
  pure stored

/-- Read into `buffer`, at most `nbytes` bytes of it (a false value such as 0: all of it); the
number of bytes read and the buffer afterwards. `nbytes` is compared with 0 and with the size of
the buffer before it cuts the buffer, so it must be comparable with integers and then an index. -/
def readInto (H : Host σ) (buffer : List UInt8) (nbytes : Value) (truncate : Bool) :
    SocketM σ (Nat × List UInt8) := do
  if ← rethrow (nbytes.lt (.int 0)) then throw (.valueError "negative buffersize in read_into")
  if ← rethrow (nbytes.gt (.int buffer.length)) then
    throw (.valueError "buffer too small for requested bytes")
  let size ← if nbytes.truthy then (·.toNat) <$> rethrow (Value.sliceEnd nbytes)
    else pure buffer.length
  if size == 0 then throw (Failure.code .invalidBuffer)
  if !(← fill H) then return (0, buffer)
  let got ← takeStored size truncate
  pure (got.length, got ++ buffer.drop got.length)

/-- Read everything available; the number of bytes and the bytes. -/
def readData (H : Host σ) : SocketM σ (List UInt8) := do
  if !(← fill H) then return []
  takeStored (← current).storage.length true

/-- Read everything available and decode it; none when nothing was read. The bytes are lost if
they do not decode. -/
def readString (H : Host σ) (encoding : Value) : SocketM σ (Option Text) := do
  let data ← readData H
  if data.isEmpty then return none
  some <$> rethrow (Codec.decodeNamed encoding data)

/-- Fail unless the socket is a datagram socket. -/
def requireDatagram : SocketM σ Unit := do
  if (← current).signature.type != .datagram then
    throw (Failure.code .wrongProtocol "This is not a UDP socket.")

/-- Receive one datagram through the read buffer, with its sender's address; nothing and no
sender when it would have to wait. -/
def recvDatagram (H : Host σ) : SocketM σ (List UInt8 × Option (Address Value)) := do
  let h ← checkDescriptor H
  requireDatagram
  let size := (← current).readBufferSize
  match ← attempt (sys (H.recvFrom h size)) with
  | .ok (data, raw) =>
    let w ← system
    let fam : Int := if raw matches .none then -1 else H.family h w
    match Address.ofSyscall (.int fam) raw with
    | .ok a => pure (data, a)
    | .error f => throw f
  | .error f =>
    if f.isBlocking then return ([], none)
    if f.errno?.any (Limits.connectionResetErrnos.contains ·) then
      throw (Failure.code .connectionReset (some f.reason))
    if f.isOsError then throw (Failure.code .recvFailed (some f.reason))
    throw f

/-- Receive one datagram into `buffer`, cutting what does not fit; the number of bytes, the
sender and the buffer afterwards. -/
def readDatagramInto (H : Host σ) (buffer : List UInt8) :
    SocketM σ (Nat × Option (Address Value) × List UInt8) := do
  if buffer.isEmpty then throw (Failure.code .invalidBuffer)
  let (data, a) ← recvDatagram H
  let got := data.take buffer.length
  pure (got.length, a, got ++ buffer.drop got.length)

/-- Receive one datagram whole; its bytes and sender. -/
def readDatagram (H : Host σ) : SocketM σ (List UInt8 × Option (Address Value)) :=
  recvDatagram H

/-- Receive one datagram into `buffer`, binding the datagram socket to `port` first if it is not
bound (with `backlog`, unless it is none, stored); the socket counts as listening from then on. -/
def listenForMessage (H : Host σ) (buffer : List UInt8) (port backlog : Value) :
    SocketM σ (Nat × Option (Address Value) × List UInt8) := do
  if buffer.isEmpty then throw (Failure.code .invalidBuffer)
  let _ ← checkDescriptor H
  requireDatagram
  if !(← current).signature.isBound then listen H port backlog (.bool true) (.bool false)
  if !(← current).signature.isBound then
    throw (Failure.code .listenFailed "Unable to bind the socket.")
  change fun s => { s with listening := true }
  readDatagramInto H buffer

end Socket

end Sockets
