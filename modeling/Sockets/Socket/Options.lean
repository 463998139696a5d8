import Sockets.Socket.Writing
import Sockets.DescriptorSet

/-!
# Options and readiness

* `setBlocking` switches the blocking mode; `setReadTimeout` and `setWriteTimeout` set the
  native timeouts, checking the number of milliseconds before the descriptor; `udpBroadcast`
  allows broadcast on a datagram socket.
* `readiness` tells whether a connection is readable and whether it is writable; bytes in the
  storage make it readable.
* `waitReadable` watches many sockets for data through one descriptor set and `status` checks
  each one, without waiting.
-/

namespace Sockets

namespace Socket

variable {σ : Type}

/-- Make the socket block or not: the flag must be an index that fits a machine word, and any
value but zero blocks. -/
def setBlocking (H : Host σ) (v : Value) : SocketM σ Unit := do
  let h ← checkDescriptor H
  let flag ← rethrow v.toMachineInt
  orCode .setFcntlFailed (sys (H.setBlocking h (flag != 0)))
  change fun s => { s with blocking := v.truthy }

/-- Set a native timeout option to `ms` milliseconds (0 turns it off); a refusal fails with
`code`. -/
def setTimeout (H : Host σ) (opt : SockOpt) (code : ErrorCode) (ms : Value) : SocketM σ Unit := do
  let ms ← rethrow (Checks.validateTimeout ms)
  let h ← checkDescriptor H
  let packed ← rethrow (Checks.packTimeout ms)
  orCode code (sys (H.setOption h opt (.bytes packed)))

/-- Set the receive timeout. -/
def setReadTimeout (H : Host σ) (ms : Value) : SocketM σ Unit :=
  setTimeout H .recvTimeout .setRecvTimeoutFailed ms

/-- Set the send timeout. -/
def setWriteTimeout (H : Host σ) (ms : Value) : SocketM σ Unit :=
  setTimeout H .sendTimeout .setWriteTimeoutFailed ms

/-- Allow or forbid broadcast datagrams. -/
def udpBroadcast (H : Host σ) (enable : Value) : SocketM σ Unit := do
  let h ← checkDescriptor H
  requireDatagram
  setOption H h .broadcast enable

/-- How long a readiness check may wait: without limit, or the given milliseconds. -/
def waitLimit (waitForever : Bool) (timeout : Value) : Except Failure (Option Nat) :=
  if waitForever then .ok none
  else (Checks.validateTimeout timeout).map fun v => some (v.asInt?.getD 0).toNat

/-- Whether a descriptor is readable and whether it is writable, waiting as `waitForever` and
`timeout` say. -/
def pollDescriptor (H : Host σ) (fd : Int) (waitForever : Bool) (timeout : Value) :
    SocketM σ (Bool × Bool) := do
  let limit ← rethrow (waitLimit waitForever timeout)
  pollFor H fd limit true true

/-- Whether the connection is readable and whether it is writable. -/
def readiness (H : Host σ) (waitForever : Bool) (timeout : Value) : SocketM σ (Bool × Bool) := do
  let h ← checkDescriptor H
  if !(← current).connected then throw (Failure.code .notConnected)
  let (r, w) ← pollDescriptor H (H.fileno h (← system)) waitForever timeout
  pure (r || !(← current).storage.isEmpty, w)

/-- The descriptor of a socket, or -1 once it is closed. -/
def descriptor (H : Host σ) (s : Socket) (w : σ) : Int :=
  match s.native with
  | some h => H.fileno h w
  | none => Limits.invalidDescriptor

/-- Why a socket cannot be waited on, if it cannot: a closed socket is a bad descriptor, and one
that is neither connected, listening nor bound is not active. (Every socket has a signature, so
none lacks one.) -/
def waitRefusal (H : Host σ) (w : σ) (s : Socket) : Option Failure :=
  if descriptor H s w == Limits.invalidDescriptor then some (Failure.code .badDescriptor)
  else if !(s.connected || s.listening) && !s.signature.isBound then
    some (Failure.code .notActive)
  else none

/-- The descriptor set a wait selects on: room for `FD_SETSIZE` descriptors at least, and for the
greatest of `fds`, holding every one of them. -/
def watchSet (fds : List Int) : Except Failure DescriptorSet := do
  let s ← DescriptorSet.empty (.int (max (Limits.fdSetSize : Int) (fds.max?.getD (-1) + 1)))
  (fds.map Value.int).foldlM DescriptorSet.add s

/-- Select the members of `set` that are ready for reading, waiting as `limit` says; the set
rewritten to hold the ready ones only, as the native binding does: cleared, then each ready
descriptor added back. -/
def selectReady (H : Host σ) (set : DescriptorSet) (limit : Option Nat) :
    EStateM Failure σ DescriptorSet := do
  let (ready, _) ← H.select (set.toList.map Int.ofNat) [] limit
  match (ready.map Value.int).foldlM DescriptorSet.add set.clear with
  | .ok s => pure s
  | .error f => throw f

/-- Wait until some of the sockets have data to read; the positions of those that do, in order,
or none when none did in time. Every socket must be open and connected, listening or bound. A
socket with stored bytes is ready at once and stops the wait. The descriptors are watched
through a descriptor set large enough for all of them; an OS error or a value error of the
selection is "select failed". -/
def waitReadable (H : Host σ) (socks : List Socket) (timeout : Value) (waitForever : Bool) :
    EStateM Failure σ (Option (List Nat)) := do
  let w ← get
  if let some f := socks.findSome? (waitRefusal H w) then throw f
  let limit ← match waitLimit waitForever timeout with
    | .ok l => pure l
    | .error f => throw f
  let limit := if socks.any (!·.storage.isEmpty) then some 0 else limit
  let watched ← match watchSet (socks.map fun s => descriptor H s w) with
    | .ok set => pure set
    | .error f => throw f
  let ready ← tryCatch (selectReady H watched limit) fun f =>
    if f.isOsError || f.isValueError then throw (Failure.code .selectFailed (some f.reason))
    else throw f
  let positions := (List.range socks.length).filter fun i =>
    match socks[i]? with
    | some s => !s.storage.isEmpty || ready.mem (.int (descriptor H s w))
    | none => false
  pure (if positions.isEmpty then none else some positions)

/-- Whether each socket is readable and whether it is writable, checked one after another
without waiting; the positions, counted from `i`, of the readable ones and of the writable
ones. -/
def statusFrom (H : Host σ) (i : Nat) : List Socket → EStateM Failure σ (List Nat × List Nat)
  | [] => pure ([], [])
  | s :: rest => fun w =>
    match readiness H false (.int 0) (s, w) with
    | .error f (_, w') => .error f w'
    | .ok (r, wr) (_, w') =>
      match statusFrom H (i + 1) rest w' with
      | .error f w'' => .error f w''
      | .ok (rs, ws) w'' => .ok (if r then i :: rs else rs, if wr then i :: ws else ws) w''

/-- Whether each socket is readable and whether it is writable, checked without waiting; the
positions of the readable ones and of the writable ones, in order. -/
def status (H : Host σ) (socks : List Socket) : EStateM Failure σ (List Nat × List Nat) :=
  statusFrom H 0 socks

end Socket

end Sockets
