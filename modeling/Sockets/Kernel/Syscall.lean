import Sockets.Kernel.UnixDomain
import Sockets.Kernel.Internet
import Sockets.Address

/-!
# The system call interface

The calls a process makes on sockets, each sent to the Unix-domain or the internet protocols by
the endpoint's family. Endpoints are named by their numbers; a descriptor number is looked up
only where a process hands one in (`byDescriptor`, `select`).

Socket options arrive as a machine integer or as a buffer of bytes. Flags take an integer, or a
buffer of at least four bytes; the timeouts take a buffer of sixteen bytes (seconds and
microseconds), the microseconds below a million; a negative time turns the timeout off.
Refusing internet-mapped traffic can only be chosen before binding, and only on a version 6
socket.
-/

namespace Sockets

/-- The value a socket option is set to. -/
inductive OptionValue where
  /-- A machine integer. -/
  | flag (n : Int)
  /-- A buffer of bytes. -/
  | buffer (b : List UInt8)
  deriving Inhabited

namespace Syscall

open Call

/-- A signed number from its little-endian bytes. -/
def signedLe (bs : List UInt8) : Int :=
  let u := readLe bs
  if bs.length > 0 && u ≥ Nat.pow 2 (8 * bs.length - 1) then (u : Int) - Int.pow 2 (8 * bs.length)
  else u

/-- Make a socket of a family, type and protocol, with a new descriptor; its number. -/
def socket (family type proto : Int) : Call Nat := do
  let some fam := Family.all.find? (·.value == family) | throw eafnosupport
  let some ty := SocketType.all.find? (·.value == type) | throw einval
  let allowed : List Int := match fam, ty with
    | .unix, _ => [0, 1]
    | _, .stream => [0, 6]
    | _, .datagram => [0, 17]
  if !allowed.contains proto then throw eprotonosupport
  let (id, k) := (← get).add { family := fam, type := ty, protocol := proto }
  let (_, k) := k.assignFd id
  set k
  pure id

/-- Make two Unix-domain sockets of a type connected to each other; their numbers. -/
def socketPair (type : SocketType) : Call (Nat × Nat) := do
  let (a, k) := (← get).add { family := .unix, type := type, protocol := 0 }
  let (b, k) := k.add { family := .unix, type := type, protocol := 0, peer := some a }
  let k := k.modify a fun e => { e with peer := some b }
  let (_, k) := k.assignFd a
  let (_, k) := k.assignFd b
  set k
  pure (a, b)

/-- The endpoint a process holds under a descriptor number. -/
def byDescriptor (fd : Nat) : Call Nat := do
  match (← get).byFd? fd with
  | some id => pure id
  | none => throw ebadf

/-- Close an endpoint; closing a closed one does nothing. -/
def close (id : Nat) : Call Unit := do
  let e ← anyEndpoint id
  if e.dead then return
  match e.family with
  | .unix => UnixDomain.release id false ((← get).endpoints.length + 1)
  | _ => Internet.release id

/-- Shut down receiving (`how` 0), sending (1) or both (2). -/
def shutdown (id how : Nat) : Call Unit := do
  let e ← endpoint id
  match e.family with
  | .unix => UnixDomain.shutdown id how
  | _ => Internet.shutdown id how

/-- Make an endpoint block or not. -/
def setBlocking (id : Nat) (blocking : Bool) : Call Unit := do
  let _ ← endpoint id
  update id fun e => { e with nonblocking := !blocking }

/-- The integer a flag option is set to. -/
def flagOf : OptionValue → Call Int
  | .flag n => pure n
  | .buffer b => if b.length < 4 then throw einval else pure (signedLe (b.take 4))

/-- A timeout option in milliseconds. -/
def timeoutOf : OptionValue → Call Nat
  | .flag _ => throw einval
  | .buffer b => do
    if b.length < 16 then throw einval
    let secs := signedLe (b.take 8)
    let micros := signedLe ((b.drop 8).take 8)
    if micros < 0 || micros ≥ 1000000 then throw edom
    pure (if secs < 0 then 0 else (secs * 1000 + micros / 1000).toNat)

/-- Set a socket option. -/
def setOption (id : Nat) (opt : SockOpt) (v : OptionValue) : Call Unit := do
  let e ← endpoint id
  match opt with
  | .reuseAddr => let n ← flagOf v; update id fun e => { e with reuseAddr := n != 0 }
  | .reusePort => let n ← flagOf v; update id fun e => { e with reusePort := n != 0 }
  | .broadcast => let n ← flagOf v; update id fun e => { e with broadcast := n != 0 }
  | .v6only =>
    if e.family == .unix then throw eopnotsupp
    if e.family != .inet6 then throw enoprotoopt
    let n ← flagOf v
    if e.name.isSome then throw einval
    update id fun e => { e with v6only := n != 0 }
  | .recvTimeout => let ms ← timeoutOf v; update id fun e => { e with recvTimeout := ms }
  | .sendTimeout => let ms ← timeoutOf v; update id fun e => { e with sendTimeout := ms }

/-- Bind to an address. -/
def bind (id : Nat) (a : SockAddr) : Call Unit := do
  let e ← endpoint id
  match e.family, a with
  | .unix, .unix path => UnixDomain.bind id path
  | .unix, _ => throw einval
  | _, _ => Internet.bind id a

/-- Listen with a backlog. -/
def listen (id backlog : Nat) : Call Unit := do
  let e ← endpoint id
  match e.family with
  | .unix => UnixDomain.listen id backlog
  | _ => Internet.listen id backlog

/-- Accept a connection: the new endpoint, with a descriptor, and its peer's name. -/
def accept (id : Nat) : Call (Nat × Option SockAddr) := do
  let e ← endpoint id
  match e.family with
  | .unix =>
    let child ← UnixDomain.accept id
    let (_, k) := (← get).assignFd child
    set k
    let c ← anyEndpoint child
    let peerName ← match c.peer with
      | some p => pure (← anyEndpoint p).name
      | none => pure none
    pure (child, peerName)
  | _ =>
    let child ← Internet.accept id
    pure (child, none)

/-- Connect to an address. -/
def connect (id : Nat) (a : SockAddr) : Call Unit := do
  let e ← endpoint id
  match e.family, e.type, a with
  | .unix, .stream, .unix path => UnixDomain.connectStream id path
  | .unix, .datagram, .unix path => UnixDomain.connectDatagram id path
  | .unix, _, _ => throw einval
  | _, _, _ => Internet.connect id a

/-- The name an endpoint is bound to, if any. -/
def sockName (id : Nat) : Call (Option SockAddr) := do
  pure (← endpoint id).name

/-- Read and clear the pending error. -/
def pendingError (id : Nat) : Call Nat := do
  let e ← endpoint id
  update id fun e => { e with error := 0 }
  pure e.error

/-- Receive at most `size` bytes and the sender's name; `dontWait` asks not to wait. -/
def recvFrom (id size : Nat) (dontWait : Bool) : Call (List UInt8 × Option SockAddr) := do
  let e ← endpoint id
  match e.family, e.type with
  | .unix, .stream => do pure (← UnixDomain.recvStream id size, none)
  | .unix, .datagram => UnixDomain.recvDatagram id size dontWait
  | _, .stream => throw enotconn
  | _, .datagram => do
    let (data, from_) ← Internet.recvFrom id dontWait
    pure (data.take size, from_)

/-- Send bytes on a connected endpoint; the number of bytes sent. -/
def send (id : Nat) (data : List UInt8) : Call Nat := do
  let e ← endpoint id
  match e.family, e.type with
  | .unix, .stream => UnixDomain.sendStream id data
  | .unix, .datagram => UnixDomain.sendDatagram id data none
  | _, .stream => throw epipe
  | _, .datagram => throw edestaddrreq

/-- Send bytes to an address; the number of bytes sent. -/
def sendTo (id : Nat) (data : List UInt8) (a : SockAddr) : Call Nat := do
  let e ← endpoint id
  match e.family, e.type, a with
  | .unix, .datagram, .unix path => UnixDomain.sendDatagram id data (some path)
  | .unix, .stream, _ => throw (if e.peer.isSome then eisconn else eopnotsupp)
  | .unix, _, _ => throw einval
  | _, .stream, _ => throw epipe
  | _, .datagram, _ => Internet.sendTo id data a

/-- Whether an endpoint is readable and whether it is writable. -/
def readiness (id : Nat) : Call (Bool × Bool) := do
  let e ← endpoint id
  match e.family with
  | .unix => UnixDomain.readiness id
  | _ => Internet.readiness id

/-- The descriptors of each list that are ready for reading, and for writing. -/
def select (readers writers : List Nat) : Call (List Nat × List Nat) := do
  let rs ← readers.filterM fun fd => do
    let id ← byDescriptor fd
    pure (← readiness id).1
  let ws ← writers.filterM fun fd => do
    let id ← byDescriptor fd
    pure (← readiness id).2
  pure (rs, ws)

end Syscall

end Sockets
