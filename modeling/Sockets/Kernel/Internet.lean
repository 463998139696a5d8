import Sockets.Kernel.Call

/-!
# Internet sockets without a network

The machine has no working network interface, not even a loopback one: internet sockets can
be bound and can listen, but no connection is ever made and no datagram is ever delivered.

* Binding takes the any-address or a loopback address; port 0 picks a free ephemeral port. A
  port in use by a live socket of the same type and an overlapping address is refused, unless
  both sockets share ports, or both reuse addresses and (for streams) the other one is not
  listening. A version 6 socket that is not version-6-only overlaps internet addresses too.
* Connecting fails: to a version 6 loopback or any-address with "Cannot assign requested
  address", to anything else with "Network is unreachable". A datagram socket is bound to an
  ephemeral port first.
* Sending a datagram binds the socket first; port 0 is refused, a datagram to the internet
  any-address is accepted and lost, any other fails like a connection.
* A listener never has a connection to accept. Shutting down reading on a listener stops it
  listening; shutting down an unconnected socket sets its shutdown flags and still reports
  "Transport endpoint is not connected".
-/

namespace Sockets

namespace Internet

open Call

/-- The port of an internet address. -/
def portOf : SockAddr → Nat
  | .inet _ p => p
  | .inet6 _ p _ _ => p
  | .unix _ => 0

/-- An address with another port. -/
def withPort (a : SockAddr) (port : Nat) : SockAddr :=
  match a with
  | .inet h _ => .inet h port
  | .inet6 h _ f s => .inet6 h port f s
  | .unix p => .unix p

/-- The version 6 any-address. -/
def any6 : List UInt8 := List.replicate 16 0

/-- The version 6 loopback address. -/
def loopback6 : List UInt8 := List.replicate 15 0 ++ [1]

/-- Whether version 6 bytes map an internet address. -/
def isMapped (h : List UInt8) : Bool := h.take 12 == List.replicate 10 0 ++ [0xFF, 0xFF]

/-- Whether an address names this machine: an any-address or a loopback address. -/
def isLocal : SockAddr → Bool
  | .inet h _ => h == [0, 0, 0, 0] || h.head? == some 127
  | .inet6 h _ _ _ => h == any6 || h == loopback6
  | .unix _ => false

/-- Whether a bound address is an any-address. -/
def isAny : SockAddr → Bool
  | .inet h _ => h == [0, 0, 0, 0]
  | .inet6 h _ _ _ => h == any6
  | .unix _ => false

/-- Whether two bound addresses of sockets overlap; `v6only` tells for each whether a version 6
socket refuses internet traffic. -/
def overlap (a : SockAddr) (aOnly : Bool) (b : SockAddr) (bOnly : Bool) : Bool :=
  match a, b with
  | .inet h _, .inet g _ => isAny a || isAny b || h == g
  | .inet6 h _ _ _, .inet6 g _ _ _ => isAny a || isAny b || h == g
  | .inet _ _, .inet6 g _ _ _ => !bOnly && (isAny b || isMapped g)
  | .inet6 h _ _ _, .inet _ _ => !aOnly && (isAny a || isMapped h)
  | _, _ => false

/-- Whether binding endpoint `e` (number `id`) to `addr` clashes with a live endpoint. -/
def clashes (k : Kernel) (id : Nat) (e : Endpoint) (addr : SockAddr) : Bool :=
  k.endpoints.any fun (oid, o) =>
    oid != id && !o.dead && o.type == e.type &&
    match o.name with
    | some b =>
      portOf b == portOf addr && b != .unix [] && overlap addr e.v6only b o.v6only &&
        !(e.reusePort && o.reusePort) &&
        !(e.reuseAddr && o.reuseAddr && (e.type == .datagram || o.listening.isNone))
    | none => false

/-- Whether a port is bound by a live endpoint of a type. -/
def portTaken (k : Kernel) (type : SocketType) (port : Nat) : Bool :=
  k.endpoints.any fun (_, o) =>
    !o.dead && o.type == type && (o.name.map portOf) == some port &&
      (match o.name with | some (.unix _) => false | _ => true)

/-- The address an unbound endpoint of a family reports. -/
def unbound (f : Family) : SockAddr :=
  match f with
  | .inet6 => .inet6 any6 0 0 0
  | _ => .inet [0, 0, 0, 0] 0

/-- Bind an endpoint to an address. -/
def bind (id : Nat) (addr : SockAddr) : Call Unit := do
  let e ← endpoint id
  if !isLocal addr then throw eaddrnotavail
  if e.name.isSome then throw einval
  let k ← get
  let addr ← if portOf addr == 0 then do
      let p ← ephemeralPort (portTaken k e.type)
      pure (withPort addr p)
    else if clashes k id e addr then throw eaddrinuse
    else pure addr
  update id fun e => { e with name := some addr }

/-- Bind an unbound endpoint to an ephemeral port of the any-address. -/
def autobind (id : Nat) : Call Unit := do
  let e ← endpoint id
  if e.name.isNone then
    let p ← ephemeralPort (portTaken (← get) e.type)
    update id fun e => { e with name := some (withPort (unbound e.family) p) }

/-- Start listening. -/
def listen (id backlog : Nat) : Call Unit := do
  let e ← endpoint id
  if e.type != .stream then throw eopnotsupp
  autobind id
  update id fun e => { e with listening := some (min backlog 4096) }

/-- Why no route leads to an address. -/
def unreachable : SockAddr → Nat
  | .inet6 h _ _ _ => if h == any6 || h == loopback6 then eaddrnotavail else enetunreach
  | _ => enetunreach

/-- Connect to an address: it always fails. -/
def connect (id : Nat) (addr : SockAddr) : Call Unit := do
  let e ← endpoint id
  if e.type == .stream then
    if e.listening.isSome then throw eisconn
  else autobind id
  throw (unreachable addr)

/-- Send a datagram to an address; the number of bytes accepted. -/
def sendTo (id : Nat) (data : List UInt8) (addr : SockAddr) : Call Nat := do
  let e ← endpoint id
  if e.type == .stream then throw epipe
  autobind id
  if data.length > 65507 then throw emsgsize
  if portOf addr == 0 then throw einval
  match addr with
  | .inet [0, 0, 0, 0] _ => pure data.length
  | _ => throw (unreachable addr)

/-- Receive a datagram: none ever arrives. -/
def recvFrom (id : Nat) (dontWait : Bool) : Call (List UInt8 × Option SockAddr) := do
  let e ← endpoint id
  if e.type == .stream then throw enotconn
  raisePending id
  if waits e dontWait && e.rdShut then pure ([], none) else throw eagain

/-- Accept a connection: none ever arrives. -/
def accept (id : Nat) : Call Nat := do
  let e ← endpoint id
  if e.type != .stream then throw eopnotsupp
  if e.listening.isNone then throw einval
  raisePending id
  throw eagain

/-- Shut down receiving (`how` 0), sending (1) or both (2). -/
def shutdown (id how : Nat) : Call Unit := do
  let e ← endpoint id
  if how > 2 then throw einval
  if e.listening.isSome then
    if how != 1 then update id fun e => { e with listening := none }
  else
    update id fun e => { e with rdShut := e.rdShut || how != 1, wrShut := e.wrShut || how != 0 }
    throw enotconn

/-- Whether an endpoint is readable and whether it is writable. -/
def readiness (id : Nat) : Call (Bool × Bool) := do
  let e ← endpoint id
  let failed := e.error != 0
  match e.type with
  | .stream =>
    if e.listening.isSome then pure (failed || !e.queue.isEmpty, failed)
    else pure (true, true)
  | .datagram => pure (failed || e.rdShut || !e.queue.isEmpty, true)

/-- Release an endpoint. -/
def release (id : Nat) : Call Unit :=
  update id fun e => { e with dead := true, fd := none, listening := none, queue := [] }

end Internet

end Sockets
