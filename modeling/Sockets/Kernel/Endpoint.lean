import Sockets.Family

/-!
# Kernel endpoints

The kernel side of a socket: an `Endpoint`. Each endpoint has a number that never changes; while
a process holds it, it also has a descriptor number. An endpoint that has just been connected
to a listening Unix-domain socket waits in the listener's queue without a descriptor until it is
accepted.

Data travels in `Packet`s. A packet sits in the receiver's queue and is charged to the
sender's write memory (`wmem`) with its true size, the memory the kernel allocated for it; the
charge is released when the receiver has read all of it or throws it away.

`Kernel` holds the endpoints, the Unix-domain file system (`Node`s), the next descriptor number
and the next ephemeral port.
-/

namespace Sockets

/-- A socket address as the kernel reads it. -/
inductive SockAddr where
  /-- An internet address: four host bytes and a port. -/
  | inet (host : List UInt8) (port : Nat)
  /-- An internet version 6 address: sixteen host bytes, port, flow label and scope. -/
  | inet6 (host : List UInt8) (port flowinfo scopeId : Nat)
  /-- A Unix-domain address: the path bytes; empty for an unnamed socket, starting with a zero
  byte for the abstract namespace. -/
  | unix (path : List UInt8)
  deriving DecidableEq, Inhabited, Repr

/-- A message in a receive queue. -/
structure Packet where
  /-- The bytes not read yet. -/
  data : List UInt8
  /-- The memory the packet holds, charged to the sender. -/
  truesize : Nat
  /-- The endpoint that sent it. -/
  sender : Nat
  /-- For a connection request: the waiting endpoint. -/
  request : Option Nat := none
  deriving Inhabited, Repr

/-- The kernel side of a socket. -/
structure Endpoint where
  /-- The address family. -/
  family : Family
  /-- The socket type. -/
  type : SocketType
  /-- The protocol number. -/
  protocol : Int
  /-- The descriptor, while a process holds the endpoint. -/
  fd : Option Nat := none
  /-- Whether calls return at once instead of waiting. -/
  nonblocking : Bool := false
  /-- The receive timeout in microseconds, 0 for none. -/
  recvTimeout : Nat := 0
  /-- The send timeout in microseconds, 0 for none. -/
  sendTimeout : Nat := 0
  /-- Whether local addresses may be reused. -/
  reuseAddr : Bool := false
  /-- Whether ports may be shared. -/
  reusePort : Bool := false
  /-- Whether a version 6 socket refuses internet-mapped traffic. -/
  v6only : Bool := false
  /-- Whether datagrams may go to broadcast addresses. -/
  broadcast : Bool := false
  /-- The bound address. -/
  name : Option SockAddr := none
  /-- The file-system node the endpoint is bound to. -/
  inode : Option Nat := none
  /-- The backlog, while listening. -/
  listening : Option Nat := none
  /-- The connected peer. -/
  peer : Option Nat := none
  /-- The receive queue. -/
  queue : List Packet := []
  /-- Whether receiving has been shut down. -/
  rdShut : Bool := false
  /-- Whether sending has been shut down. -/
  wrShut : Bool := false
  /-- A pending error number, 0 for none. -/
  error : Nat := 0
  /-- The memory of this endpoint's packets still queued. -/
  wmem : Nat := 0
  /-- Whether the endpoint has been released. -/
  dead : Bool := false
  deriving Inhabited, Repr

namespace Endpoint

/-- The bytes waiting in the receive queue. -/
def queued (e : Endpoint) : Nat := e.queue.foldr (fun p n => p.data.length + n) 0

/-- Whether both directions are shut down. -/
def fullyShut (e : Endpoint) : Bool := e.rdShut && e.wrShut

end Endpoint

/-- The socket options that can be set. -/
inductive SockOpt where
  /-- Reuse local addresses. -/
  | reuseAddr
  /-- Share ports. -/
  | reusePort
  /-- Allow broadcast datagrams. -/
  | broadcast
  /-- Refuse internet-mapped traffic on a version 6 socket. -/
  | v6only
  /-- The receive timeout, as a packed time value. -/
  | recvTimeout
  /-- The send timeout, as a packed time value. -/
  | sendTimeout
  deriving DecidableEq, Inhabited, Repr

/-- What a file-system path names. -/
inductive Node where
  /-- A directory. -/
  | directory
  /-- A socket node with its inode number. -/
  | socket (inode : Nat)
  deriving DecidableEq, Inhabited, Repr

/-- The state of the kernel. -/
structure Kernel where
  /-- The endpoints by number. -/
  endpoints : List (Nat × Endpoint) := []
  /-- The file system: nodes by path components (the working directory is the empty path). -/
  nodes : List (List (List UInt8) × Node) := []
  /-- The next endpoint number. -/
  nextId : Nat := 1
  /-- The next descriptor number. -/
  nextFd : Nat := 3
  /-- The next inode number. -/
  nextInode : Nat := 1
  /-- The next ephemeral port. -/
  nextPort : Nat := 40000
  deriving Inhabited

namespace Kernel

/-- The endpoint with a number. -/
def get? (k : Kernel) (id : Nat) : Option Endpoint := k.endpoints.lookup id

/-- Replace the endpoint with a number. -/
def set (k : Kernel) (id : Nat) (e : Endpoint) : Kernel :=
  { k with endpoints := k.endpoints.map fun p => if p.1 == id then (id, e) else p }

/-- Change the endpoint with a number. -/
def modify (k : Kernel) (id : Nat) (f : Endpoint → Endpoint) : Kernel :=
  { k with endpoints := k.endpoints.map fun p => if p.1 == id then (id, f p.2) else p }

/-- Add an endpoint; it gets the next number. -/
def add (k : Kernel) (e : Endpoint) : Nat × Kernel :=
  (k.nextId, { k with endpoints := k.endpoints ++ [(k.nextId, e)], nextId := k.nextId + 1 })

/-- Give an endpoint the next descriptor. -/
def assignFd (k : Kernel) (id : Nat) : Nat × Kernel :=
  (k.nextFd, { (k.modify id fun e => { e with fd := some k.nextFd }) with nextFd := k.nextFd + 1 })

/-- The endpoint that holds a descriptor. -/
def byFd? (k : Kernel) (fd : Nat) : Option Nat :=
  (k.endpoints.find? fun p => p.2.fd == some fd).map (·.1)

/-- The live endpoint bound to a file-system node. -/
def byInode? (k : Kernel) (inode : Nat) : Option Nat :=
  (k.endpoints.find? fun p => p.2.inode == some inode && !p.2.dead).map (·.1)

/-- The live endpoint bound to an address of the abstract namespace or an internet port. -/
def byName? (k : Kernel) (a : SockAddr) : Option Nat :=
  (k.endpoints.find? fun p => p.2.name == some a && !p.2.dead).map (·.1)

end Kernel

end Sockets
