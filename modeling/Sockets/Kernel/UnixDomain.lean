import Sockets.Kernel.Call
import Sockets.Kernel.Files

/-!
# Unix-domain sockets

Streams and datagrams between endpoints of one machine.

*Streams.* `connect` puts a new endpoint, already connected to the caller, into the listener's
queue; `accept` hands it out. A write is cut into packets (`Memory.streamChunk`); each packet
needs the writer's charge below the send buffer, so a large write stops early when the reader
does not read (it fails with `EAGAIN` only if nothing was sent). A read gathers packets until
its buffer is full or the queue is empty. An empty queue reads as: the pending error (once),
then end of stream if receiving is shut down, else `EAGAIN`.

*Shutdown and release.* Shutting down a direction also shuts the opposite direction of the
peer. Releasing an endpoint shuts its peer down in both directions, and sets the peer's error
to `ECONNRESET` when unread data was thrown away; a listener's waiting connections are released
with it.

*Datagrams.* Each write is one packet and each read takes one packet whole, cutting what does
not fit. A datagram to a peer that has gone away fails with `ECONNREFUSED` and disconnects the
sender (throwing its unread datagrams away); after that the sender is not connected. A receiver
that is not connected back to the sender takes at most eleven waiting datagrams.
-/

namespace Sockets

namespace UnixDomain

open Call

/-- The live endpoint of a type bound to a Unix-domain address. -/
def target (path : List UInt8) (type : SocketType) : Call Nat := do
  if path.isEmpty then throw einval
  let k ← get
  let id ← if path.head? == some 0 then
      match k.byName? (.unix path) with
      | some id => pure id
      | none => throw econnrefused
    else
      match k.find path with
      | .error err => throw err
      | .ok .directory => throw econnrefused
      | .ok (.socket inode) =>
        match k.byInode? inode with
        | some id => pure id
        | none => throw econnrefused
  let o ← endpoint id
  if o.type != type then throw eprototype
  pure id

/-- The abstract name given to an endpoint bound to the empty path. -/
def autoName (n : Nat) : List UInt8 :=
  0 :: (List.range 5).reverse.map fun i =>
    let d := n / Nat.pow 16 i % 16
    (if d < 10 then 48 + d else 87 + d).toUInt8

/-- Bind an endpoint to a path (the empty path binds to a fresh abstract name). -/
def bind (id : Nat) (path : List UInt8) : Call Unit := do
  let e ← endpoint id
  if path.isEmpty then
    if e.name.isNone then
      let k ← get
      set { k with nextInode := k.nextInode + 1 }
      update id fun e => { e with name := some (.unix (autoName k.nextInode)) }
  else if path.head? == some 0 then
    if e.name.isSome then throw einval
    if ((← get).byName? (.unix path)).isSome then throw eaddrinuse
    update id fun e => { e with name := some (.unix path) }
  else
    match (← get).makeSocketNode path with
    | .error err => throw err
    | .ok (inode, k) =>
      if e.name.isSome then throw einval
      set k
      update id fun e => { e with name := some (.unix path), inode := some inode }

/-- Start listening on a bound stream endpoint. -/
def listen (id backlog : Nat) : Call Unit := do
  let e ← endpoint id
  if e.type != .stream then throw eopnotsupp
  if e.name.isNone || e.peer.isSome then throw einval
  update id fun e => { e with listening := some (min backlog 4096) }

/-- Connect a stream endpoint to the listener at a path. -/
def connectStream (id : Nat) (path : List UInt8) : Call Unit := do
  let e ← endpoint id
  let lid ← target path .stream
  let l ← endpoint lid
  let some backlog := l.listening | throw econnrefused
  if l.rdShut then throw econnrefused
  if l.queue.length > backlog then throw eagain
  if e.peer.isSome then throw eisconn
  if e.listening.isSome then throw einval
  let (child, k) := (← get).add
    { family := .unix, type := .stream, protocol := e.protocol, name := l.name, peer := some id }
  set k
  update id fun e => { e with peer := some child }
  update lid fun l => { l with
    queue := l.queue ++ [{ data := [], truesize := 0, sender := child, request := some child }] }

/-- Connect a datagram endpoint to the endpoint at a path. -/
def connectDatagram (id : Nat) (path : List UInt8) : Call Unit := do
  let e ← endpoint id
  let oid ← target path .datagram
  let o ← endpoint oid
  if !(o.peer.isNone || o.peer == some id) then throw eperm
  if let some old := e.peer then
    if old != oid && !e.queue.isEmpty then
      freeAll e.queue
      update id fun e => { e with queue := [] }
      let before ← anyEndpoint old
      if !before.dead && before.peer == some id then
        update old fun o => { o with error := econnreset }
  update id fun e => { e with peer := some oid }

/-- Take the next waiting connection of a listener. -/
def accept (id : Nat) : Call Nat := do
  let e ← endpoint id
  if e.type != .stream then throw eopnotsupp
  if e.listening.isNone then throw einval
  raisePending id
  match e.queue with
  | p :: rest =>
    update id fun e => { e with queue := rest }
    match p.request with
    | some child => pure child
    | none => throw einval
  | [] => if waits e false && e.rdShut then throw einval else throw eagain

/-- Queue stream packets from `rest` at the peer until all is sent or the writer must stop;
`sent` bytes have gone already. -/
def sendChunks (id peer : Nat) (rest : List UInt8) (sent : Nat) : Nat → Call Nat
  | 0 => pure sent
  | fuel + 1 => do
    if rest.isEmpty then return sent
    let stop (err : Nat) : Call Nat := if sent > 0 then pure sent else throw err
    let e ← anyEndpoint id
    if e.error != 0 then
      update id fun e => { e with error := 0 }
      return (← stop e.error)
    if e.wrShut then return (← stop epipe)
    if !Memory.mayAllocate e.wmem then return (← stop eagain)
    let o ← anyEndpoint peer
    if o.dead || o.rdShut then return (← stop epipe)
    let size := min rest.length Memory.streamChunk
    let charge := Memory.streamTruesize size
    update peer fun o => { o with
      queue := o.queue ++ [{ data := rest.take size, truesize := charge, sender := id }] }
    update id fun e => { e with wmem := e.wmem + charge }
    sendChunks id peer (rest.drop size) (sent + size) fuel

/-- Write bytes on a connected stream; the number of bytes sent. -/
def sendStream (id : Nat) (data : List UInt8) : Call Nat := do
  let e ← endpoint id
  let some peer := e.peer | throw enotconn
  if e.wrShut then throw epipe
  sendChunks id peer data 0 (data.length + 1)

/-- Read up to `size` bytes into `acc` from the queue of a stream endpoint. -/
def gather (id size : Nat) (acc : List UInt8) : Nat → Call (List UInt8)
  | 0 => pure acc
  | fuel + 1 => do
    let e ← anyEndpoint id
    match e.queue with
    | [] =>
      if !acc.isEmpty then return acc
      raisePending id
      if e.rdShut then return []
      throw eagain
    | p :: rest =>
      let room := size - acc.length
      if p.data.length > room then
        update id fun e => { e with queue := { p with data := p.data.drop room } :: rest }
        return acc ++ p.data.take room
      update id fun e => { e with queue := rest }
      free p
      let acc := acc ++ p.data
      if acc.length ≥ size then return acc
      gather id size acc fuel

/-- Read up to `size` bytes from a connected stream. -/
def recvStream (id size : Nat) : Call (List UInt8) := do
  let e ← endpoint id
  if e.peer.isNone then throw einval
  gather id size [] (e.queue.length + 1)

/-- Send one datagram, to the connected peer or to the endpoint at `dest`. -/
def sendDatagram (id : Nat) (data : List UInt8) (dest : Option (List UInt8)) : Call Nat := do
  let e ← endpoint id
  match dest with
  | some p => if p.isEmpty then throw einval
  | none => if e.peer.isNone then throw enotconn
  if data.length > Memory.datagramLimit then throw emsgsize
  raisePending id
  if e.wrShut then throw epipe
  if !Memory.mayAllocate e.wmem then throw eagain
  let other ← match dest, e.peer with
    | some p, _ => target p .datagram
    | none, some p => pure p
    | none, none => throw enotconn
  let o ← anyEndpoint other
  if !(o.peer.isNone || o.peer == some id) then throw eperm
  if o.dead then
    if e.peer == some other then
      freeAll e.queue
      update id fun e => { e with peer := none, queue := [] }
    throw econnrefused
  if o.rdShut then throw epipe
  if other != id && o.peer != some id && o.queue.length > 10 then throw eagain
  let charge := Memory.datagramTruesize data.length
  update other fun o => { o with queue := o.queue ++ [{ data := data, truesize := charge, sender := id }] }
  update id fun e => { e with wmem := e.wmem + charge }
  pure data.length

/-- Take one datagram, cut to `size` bytes, with its sender's name if it has one. -/
def recvDatagram (id size : Nat) (dontWait : Bool) : Call (List UInt8 × Option SockAddr) := do
  let e ← endpoint id
  raisePending id
  match e.queue with
  | p :: rest =>
    update id fun e => { e with queue := rest }
    free p
    let sender ← anyEndpoint p.sender
    pure (p.data.take size, sender.name)
  | [] => if waits e dontWait && e.rdShut then pure ([], none) else throw eagain

/-- Shut down receiving (`how` 0), sending (1) or both (2). -/
def shutdown (id how : Nat) : Call Unit := do
  let e ← endpoint id
  if how > 2 then throw einval
  let rd := how != 1
  let wr := how != 0
  update id fun e => { e with rdShut := e.rdShut || rd, wrShut := e.wrShut || wr }
  if e.type == .stream then
    if let some p := e.peer then
      update p fun o => { o with wrShut := o.wrShut || rd, rdShut := o.rdShut || wr }

/-- Release an endpoint (`waiting` for a connection never accepted), and with it the waiting
connections of a listener. -/
def release (id : Nat) (waiting : Bool) : Nat → Call Unit
  | 0 => pure ()
  | fuel + 1 => do
    let e ← anyEndpoint id
    if e.dead then return
    update id fun e => { e with
      dead := true, fd := none, rdShut := true, wrShut := true
      peer := none, queue := [], listening := none }
    if e.type == .stream then
      if let some p := e.peer then
        let reset := !e.queue.isEmpty || waiting
        update p fun o => { o with
          rdShut := true, wrShut := true
          error := if reset then econnreset else o.error }
    e.queue.forM fun pkt => do
      free pkt
      if let some child := pkt.request then release child true fuel

/-- Whether an endpoint is readable and whether it is writable. -/
def readiness (id : Nat) : Call (Bool × Bool) := do
  let e ← endpoint id
  let failed := e.error != 0
  match e.type with
  | .stream =>
    let closed := e.peer.isNone && e.listening.isNone
    pure (failed || e.rdShut || !e.queue.isEmpty || closed,
      failed || (e.listening.isNone && Memory.writable e.wmem))
  | .datagram =>
    let full ← match e.peer with
      | some p => do
        let o ← anyEndpoint p
        pure (o.peer != some id && o.queue.length > 10)
      | none => pure false
    pure (failed || e.rdShut || !e.queue.isEmpty, failed || (Memory.writable e.wmem && !full))

end UnixDomain

end Sockets
