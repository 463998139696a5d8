import Sockets.Protocol.Session.View

/-!
# The steps of a session

Each step names an operation and its arguments. A step finds its socket, reads its arguments
(a missing field, a malformed or unknown reference refuses the step before anything runs),
checks whether the operation would wait forever (then it does not run), and runs the operation
on the session's machine. A failure of the library is the step's answer; whatever the operation
changed before failing stays.

A step would wait forever only on an open, blocking socket, when the descriptor is not readable:

* accepting on a listener that is not connected;
* reading a stream that has nothing stored, unless the socket has a read timeout (for
  `read_into`, only with a usable count and buffer size);
* receiving a datagram into a buffer of positive size, unless the socket has a read timeout;
  `listen_for_message` on a socket that is not bound yet waits when it is about to bind an
  internet socket to a valid port, whether or not the descriptor is readable;
* waiting without limit on sockets none of which has stored bytes or is readable.
-/

namespace Sockets

namespace Session

open Wire

/-- What a step answers. -/
inductive Outcome where
  /-- The fields of a result. -/
  | fields (fs : List (String × Doc))
  /-- The step failed. -/
  | failed (p : Problem)
  /-- The step would wait forever, so it did not run. -/
  | wouldBlock
  deriving Inhabited

/-- A step's handler: the session afterwards and the outcome, or a refusal before anything ran. -/
abbrev Handler := Session → Doc → Except Problem (Session × Outcome)

/-- The socket a step names by its id, with the id; `attr` is what the step uses first. -/
def target (s : Session) (req : Doc) (attr : String) : Except Problem (Value × Socket) := do
  let id := idOf req
  pure (id, ← s.socket id attr)

/-- An enumeration field: a member name stands for its number; absent is `dflt`. -/
def enumOr (s : Session) (req : Doc) (key : String) (names : String → Option Int) (dflt : Int) :
    Except Problem Value :=
  if req.has key then Static.enumArg s.decoder req key names else .ok (.int dflt)

/-- The number of a family name. -/
def familyName (n : String) : Option Int := (Family.ofName? n).map (·.value)

/-- The number of a socket type name. -/
def typeName (n : String) : Option Int := (SocketType.ofName? n).map (·.value)

/-- The number of a protocol name. -/
def protoName (n : String) : Option Int := (Protocol.ofName? n).map (·.value)

/-- The entry a written value names in a table of names: it must be a name of the table. -/
def choose (names : String → Option Int) (v : Value) : Except Problem Int :=
  match v with
  | .str t =>
    match t.toString?.bind names with
    | some n => .ok n
    | none => .error (.missingKey v)
  | v => if v.hashable then .error (.missingKey v) else .error (.failure (unhashable v))

/-- The outcome of a library result. -/
def outcome {α : Type} (r : Except Failure α) (answer : α → List (String × Doc)) : Outcome :=
  match r with
  | .ok a => .fields (answer a)
  | .error f => .failed (.failure f)

/-- Run an operation on a socket and answer from its result. -/
def onSocket {α : Type} (s : Session) (id : Value) (k : Socket) (op : SocketM World α)
    (answer : α → List (String × Doc)) : Session × Outcome :=
  let (r, s) := s.runOn id k op
  (s, outcome r answer)

/-- The outcome of giving a new socket an id. -/
def registered (s : Session) (id : Value) (k : Socket) : Session × Outcome :=
  match s.register id k with
  | (.ok _, s) => (s, .fields [])
  | (.error f, s) => (s, .failed (.failure f))

/-- Make a socket by a machine call and give it an id if that succeeds. -/
def made (s : Session) (id : Value) (act : EStateM Failure World Socket) : Session × Outcome :=
  match s.runWorld act with
  | (.ok k, s) => registered s id k
  | (.error f, s) => (s, .failed (.failure f))

/-- Wrap a fresh native socket and give it an id; a native socket that cannot be wrapped is
closed. -/
def wrapped (s : Session) (id : Value) (h : Handle) (address : Value) (d : Option String) :
    Session × Outcome :=
  match s.runWorld (Socket.wrapNative H h address d) with
  | (.ok k, s) => registered s id k
  | (.error f, s) => (s.closeHandle h, .failed (.failure f))

/-- Whether a socket is open and blocking. -/
def openBlocking (s : Session) (k : Socket) : Bool :=
  Socket.descriptor H k s.world ≥ 0 && k.blocking

/-- Whether a read may wait forever on a socket: it is open and blocking, without a read
timeout. -/
def mayWait (s : Session) (id : Value) (k : Socket) : Bool :=
  openBlocking s k && !s.quickReads.any (·.equals id)

/-- The signature a step describes: built from its `signature` object, or taken from the socket
named by `signature_of`. -/
def signatureField (s : Session) (req : Doc) : Except Problem (Except Failure Signature) := do
  match req.field? "signature_of" with
  | some other => pure (.ok (← s.socket (rawValue other) "signature").signature)
  | none =>
    let spec ← need req "signature"
    let args ← Static.signatureArgs s.decoder ((spec.field? "args").getD (.obj []))
    match Static.buildSignature ((spec.string? "ctor").getD "") args with
    | .ok g => pure (.ok g)
    | .error (.failure f) => pure (.error f)
    | .error p => .error p

/-! ## Making sockets -/

/-- `create`: a new socket under the step's id. -/
def create : Handler := fun s req => do
  let id := idOf req
  let fam ← enumOr s req "family" familyName Family.inet.value
  let ty ← enumOr s req "type" typeName SocketType.stream.value
  let proto ← enumOr s req "proto" protoName Protocol.tcp.value
  let (d, s) ← delegateField s req "delegate"
  pure (made s id (Socket.create H fam ty proto d))

/-- Wrap one end of a pair under its id: the end's state, or the failure in its place; an end
that is not wrapped is closed. -/
def wrapEnd (s : Session) (req : Doc) (id : Value) (h : Handle) (addressKey delegateKey : String) :
    Session × Doc :=
  match valueOr s req addressKey (.addr (.unix (.ofString ""))) with
  | .error p => (s.closeHandle h, ofProblem p)
  | .ok address =>
    match delegateField s req delegateKey with
    | .error p => (s.closeHandle h, ofProblem p)
    | .ok (d, s) =>
      match wrapped s id h address d with
      | (s, .failed p) => (s, ofProblem p)
      | (s, _) =>
        match s.socket? id with
        | some k => (s, s.stateDoc k)
        | none => (s, .null)

/-- `pair`: two connected Unix-domain sockets, each wrapped with its address and delegate. -/
def pair : Handler := fun s req => do
  let (a, b) ← lib (unpackTwo (← needRaw req "ids"))
  let type := if (rawOr req "type" .none).equals (.ofString "DATAGRAM") then SocketType.datagram
    else .stream
  match s.runWorld (Native.socketPair type) with
  | (.error f, s) => pure (s, .failed (.failure f))
  | (.ok (ha, hb), s) =>
    let (s, docA) := wrapEnd s req a ha "address" "delegate"
    let (s, docB) := wrapEnd s req b hb "address_b" "delegate_b"
    let result := if a.equals b then [(fieldName a, docB)]
      else [(fieldName a, docA), (fieldName b, docB)]
    pure (s, .fields [("result", .obj result)])

/-- `wrap_unconnected`: a fresh unconnected native socket, wrapped. -/
def wrapUnconnected : Handler := fun s req => do
  let id := idOf req
  let fam ← choose familyName (rawOr req "family" (.ofString "UNIX"))
  let ty ← choose typeName (rawOr req "type" (.ofString "STREAM"))
  let address ← valueOr s req "address" (.addr (.unix (.ofString "")))
  match s.runWorld (Native.create fam ty 0) with
  | (.ok h, s) => pure (wrapped s id h address none)
  | (.error f, s) => pure (s, .failed (.failure f))

/-- `wrap_fd`: a socket wrapped from a descriptor number. -/
def wrapFd : Handler := fun s req => do
  let id := idOf req
  let fd ← needValue s req "fd"
  let address ← needValue s req "address"
  pure (made s id (Socket.adopt H fd address none))

/-- `create_connected`: a socket made and connected for a signature. -/
def createConnected : Handler := fun s req => do
  let id := idOf req
  let g ← signatureField s req
  let (d, s) ← delegateField s req "delegate"
  match g with
  | .error f => pure (s, .failed (.failure f))
  | .ok g => pure (made s id (Socket.createConnected H g d))

/-! ## Serving and connecting -/

/-- `listen`. -/
def listen : Handler := fun s req => do
  let (id, k) ← target s req "listen"
  let port ← needValue s req "port"
  let backlog ← valueOr s req "backlog" .none
  let reuse ← valueOr s req "reuse" (.bool true)
  let dual ← valueOr s req "dual_stack" (.bool false)
  pure (onSocket s id k (Socket.listen H port backlog reuse dual) fun _ => [])

/-- `listen_unix`: whether the node exists after binding. -/
def listenUnix : Handler := fun s req => do
  let (id, k) ← target s req "listen_unix"
  let path ← needValue s req "path"
  let backlog ← valueOr s req "backlog" .none
  let (r, s) := s.runOn id k (Socket.listenUnix H path backlog)
  pure (s, outcome r fun _ => [("node_exists", .bool (Native.pathExists path s.world))])

/-- `connect`. -/
def connect : Handler := fun s req => do
  let (id, k) ← target s req "connect"
  let host ← needValue s req "host"
  let port ← needValue s req "port"
  let timeout ← valueOr s req "timeout" (.int 0)
  pure (onSocket s id k (Socket.connect H host port timeout) fun _ => [])

/-- `connect_unix`. -/
def connectUnix : Handler := fun s req => do
  let (id, k) ← target s req "connect_unix"
  let path ← needValue s req "path"
  pure (onSocket s id k (Socket.connectUnix H path) fun _ => [])

/-- `connect_using`. -/
def connectUsing : Handler := fun s req => do
  let (id, k) ← target s req "connect_using"
  match ← signatureField s req with
  | .error f => pure (s, .failed (.failure f))
  | .ok g => pure (onSocket s id k (Socket.connectUsing H g) fun _ => [])

/-- Whether accepting on a socket would wait forever: a read timeout does not bound it. -/
def acceptWaits (s : Session) (k : Socket) : Bool :=
  openBlocking s k && k.listening && !k.connected && !s.readable k

/-- `accept`: the new socket, which gets its own id, named after the accepting ran. -/
def accept : Handler := fun s req => do
  let (id, k) ← target s req "accept_client_connection"
  let invoke ← valueOr s req "invoke_delegate" (.bool true)
  if acceptWaits s k then return (s, .wouldBlock)
  let (r, s) := s.runOn id k (Socket.acceptClient H invoke.truthy)
  match r with
  | .error f => pure (s, .failed (.failure f))
  | .ok n =>
    match needRaw req "new_id" with
    | .error p => pure (s.release n, .failed p)
    | .ok fresh =>
      match s.register fresh n with
      | (.ok _, s) => pure (s, .fields [("new", s.stateDoc n)])
      | (.error f, s) => pure (s, .failed (.failure f))

/-- `accept_connection`. -/
def acceptConnection : Handler := fun s req => do
  let (id, k) ← target s req "accept_connection"
  if acceptWaits s k then return (s, .wouldBlock)
  pure (onSocket s id k (Socket.acceptConnection H) fun _ => [])

/-- `invoke_delegate_on_accept`: the target afterwards. -/
def invokeOnAccept : Handler := fun s req => do
  let (id, k) ← target s req "invoke_delegate_on_accept"
  let other ← needRaw req "target"
  let t ← s.socket other "socket"
  let (r, s) := s.runOn id k (Socket.invokeOnAccept H t)
  match r with
  | .ok t => let s := s.keep other t; pure (s, .fields [("target", s.stateDoc t)])
  | .error f => pure (s, .failed (.failure f))

/-! ## Writing and reading -/

/-- `write`. -/
def write : Handler := fun s req => do
  let (id, k) ← target s req "write"
  let data ← dataOf s (← need req "data")
  pure (onSocket s id k (Socket.write H data) fun n => [("result", .int n)])

/-- `write_to`: to an address, or to the address of another socket. -/
def writeTo : Handler := fun s req => do
  let (id, k) ← target s req "write_to"
  let data ← dataOf s (← need req "data")
  let dest ← need req "to"
  let address ← match dest.field? "address_of" with
    | some other => pure (← s.socket (rawValue other) "signature").signature.address
    | none => Value.addr <$> s.decoder.address dest
  pure (onSocket s id k (Socket.writeTo H data address) fun n => [("result", .int n)])

/-- Whether reading a stream would wait forever. -/
def readWaits (s : Session) (id : Value) (k : Socket) : Bool :=
  mayWait s id k && k.connected && k.storage.isEmpty && !s.readable k

/-- Whether the count and the buffer size of a read into a buffer are usable: the count is an
integer from 0 up to the size, and the size is positive. Comparing the count with a size that
is no number fails. -/
def usableRead (nbytes size : Value) : Except Failure Bool := do
  match nbytes.asInt? with
  | none => pure false
  | some n =>
    if n < 0 then return false
    if ← nbytes.gt size then return false
    size.gt (.int 0)

/-- `read_into`: the count and the whole buffer afterwards. The buffer is the fill bytes, or a
new zeroed buffer made from the size as written. -/
def readInto : Handler := fun s req => do
  let (id, k) ← target s req "read_into"
  let nbytes ← valueOr s req "nbytes" (.int 0)
  let truncate ← valueOr s req "truncate" (.bool false)
  let fill ← match req.field? "fill_hex" with
    | some d => some <$> lib (hexOfValue (rawValue d))
    | none => pure none
  let size := match fill with
    | some bs => .int bs.length
    | none => rawOr req "size" (.int 16)
  if (← lib (usableRead nbytes size)) && readWaits s id k then return (s, .wouldBlock)
  let buffer ← match fill with
    | some bs => pure bs
    | none => lib (Value.toByteArray size)
  pure (onSocket s id k (Socket.readInto H buffer nbytes truncate.truthy) fun (n, b) =>
    [("result", .int n), ("buffer_hex", .str (hexOfBytes b))])

/-- `read_data`: the count and the prefix with the bytes read. -/
def readData : Handler := fun s req => do
  let (id, k) ← target s req "read_data"
  if readWaits s id k then return (s, .wouldBlock)
  let pre ← prefixOf s req
  pure (onSocket s id k (Socket.readData H) fun data =>
    [("result", .int data.length), ("data_hex", .str (hexOfBytes (pre ++ data)))])

/-- `read_string`: the text read, or null. -/
def readString : Handler := fun s req => do
  let (id, k) ← target s req "read_string"
  let encoding ← valueOr s req "encoding" (.ofString "utf-8")
  if readWaits s id k then return (s, .wouldBlock)
  pure (onSocket s id k (Socket.readString H encoding) fun t =>
    [("result", match t with | some t => ofText t | none => .null)])

/-- Whether receiving a datagram into a buffer of `size` would wait forever, given whether the
socket's state lets it wait (`waits`); the size is compared with 0 only on a socket that may
wait. -/
def datagramWaits (s : Session) (id : Value) (k : Socket) (size : Value) (waits : Bool) :
    Except Failure Bool := do
  if !(mayWait s id k && k.signature.type == .datagram) then return false
  if !(← size.gt (.int 0)) then return false
  pure waits

/-- `read_datagram_into`: a new zeroed buffer of the size as written. -/
def readDatagramInto : Handler := fun s req => do
  let (id, k) ← target s req "read_datagram_into"
  let size := rawOr req "size" (.int 16)
  if ← lib (datagramWaits s id k size !(s.readable k)) then return (s, .wouldBlock)
  let buffer ← lib (Value.toByteArray size)
  pure (onSocket s id k (Socket.readDatagramInto H buffer) fun (n, a, b) =>
    [("result", .int n), ("address", addressDoc a), ("buffer_hex", .str (hexOfBytes b))])

/-- `read_datagram`. -/
def readDatagram : Handler := fun s req => do
  let (id, k) ← target s req "read_datagram"
  if ← lib (datagramWaits s id k (.int 1) !(s.readable k)) then return (s, .wouldBlock)
  let pre ← prefixOf s req
  pure (onSocket s id k (Socket.readDatagram H) fun (data, a) =>
    [("result", .int data.length), ("address", addressDoc a),
      ("data_hex", .str (hexOfBytes (pre ++ data)))])

/-- Whether a port is one an internet socket can bind to: an integer from 0 to 65535. -/
def validPort (port : Value) : Bool :=
  match port.asInt? with
  | some p => 0 ≤ p && p ≤ 65535
  | none => false

/-- `listen_for_message`: a new zeroed buffer of the size as written. -/
def listenForMessage : Handler := fun s req => do
  let (id, k) ← target s req "listen_for_message"
  let size := rawOr req "size" (.int 16)
  let port ← valueOr s req "port" (.int 0)
  let backlog ← valueOr s req "backlog" .none
  let waits := if k.signature.isBound then !s.readable k
    else validPort port && k.signature.family != .unix
  if ← lib (datagramWaits s id k size waits) then return (s, .wouldBlock)
  let buffer ← lib (Value.toByteArray size)
  pure (onSocket s id k (Socket.listenForMessage H buffer port backlog) fun (n, a, b) =>
    [("result", .int n), ("address", addressDoc a), ("buffer_hex", .str (hexOfBytes b))])

/-! ## Options and readiness -/

/-- `set_blocking`. -/
def setBlocking : Handler := fun s req => do
  let (id, k) ← target s req "set_blocking"
  let v ← needValue s req "value"
  pure (onSocket s id k (Socket.setBlocking H v) fun _ => [])

/-- `set_read_timeout`; a timeout that is set and not zero marks the socket as never waiting
forever on reads, and a timeout of zero clears that mark. -/
def setReadTimeout : Handler := fun s req => do
  let (id, k) ← target s req "set_read_timeout"
  let ms ← valueOr s req "ms" (.int 0)
  let (r, s) := s.runOn id k (Socket.setReadTimeout H ms)
  let others := s.quickReads.filter (!·.equals id)
  let s := match r with
    | .ok _ => { s with quickReads := if ms.truthy then others ++ [id] else others }
    | .error _ => s
  pure (s, outcome r fun _ => [])

/-- `set_write_timeout`. -/
def setWriteTimeout : Handler := fun s req => do
  let (id, k) ← target s req "set_write_timeout"
  let ms ← valueOr s req "ms" (.int 0)
  pure (onSocket s id k (Socket.setWriteTimeout H ms) fun _ => [])

/-- `udp_broadcast`: the broadcast flag read back. -/
def udpBroadcast : Handler := fun s req => do
  let (id, k) ← target s req "udp_broadcast"
  let v ← needValue s req "value"
  pure (onSocket s id k (do
      Socket.udpBroadcast H v
      let h ← Socket.checkDescriptor H
      Socket.sys (Native.broadcasts h)) fun b => [("so_broadcast", .bool b)])

/-- `resize_read_buffer`. -/
def resizeReadBuffer : Handler := fun s req => do
  let (id, k) ← target s req "resize_read_buffer"
  let size ← needValue s req "size"
  pure (onSocket s id k (Socket.resizeReadBuffer size) fun n => [("result", .int n)])

/-- `set_delegate`. -/
def setDelegate : Handler := fun s req => do
  let (id, k) ← target s req "set_delegate"
  let (d, s) ← delegateField s req "delegate"
  pure (onSocket s id k (Socket.setDelegate d) fun _ => [])

/-- `poll`: readable and writable; waiting without limit ignores the timeout. -/
def poll : Handler := fun s req => do
  let (id, k) ← target s req "is_readable_or_writable"
  let timeout ← valueOr s req "timeout" (.int 0)
  let forever ← valueOr s req "wait_forever" (.bool false)
  pure (onSocket s id k (Socket.readiness H forever.truthy timeout) fun (r, w) =>
    [("result", .arr [.bool r, .bool w])])

/-- The sockets of the ids a step lists, which must all be known. -/
def listed (s : Session) (req : Doc) (attr : String) : Except Problem (List (Value × Socket)) := do
  let ids ← lib (Value.iterate (← needRaw req "ids"))
  ids.mapM fun i => do pure (i, ← s.socket i attr)

/-- `wait`: the ids of the ready sockets, or null. -/
def wait : Handler := fun s req => do
  let socks ← listed s req "socketfd"
  let timeout ← valueOr s req "timeout" (.int 0)
  let forever ← valueOr s req "wait_forever" (.bool false)
  let ready (k : Socket) : Bool := !k.storage.isEmpty ||
    (Socket.descriptor H k s.world ≥ 0 && s.readable k)
  if forever.truthy && !socks.any (fun (_, k) => ready k) then return (s, .wouldBlock)
  let (r, s) := s.runWorld (Socket.waitReadable H (socks.map (·.2)) timeout forever.truthy)
  pure (s, outcome r fun found => [("result", match found with
    | some is => .arr (is.filterMap fun i => (socks[i]?).map fun (n, _) => plainValue n)
    | none => .null)])

/-- `check_status`: the ids of the readable sockets and of the writable ones. -/
def checkStatus : Handler := fun s req => do
  let socks ← listed s req "is_readable_or_writable"
  let (r, s) := s.runWorld (Socket.status H (socks.map (·.2)))
  let ids (is : List Nat) : List Doc := is.filterMap fun i => (socks[i]?).map fun (n, _) => plainValue n
  pure (s, outcome r fun (rs, ws) => [("result", .arr [.arr (ids rs), .arr (ids ws)])])

/-! ## Closing and looking -/

/-- `close`. -/
def close : Handler := fun s req => do
  let (id, k) ← target s req "close"
  pure (onSocket s id k (Socket.close H) fun _ => [])

/-- `state`: only the state. -/
def state : Handler := fun s req => do
  let _ ← s.find (idOf req)
  pure (s, .fields [])

/-- The native socket of a socket, if it is still open. -/
def openNative (s : Session) (k : Socket) : Option Handle :=
  match k.native with
  | some h => if Native.fileno h s.world ≥ 0 then some h else none
  | none => none

/-- `native_close`: close the native socket behind the library. -/
def nativeClose : Handler := fun s req => do
  let (_, k) ← target s req "native_socket"
  match openNative s k with
  | none => pure (s, .fields [("skipped", .bool true)])
  | some h =>
    let (r, s) := s.runWorld (Native.close h)
    pure (s, outcome r fun _ => [])

/-- The shutdown direction a name stands for. -/
def direction (how : Value) : Except Problem Nat :=
  match how.asString? with
  | some "RD" => .ok 0
  | some "WR" => .ok 1
  | some "RDWR" => .ok 2
  | _ => if how.hashable then .error (.missingKey how) else .error (.failure (unhashable how))

/-- `native_shutdown`: shut the native socket down behind the library; the write side unless
the step says otherwise. -/
def nativeShutdown : Handler := fun s req => do
  let (_, k) ← target s req "native_socket"
  match openNative s k with
  | none => pure (s, .fields [("skipped", .bool true)])
  | some h =>
    let how ← direction (rawOr req "how" (.ofString "WR"))
    match s.runWorld (Native.shutdown h how) with
    | (.ok _, s) => pure (s, .fields [])
    | (.error f, s) =>
      match f.errno? with
      | some n => pure (s, .fields [("native_errno", .int n)])
      | none => pure (s, .failed (.failure f))

/-- `save_port`: remember a socket's port under a name. -/
def savePort : Handler := fun s req => do
  let (_, k) ← target s req "signature"
  let key ← needRaw req "name"
  if !key.hashable then return (s, .failed (.failure (unhashable key)))
  let port := k.signature.port
  pure ({ s with saved := setEntry s.saved key port }, .fields [("result", ofValue port)])

/-- `hostname_and_port`. -/
def hostnameAndPort : Handler := fun s req => do
  let a ← s.decoder.address (← need req "address")
  let r := match a.hostAndPort? with
    | some (h, p) => .arr [ofValue h, ofValue p]
    | none => .null
  pure (s, .fields [("result", r)])

/-- `create_address`. -/
def createAddress : Handler := fun s req => do
  let host ← needValue s req "host"
  let port ← needValue s req "port"
  pure (s, outcome (Resolver.createAddress host port) fun a =>
    [("result", match a with | some a => ofValue (.addr a) | none => .null)])

/-- The text of a socket as the library writes it. -/
def reprText (s : Session) (k : Socket) : String :=
  "<Socket fd=" ++ toString (Socket.descriptor H k s.world) ++ ", family=" ++
    k.signature.family.name.toLower ++ ", type=" ++ k.signature.type.name.toLower ++
    ", connected=" ++ Value.boolText k.connected ++ ", listening=" ++
    Value.boolText k.listening ++ ">"

/-- `repr`: whether the text shows a closed descriptor, and the text after its first comma;
the missing socket of the id `None` writes as `None`. -/
def repr : Handler := fun s req => do
  let t := match ← s.find (idOf req) with
    | some k => reprText s k
    | none => "None"
  let after := String.ofList ((t.toList.dropWhile (· != ',')).drop 1)
  pure (s, .fields [("result", .bool ((t.splitOn "fd=-1").length > 1)), ("text", .str after)])

/-- `exists`. -/
def pathExists : Handler := fun s req => do
  let path ← needValue s req "path"
  pure (s, .fields [("result", .bool (Native.pathExists path s.world))])

/-- `mkdir`. -/
def mkdir : Handler := fun s req => do
  let path ← needValue s req "path"
  let (r, s) := s.runWorld (Native.makeDirectory path)
  pure (s, outcome r fun _ => [])

/-- The handler of an operation name. -/
def handler? (op : String) : Option Handler :=
  match op with
  | "create" => some create
  | "pair" => some pair
  | "wrap_unconnected" => some wrapUnconnected
  | "wrap_fd" => some wrapFd
  | "create_connected" => some createConnected
  | "listen" => some listen
  | "listen_unix" => some listenUnix
  | "connect" => some connect
  | "connect_unix" => some connectUnix
  | "connect_using" => some connectUsing
  | "accept" => some accept
  | "accept_connection" => some acceptConnection
  | "invoke_delegate_on_accept" => some invokeOnAccept
  | "write" => some write
  | "write_to" => some writeTo
  | "read_into" => some readInto
  | "read_data" => some readData
  | "read_string" => some readString
  | "read_datagram_into" => some readDatagramInto
  | "read_datagram" => some readDatagram
  | "listen_for_message" => some listenForMessage
  | "set_blocking" => some setBlocking
  | "set_read_timeout" => some setReadTimeout
  | "set_write_timeout" => some setWriteTimeout
  | "udp_broadcast" => some udpBroadcast
  | "resize_read_buffer" => some resizeReadBuffer
  | "set_delegate" => some setDelegate
  | "poll" => some poll
  | "wait" => some wait
  | "check_status" => some checkStatus
  | "close" => some close
  | "state" => some state
  | "native_close" => some nativeClose
  | "native_shutdown" => some nativeShutdown
  | "save_port" => some savePort
  | "hostname_and_port" => some hostnameAndPort
  | "create_address" => some createAddress
  | "repr" => some repr
  | "exists" => some pathExists
  | "mkdir" => some mkdir
  | _ => none

end Session

end Sockets
