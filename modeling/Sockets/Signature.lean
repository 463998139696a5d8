import Sockets.Address

/-!
# Signatures

A signature says what a socket is — its family, type and protocol — and what is known of the
endpoint it serves: host and port, or the path of a Unix-domain node, the resolved address, and
whether the socket is bound and secured. The host, port, path and address are kept as the caller
gave them.

The constructors check their arguments in a fixed order, and the first failure wins:

* `fromValues` needs a known family, type and protocol ("Bad family, type or protocol passed.");
* `forHost` needs a host, a port and an internet family ("Missing hostname, port or both or
  invalid protocol family.");
* `forPath` needs a non-empty path ("Missing pathname.") that fits a Unix-domain address
  ("Pathname supplied is too long.");
* `forEndpoint` needs all of family, type, protocol, host and port ("Incomplete parameters.").

Each then checks that the type and protocol go together: a stream uses TCP or the Unix protocol, a
datagram socket UDP or the Unix protocol. A type other than these two is not checked here; it is
refused later, when it has to become a member of `SocketType`.
-/

namespace Sockets

/-- What a socket is, and what is known of its endpoint. -/
structure Signature where
  /-- The address family. -/
  family : Family
  /-- The socket type. -/
  type : SocketType
  /-- The protocol. -/
  protocol : Protocol
  /-- The host of the endpoint, as given. -/
  hostname : Value := .none
  /-- The port of the endpoint, as given; `-1` when unknown. -/
  port : Value := .int (-1)
  /-- The path of a Unix-domain endpoint, as given. -/
  path : Value := .none
  /-- The resolved address of the endpoint. -/
  address : Value := .none
  /-- Whether a secure-transport delegate serves the socket. -/
  isSecure : Bool := false
  /-- Whether the socket is bound. -/
  isBound : Bool := false
  deriving Inhabited

/-- Whether a value is one of some numbers, as a set lookup finds it: a value that cannot be a
set key is refused. -/
def memberOf (v : Value) (values : List Int) : Except Failure Bool :=
  match v.unhashablePart? with
  | some name => .error (.typeError ("unhashable type: '" ++ name ++ "'"))
  | none => .ok (values.any fun n => v.equals (.int n))

/-- The member of an enumeration that a value must be, named `enum` in the refusal. -/
def requireMember {α : Type} (enum : String) (find : Value → Option α) (v : Value) :
    Except Failure α :=
  match find v with
  | some m => .ok m
  | none => .error (.valueError (v.quote ++ " is not a valid " ++ enum))

namespace Signature

/-- The failure of a constructor. -/
def bad (reason : String) : Failure := .code .badSignatureParameters reason

/-- The check that a type and a protocol go together. -/
def checkTypeAndProtocol (type proto : Value) : Except Failure Unit := do
  if type.equals (.int SocketType.stream.value) then
    if !(← memberOf proto [Protocol.tcp.value, Protocol.unix.value]) then
      throw (bad "Stream socket must use either .tcp or .unix for the protocol.")
  else if type.equals (.int SocketType.datagram.value) then
    if !(← memberOf proto [Protocol.udp.value, Protocol.unix.value]) then
      throw (bad "Datagram socket must use .udp or .unix for the protocol.")

/-- A signature from the raw numbers of a family, type and protocol. -/
def fromValues (family type proto address : Value) : Except Failure Signature :=
  match Family.ofValue? family, SocketType.ofValue? type, Protocol.ofValue? proto with
  | some f, some t, some p => do
    checkTypeAndProtocol type proto
    .ok { family := f, type := t, protocol := p, address := address }
  | _, _, _ => .error (bad "Bad family, type or protocol passed.")

/-- A signature for a remote internet host. -/
def forHost (family type proto hostname port : Value) : Except Failure Signature := do
  let missing := match hostname, port with
    | .none, _ => true
    | _, .none => true
    | _, _ => false
  if missing then throw (bad "Missing hostname, port or both or invalid protocol family.")
  if !(← memberOf family [Family.inet.value, Family.inet6.value]) then
    throw (bad "Missing hostname, port or both or invalid protocol family.")
  checkTypeAndProtocol type proto
  let f ← requireMember "ProtocolFamily" Family.ofValue? family
  let t ← requireMember "SocketType" SocketType.ofValue? type
  let p ← requireMember "SocketProtocol" Protocol.ofValue? proto
  .ok { family := f, type := t, protocol := p, hostname := hostname, port := port }

/-- A signature for a Unix-domain node; its address is built at once. -/
def forPath (type proto path : Value) : Except Failure Signature := do
  if let .none := path then throw (bad "Missing pathname.")
  let empty ← match path with
    | .str t => pure t.isEmpty
    | .bytes b => pure b.isEmpty
    | _ => throw (.typeError ("expected str, bytes or os.PathLike object, not " ++ path.typeName))
  if empty then throw (bad "Missing pathname.")
  checkTypeAndProtocol type proto
  let bytes ← pathBytes path
  if bytes.length ≥ unixPathMax then throw (bad "Pathname supplied is too long.")
  let t ← requireMember "SocketType" SocketType.ofValue? type
  let p ← requireMember "SocketProtocol" Protocol.ofValue? proto
  .ok { family := .unix, type := t, protocol := p, path := path, address := .addr (.unix path) }

/-- A signature for an endpoint that is known in full. -/
def forEndpoint (family type proto address hostname port : Value) : Except Failure Signature :=
  let complete := match hostname, port with
    | .none, _ => false
    | _, .none => false
    | _, _ => true
  match Family.ofValue? family, SocketType.ofValue? type, Protocol.ofValue? proto with
  | some f, some t, some p =>
    if !complete then .error (bad "Incomplete parameters.")
    else do
      checkTypeAndProtocol type proto
      .ok { family := f, type := t, protocol := p, address := address, hostname := hostname,
            port := port }
  | _, _, _ => .error (bad "Incomplete parameters.")

/-- The lower-case name of a member. -/
def lower (s : String) : String := s.toLower

/-- A readable rendering of every field; the port is written as plain text, which an address
with a port that is no integer refuses. -/
def description (s : Signature) : Except Failure Text := do
  let port ← Address.textOf s.port
  pure (Text.ofString ("Signature: family: " ++ lower s.family.name ++ ", type: " ++
    lower s.type.name ++ ", protocol: " ++ lower s.protocol.name ++ ", address: " ++
    s.address.quote ++ ", hostname: " ++ s.hostname.quote ++ ", port: ") ++ port ++
  Text.ofString (", path: " ++ s.path.quote ++ ", bound: " ++ Value.boolText s.isBound ++
    ", secure: " ++ Value.boolText s.isSecure))

end Signature

end Sockets
