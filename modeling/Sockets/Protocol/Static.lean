import Sockets.Protocol.Wire
import Sockets.Protocol.Call
import Sockets.Signature
import Sockets.DescriptorSet
import Sockets.Raised
import Sockets.Resolver

/-!
# Answers to requests without sockets

Each request names one operation of the library that needs no socket: enumerations, error
values, addresses, signatures, descriptor sets and the argument checks. The handlers here decode
the request's fields, call the library and write the answer; a failure of the library is the
answer in place of the result.
-/

namespace Sockets

namespace Static

open Wire

/-- The value of field `key` of a request (none when absent). -/
def field (dec : Decoder) (req : Doc) (key : String) : Except Problem Value :=
  match req.field? key with
  | some d => dec.value d
  | none => .ok .none

/-- A field that must be present. -/
def need (dec : Decoder) (req : Doc) (key : String) : Except Problem Value :=
  match req.field? key with
  | some d => dec.value d
  | none => .error (.missingKey (.ofString key))

/-- A field that must be present, as a document. -/
def needDoc (req : Doc) (key : String) : Except Problem Doc :=
  match req.field? key with
  | some d => .ok d
  | none => .error (.missingKey (.ofString key))

/-- The value of field `key` before any decoding (none when absent). -/
def raw (req : Doc) (key : String) : Value := ((req.field? key).map rawValue).getD .none

/-- Lift a library result into a request's result. -/
def lib {α : Type} (r : Except Failure α) : Except Problem α := r.mapError .failure

/-! ## Enumerations and errors -/

/-- The member of an enumeration whose number equals a value: its name and number. -/
def member? (enum : String) (v : Value) : Except Problem (Option (String × Int)) :=
  match enum with
  | "ProtocolFamily" => .ok ((Family.ofValue? v).map fun m => (m.name, m.value))
  | "SocketType" => .ok ((SocketType.ofValue? v).map fun m => (m.name, m.value))
  | "SocketProtocol" => .ok ((Protocol.ofValue? v).map fun m => (m.name, m.value))
  | "ErrorCode" => .ok ((v.asNumber?.bind ErrorCode.ofInt?).map fun m => (m.name, m.value))
  | other => .error (.malformed ("unknown enum " ++ other))

/-- `from_value`: the member a number names. -/
def fromValue (dec : Decoder) (req : Doc) : Except Problem Doc := do
  let enum := (req.string? "enum").getD ""
  let v ← field dec req "value"
  match ← member? enum v with
  | some (n, k) => pure (.obj [("result", .str n), ("value", .int k)])
  | none => pure (.obj [("result", .null), ("value", .null)])

/-- `error_codes`: every code with its value. -/
def errorCodes : Doc :=
  .obj [("result", .arr (ErrorCode.all.map fun c => .arr [.str c.name, .int c.value]))]

/-- The description of a socket failure built from values: its code as an integer, the code's
name when it is a member of `ErrorCode`, its reason, the needed size as given, its text and its
arguments. -/
def describeSocketError (e : SocketErrorObject) : Except Failure Doc := do
  let code ← e.intCode
  let text ← e.text
  pure (.obj [("code", .int code), ("name", Doc.ofOptString (e.member.map ErrorCode.name)),
    ("reason", ofValue e.reason), ("buffer_size_needed", plainValue e.needed),
    ("str", ofText text), ("args", .arr (e.args.map ofValue))])

/-- `socket_error`: a socket failure built from its parts. -/
def socketError (dec : Decoder) (req : Doc) : Except Problem Doc := do
  let code ← need dec req "code"
  let reason ← field dec req "reason"
  let needed ← match req.field? "buffer_size_needed" with
    | some d => dec.value d
    | none => pure (.int 0)
  lib (describeSocketError (SocketErrorObject.build code reason needed))

/-- `buffer_too_small`: the failure of a read into a buffer that is too small. -/
def bufferTooSmall (dec : Decoder) (req : Doc) : Except Problem Doc := do
  let needed ← need dec req "needed"
  lib (describeSocketError
    (SocketErrorObject.build (.int ErrorCode.recvBufferTooSmall.value) .none needed))

/-- `delegate_error`: a delegate's failure and the socket failure it becomes. -/
def delegateError (dec : Decoder) (req : Doc) : Except Problem Doc := do
  let e : DelegateErrorObject ← if (raw req "retry").truthy then pure DelegateErrorObject.retry
    else pure { code := ← field dec req "code", reason := ← field dec req "reason" }
  let text ← lib e.text
  let mapped ← lib (describeSocketError e.toSocketError)
  pure (.obj [("code", ofValue e.code), ("reason", ofValue e.reason), ("str", ofText text),
    ("is_retry", .bool e.isRetry), ("mapped", mapped)])

/-- The hooks every delegate must provide, in alphabetical order. -/
def delegateHooks : List String :=
  ["initialize", "on_accept", "on_connect", "recv_into", "send", "teardown"]

/-- `delegate_defaults`: what the bare delegate interface does. -/
def delegateDefaults : Doc :=
  .obj [("abstract", ofFailure (.typeError
      ("Can't instantiate abstract class SocketDelegate with abstract methods " ++
        ", ".intercalate delegateHooks))),
    ("alpn", ofFailure (.notImplemented "ALPN is not supported by this delegate")),
    ("negotiated_alpn_protocol", .null)]

/-! ## Addresses -/

/-- A field computed on its own: its value or its failure. -/
def each (r : Except Failure Doc) : Doc := orFailure r

/-- Every view of an address, each computed on its own. -/
def addressFields (a : Address Value) : Doc :=
  .obj [("family", .str a.family.name),
    ("size", .int a.size),
    ("str", each ((Address.text a).map ofText)),
    ("repr", .str (Value.quote (.addr a))),
    ("for_connection", ofValue a.forConnection),
    ("raw", each ((Address.toRaw a).map fun (bs, n) =>
      .obj [("hex", .str (hexOfBytes bs)), ("length", .int n)])),
    ("hostname_and_port", match a.hostAndPort? with
      | some (h, p) => .arr [ofValue h, ofValue p]
      | none => .null)]

/-- The address in field `key` of a request. -/
def addressField (dec : Decoder) (req : Doc) (key : String) : Except Problem (Address Value) := do
  dec.address (← needDoc req key)

/-- `address`: every view of an address. -/
def address (dec : Decoder) (req : Doc) : Except Problem Doc := do
  let a ← addressField dec req "address"
  pure (addressFields a)

/-- `new_socket_address`: the address made from native parts. -/
def newSocketAddress (dec : Decoder) (req : Doc) : Except Problem Doc := do
  let addr ← field dec req "addr"
  let family ← field dec req "family"
  let a ← lib (Address.ofNative addr family)
  pure (.obj [("result", ofAddress a), ("fields", addressFields a)])

/-- `decode_raw_address`: the address of a native layout. -/
def decodeRawAddress (req : Doc) : Except Problem Doc := do
  let hex := (req.string? "hex").getD ""
  match bytesOfHex? hex with
  | none => .error (.malformed "bad hex")
  | some bs =>
    match Address.decode bs with
    | some a => pure (.obj [("result", ofAddress a), ("fields", addressFields a)])
    | none => pure (.obj [("result", .null), ("fields", .null)])

/-- `from_syscall`: the address a system call reported. -/
def fromSyscall (dec : Decoder) (req : Doc) : Except Problem Doc := do
  if req.has "raise_errno" then
    let errno := raw req "raise_errno"
    let (_, _, text) ← lib (osErrorOf errno .none)
    throw (.failure (.osValue errno (text.display.chars)))
  let result ← field dec req "result"
  let family ← field dec req "family"
  let raw ← field dec req "raw"
  let a ← lib (Address.ofSyscall family raw)
  pure (.obj [("result", ofValue result), ("address", match a with
    | some a => ofAddress a
    | none => .null)])

/-- The document of the host and port of an address. -/
def hostAndPortDoc (a : Address Value) : Doc :=
  match a.hostAndPort? with
  | some (h, p) => .arr [ofValue h, ofValue p]
  | none => .null

/-- `hostname_and_port`: the host and port of an internet address. -/
def hostnameAndPort (dec : Decoder) (req : Doc) : Except Problem Doc := do
  let a ← addressField dec req "address"
  pure (.obj [("result", hostAndPortDoc a)])

/-- `create_address`: the first address a host and port resolve to. -/
def createAddress (dec : Decoder) (req : Doc) : Except Problem Doc := do
  let host ← need dec req "host"
  let port ← need dec req "port"
  let a ← lib (Resolver.createAddress host port)
  pure (.obj [("result", match a with | some a => ofValue (.addr a) | none => .null)])

/-! ## Signatures -/

/-- A signature argument: a member name stands for the member's number. -/
def enumArg (dec : Decoder) (req : Doc) (key : String) (names : String → Option Int) :
    Except Problem Value :=
  match req.field? key with
  | some (.str s) => .ok (match names s with
    | some n => .int n
    | none => .ofString s)
  | some d => dec.value d
  | none => .ok .none

/-- The document of a signature. -/
def signatureDoc (s : Signature) : List (String × Doc) :=
  [("protocol_family", .str s.family.name), ("socket_type", .str s.type.name),
    ("proto", .str s.protocol.name), ("hostname", ofValue s.hostname), ("port", ofValue s.port),
    ("path", ofValue s.path), ("address", ofValue s.address), ("is_secure", .bool s.isSecure),
    ("is_bound", .bool s.isBound)]

/-- The arguments of a signature constructor. -/
structure SignatureArgs where
  /-- The family. -/
  family : Value
  /-- The type. -/
  type : Value
  /-- The protocol. -/
  proto : Value
  /-- The host. -/
  hostname : Value
  /-- The port. -/
  port : Value
  /-- The path. -/
  path : Value
  /-- The address. -/
  address : Value

/-- Read the arguments of a signature constructor. -/
def signatureArgs (dec : Decoder) (args : Doc) : Except Problem SignatureArgs := do
  pure {
    family := ← enumArg dec args "family" fun s => (Family.ofName? s).map (·.value)
    type := ← enumArg dec args "type" fun s => (SocketType.ofName? s).map (·.value)
    proto := ← enumArg dec args "proto" fun s => (Protocol.ofName? s).map (·.value)
    hostname := ← field dec args "hostname"
    port := ← field dec args "port"
    path := ← field dec args "path"
    address := ← match args.field? "address" with
      | some .null | none => pure .none
      | some d => (dec.address d).map Value.addr }

/-- Build a signature with the named constructor. -/
def buildSignature (ctor : String) (a : SignatureArgs) : Except Problem Signature :=
  match ctor with
  | "from_values" => lib (Signature.fromValues a.family a.type a.proto a.address)
  | "for_host" => lib (Signature.forHost a.family a.type a.proto a.hostname a.port)
  | "for_path" => lib (Signature.forPath a.type a.proto a.path)
  | "_for_endpoint" =>
    lib (Signature.forEndpoint a.family a.type a.proto a.address a.hostname a.port)
  | other => .error (.malformed ("unknown constructor " ++ other))

/-- `signature`: a signature and its description. -/
def signature (dec : Decoder) (req : Doc) : Except Problem Doc := do
  let args ← signatureArgs dec ((req.field? "args").getD (.obj []))
  let s ← buildSignature ((req.string? "ctor").getD "") args
  let d := ofText (← lib s.description)
  pure (.obj (signatureDoc s ++ [("description", d), ("str", d)]))

/-! ## Descriptor sets -/

/-- The descriptor set a request describes: its `init` items in a set of `size` descriptors. -/
def descriptorSet (dec : Decoder) (spec : Doc) : Except Problem DescriptorSet := do
  let size ← match spec.field? "size" with
    | some d => dec.value d
    | none => pure (.int (Int.ofNat Limits.fdSetSize))
  let init ← match spec.field? "init" with
    | some d => dec.value d
    | none => pure (.tuple [])
  lib (DescriptorSet.ofValues size init)

/-- The descriptor set an object of an `eq` step describes, its fields taken as they are. -/
def otherSet (fields : List (String × Doc)) : Except Failure DescriptorSet :=
  let spec := Doc.obj fields
  let size := if spec.has "size" then raw spec "size" else .int (Int.ofNat Limits.fdSetSize)
  let init := if spec.has "init" then raw spec "init" else .tuple []
  DescriptorSet.ofValues size init

/-- The members of a set as a document. -/
def membersDoc (s : DescriptorSet) : Doc := Doc.ofNats s.toList

/-- One operation on a set: the set after it and the result or failure. -/
def setStep (dec : Decoder) (s : DescriptorSet) (op : Doc) :
    Except Problem (DescriptorSet × Except Failure Doc) := do
  let fd ← field dec op "fd"
  match (op.string? "op").getD "" with
  | "add" => pure (match s.add fd with
    | .ok s' => (s', .ok .null)
    | .error e => (s, .error e))
  | "remove" => pure (match s.remove fd with
    | .ok s' => (s', .ok .null)
    | .error e => (s, .error e))
  | "contains" => pure (s, (s.contains fd).map .bool)
  | "in" => pure (s, .ok (.bool (s.mem fd)))
  | "zero" => pure (s.clear, .ok .null)
  | "len" => pure (s, .ok (.int s.size))
  | "bool" => pure (s, .ok (.bool s.nonempty))
  | "iter" => pure (s, .ok (membersDoc s))
  | "highest" => pure (s, .ok (.int s.highest))
  | "as_bytes" => pure (s, .ok (.str (hexOfBytes s.toBytes)))
  | "capacity" => pure (s, .ok (.int s.capacity))
  | "word_bits" => pure (s, .ok (.int DescriptorSet.wordBits))
  | "repr" => pure (s, .ok (.str s.render))
  | "hash" => pure (s, .error (.typeError "unhashable type: 'FDSet'"))
  | "eq" =>
    match op.field? "other" with
    | some (.obj fs) => pure (s, (otherSet fs).map fun other => .bool (decide (s = other)))
    | _ => pure (s, .ok (.bool false))
  | other => .error (.malformed ("unknown set operation " ++ other))

/-- Run the operations on a set in order. -/
def setSteps (dec : Decoder) : DescriptorSet → List Doc → Except Problem (DescriptorSet × List Doc)
  | s, [] => pure (s, [])
  | s, op :: ops => do
    let (s', r) ← setStep dec s op
    let entry := match r with
      | .ok d => Doc.obj [("result", d), ("members", membersDoc s')]
      | .error e => (ofFailure e).set "members" (membersDoc s')
    let (final, rest) ← setSteps dec s' ops
    pure (final, entry :: rest)

/-- `fdset`: a set, then each operation on it. -/
def fdset (dec : Decoder) (req : Doc) : Except Problem Doc := do
  let s ← descriptorSet dec req
  let (final, steps) ← setSteps dec s ((req.list? "ops").getD [])
  pure (.obj [("capacity", .int s.capacity), ("members", membersDoc final), ("steps", .arr steps)])

/-! ## Checks -/

/-- The exception object of a request. -/
def raised (dec : Decoder) (spec : Doc) : Except Problem Raised := do
  let args ← dec.values ((spec.list? "args").getD [])
  lib (Raised.make ((spec.string? "exc").getD "Exception") args)

/-- The constants the library exports, by name. -/
def constants : Doc :=
  let errnos (xs : List Int) : Doc := .arr ((xs.mergeSort (· ≤ ·)).map .int)
  .obj [("CLOSED_SOCKET_ERRNOS", errnos Limits.closedSocketErrnos),
    ("CONNECTION_RESET_ERRNOS", errnos Limits.connectionResetErrnos),
    ("DEFAULT_MAX_BACKLOG", .int Limits.defaultBacklog),
    ("DEFAULT_READ_BUFFER_SIZE", .int Limits.defaultReadBufferSize),
    ("DEFAULT_SSL_READ_BUFFER_SIZE", .int Limits.secureReadBufferSize),
    ("FD_SETSIZE", .int Limits.fdSetSize),
    ("INVALID_DESCRIPTOR", .int Limits.invalidDescriptor),
    ("INVALID_PORT", .int Limits.invalidPort),
    ("MINIMUM_READ_BUFFER_SIZE", .int Limits.minimumReadBufferSize),
    ("NOT_CONNECTED_SOCKET_ERRNOS", errnos Limits.notConnectedErrnos),
    ("NO_HOSTNAME", .str Limits.noHostname),
    ("REUSEPORT_UNSUPPORTED_ERRNOS", errnos Limits.reuseportUnsupportedErrnos),
    ("SEND_FLAGS", .int Limits.sendFlags)]

/-- The bound value of a parameter. -/
def arg (bound : List (String × Value)) (name : String) : Value := (bound.lookup name).getD .none

/-- The parameters of the port check. -/
def portParams : Params :=
  { name := "validate_port", positional := ["port"], keywordOnly := ["allow_zero"] }

/-- The parameters of the timeout check. -/
def timeoutParams : Params := { name := "validate_timeout_milliseconds", positional := ["timeout"] }

/-- The parameters of the buffer size check. -/
def bufferParams : Params := { name := "validate_buffer_size", positional := ["size"] }

/-- The parameters of the OS error builder. -/
def errnoParams : Params :=
  { name := "error_from_errno", positional := ["errno", "msg"], defaults := [("msg", .none)] }

/-- The parameters of the timeout packer. -/
def packParams : Params := { name := "pack_timeout", positional := ["milliseconds"] }

/-- Call a checking helper by name. -/
def callCheck (fn : String) (args : List Value) (kwargs : List (String × Value)) (exc : Option Raised) :
    Except Failure Doc :=
  match fn with
  | "validate_port" => do
    let b ← portParams.bind args kwargs
    (Checks.validatePort (arg b "port") (arg b "allow_zero")).map ofValue
  | "validate_timeout_milliseconds" => do
    let b ← timeoutParams.bind args kwargs
    (Checks.validateTimeout (arg b "timeout")).map ofValue
  | "validate_buffer_size" => do
    let b ← bufferParams.bind args kwargs
    (Checks.validateBufferSize (arg b "size")).map ofValue
  | "error_from_errno" => do
    let b ← errnoParams.bind args kwargs
    let (kind, errno, text) ← osErrorOf (arg b "errno") (arg b "msg")
    pure (.obj [("type", .str kind), ("errno", ofValue errno), ("strerror", ofValue text),
      ("str", ofText (Text.ofString "[Errno " ++ errno.display ++ Text.ofString "] " ++
        text.display))])
  | "error_reason" =>
    match exc with
    | some r => (r.reason).map ofText
    | none => .error (.typeError "error_reason() missing 1 required positional argument: 'exc'")
  | "is_closed_socket_error" =>
    match exc with
    | some r => (r.isClosedSocket).map .bool
    | none => .error (.typeError
        "is_closed_socket_error() missing 1 required positional argument: 'exc'")
  | "pack_timeout" => do
    let b ← packParams.bind args kwargs
    (Checks.packTimeout (arg b "milliseconds")).map fun bs => .str (hexOfBytes bs)
  | "timeval_struct" =>
    .ok (.obj [("format", .str Checks.timevalFormat.1), ("size", .int Checks.timevalFormat.2)])
  | "constants" => .ok constants
  | other => .error (.attributeError ("module has no attribute '" ++ other ++ "'"))

/-- `utils`: one checking helper. -/
def utils (dec : Decoder) (req : Doc) : Except Problem Doc := do
  let args ← dec.values ((req.list? "args").getD [])
  -- Keyword arguments reach the port check only.
  let kwargs ← if req.string? "fn" == some "validate_port" then
      ((req.field? "kwargs").map Doc.fields |>.getD []).mapM fun (k, d) => do
        pure (k, ← dec.value d)
    else pure []
  let exc ← match req.field? "exception" with
    | some spec => some <$> raised dec spec
    | none => pure none
  lib ((callCheck ((req.string? "fn").getD "") args kwargs exc).map (Doc.single "result"))

end Static

end Sockets
