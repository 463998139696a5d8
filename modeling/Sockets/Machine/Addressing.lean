import Sockets.Machine.World

/-!
# Native socket addresses from caller values, and back

A native call that takes an address reads it from a caller value for the socket's family:

* Unix-domain: text (in the file-system encoding) or bytes. A path that is empty or starts with
  a zero byte is an abstract name of at most 108 bytes; any other path must be shorter than 108
  bytes and ends at its first zero byte.
* Internet: a tuple of a host and a port; version 6 may add a flow label and a scope. The host
  is text (ASCII as it is, other text in its ASCII-compatible form), bytes or a byte array,
  without zero characters; the port is a machine integer. The host is then read as an address:
  empty is the any-address, `<broadcast>` and `255.255.255.255` the broadcast address of
  version 4, a numeric address of the family is taken as it is, and any other host is looked up.
  The port must lie in `0..65535` and a flow label in `0..1048575`; these are checked after the
  host is read.

The name of the call starts some of the refusals, as in "sendto(): port must be 0-65535.".

The other way, a kernel address is given back as a tuple of the host text and the port (and
the flow label and scope), or as a path: an abstract name as bytes, any other path as text.
-/

namespace Sockets

namespace Addressing

/-- The largest and smallest C `int`. -/
def intMax : Int := Int.pow 2 31 - 1

/-- The refusal of a value that is not an integer. -/
def notAnInteger (v : Value) : Failure :=
  .typeError ("'" ++ v.typeName ++ "' object cannot be interpreted as an integer")

/-- A value read as a C `int`. -/
def cInt (v : Value) : Except Failure Int :=
  match v with
  | .float _ => .error (notAnInteger v)
  | _ =>
    match v.asInt? with
    | some n =>
      if n ≥ Int.pow 2 63 || n < -Int.pow 2 63 then .error (.overflow "Python int too large to convert to C long")
      else if n > intMax then .error (.overflow "signed integer is greater than maximum")
      else if n < -intMax - 1 then .error (.overflow "signed integer is less than minimum")
      else .ok n
    | none => .error (notAnInteger v)

/-- A value read as a C `unsigned int`, keeping its low 32 bits. -/
def cUnsigned (v : Value) : Except Failure Nat :=
  match v with
  | .float _ => .error (notAnInteger v)
  | _ =>
    match v.asInt? with
    | some n => .ok (n % Int.pow 2 32).toNat
    | none => .error (notAnInteger v)

/-- The bytes of a host argument. -/
def hostBytes (v : Value) : Except Failure (List UInt8) := do
  let bytes ← match v with
    | .bytes b => pure b
    | .bytearray b => pure b
    | .str t =>
      if t.all (fun g => g.code < 128) then
        pure (HostName.asciiBytes t)
      else match HostName.encode t with
        | .ok b => pure b
        | .error _ => throw (.typeError "encoding of hostname failed")
    | other => throw (.typeError ("str, bytes or bytearray expected, not " ++ other.typeName))
  if bytes.contains 0 then throw (.typeError "host name must not contain null character")
  pure bytes

/-- The text of host bytes, one character per byte. -/
def hostString (bs : List UInt8) : String := String.ofList (bs.map fun b => Char.ofNat b.toNat)

/-- The address bytes a host names for a family (internet or version 6). -/
def hostAddress (host : List UInt8) (family : Family) : Except Failure (List UInt8) := do
  let text := hostString host
  if host.isEmpty then
    return if family == .inet6 then List.replicate 16 0 else [0, 0, 0, 0]
  if text == "255.255.255.255" || text == "<broadcast>" then
    if family == .inet then return [255, 255, 255, 255]
    throw (.osText "address family mismatched")
  if family == .inet then
    if let some bs := Inet4.parse? text then return bs
  if family == .inet6 && !host.contains 37 then
    if let some bs := Inet6.parse? text then return bs
  match Resolver.lookup (some host) none { family := family.value } with
  | .error e => throw e.toFailure
  | .ok rs =>
    match rs.head? with
    | some r => pure r.host
    | none => throw (LookupError.noName).toFailure

/-- The refusal of a port or flow label out of range, by a call. -/
def outOfRange (caller what range : String) : Failure :=
  .overflow (caller ++ "(): " ++ what ++ " must be " ++ range ++ ".")

/-- A port read for a call: a C `int`, an overflow being reported as a bad port. -/
def portArgument (caller : String) (v : Value) : Except Failure Int :=
  match cInt v with
  | .ok n => .ok n
  | .error f => if f.isOverflow then .error (outOfRange caller "port" "0-65535") else .error f

/-- The path bytes of a Unix-domain address argument. -/
def pathBytes (v : Value) : Except Failure (List UInt8) :=
  match v with
  | .str t => fsBytes t
  | .bytes b => .ok b
  | .bytearray b => .ok b
  | other => .error (.typeError ("a bytes-like object is required, not '" ++ other.typeName ++ "'"))

/-- The kernel address a caller value gives for a socket of a family, read for a call. -/
def ofValue (caller : String) (family : Family) (v : Value) : Except Failure SockAddr := do
  match family with
  | .unix =>
    let path ← pathBytes v
    if path.isEmpty || path.head? == some 0 then
      if path.length > unixPathMax then throw (.osText "AF_UNIX path too long")
      pure (.unix path)
    else
      if path.length ≥ unixPathMax then throw (.osText "AF_UNIX path too long")
      pure (.unix (path.takeWhile (· != 0)))
  | .inet =>
    let some items := v.tupleItems?
      | throw (.typeError (caller ++ "(): AF_INET address must be tuple, not " ++ v.typeName))
    let [h, p] := items
      | throw (.typeError "AF_INET address must be a pair (host, port)")
    let host ← hostBytes h
    let port ← portArgument caller p
    let bytes ← hostAddress host .inet
    if port < 0 || port > 65535 then throw (outOfRange caller "port" "0-65535")
    pure (.inet bytes port.toNat)
  | .inet6 =>
    let some items := v.tupleItems?
      | throw (.typeError (caller ++ "(): AF_INET6 address must be tuple, not " ++ v.typeName))
    if items.length < 2 || items.length > 4 then
      throw (.typeError "AF_INET6 address must be a tuple (host, port[, flowinfo[, scopeid]])")
    let host ← hostBytes (items.getD 0 .none)
    let port ← portArgument caller (items.getD 1 .none)
    let flow ← match items[2]? with
      | some f => cUnsigned f
      | none => pure 0
    let scope ← match items[3]? with
      | some s => cUnsigned s
      | none => pure 0
    let bytes ← hostAddress host .inet6
    if port < 0 || port > 65535 then throw (outOfRange caller "port" "0-65535")
    if flow > 0xFFFFF then throw (outOfRange caller "flowinfo" "0-1048575")
    pure (.inet6 bytes port.toNat flow scope)

/-- The caller value of a kernel address. -/
def toValue : SockAddr → Value
  | .inet h p => .tuple [.ofString (Inet4.render h), .int p]
  | .inet6 h p f s => .tuple [.ofString (Inet6.render h), .int p, .int f, .int s]
  | .unix path => if path.head? == some 0 then .bytes path else .str (Text.decode path)

/-- The caller value of the name of an endpoint of a family, named or not: an unnamed
Unix-domain endpoint reports the empty path, an unbound internet one the any-address. -/
def nameValue (family : Family) : Option SockAddr → Value
  | some a => toValue a
  | none => if family == .unix then .ofString "" else toValue (Internet.unbound family)

end Addressing

end Sockets
