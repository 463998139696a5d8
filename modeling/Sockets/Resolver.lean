import Sockets.HostName
import Sockets.Inet
import Sockets.Family
import Sockets.Address

/-!
# Looking up hosts and services

The resolver turns a host and a service into the endpoints a socket may bind or connect to. It
runs on a machine whose host table holds only `localhost` (127.0.0.1) and which has no name
server and no service table, so only numeric hosts, `localhost` and absent hosts resolve.

The rules, in the order they are checked:

* A host or service of the single character `*` counts as absent; host and service both absent
  is "Name or service not known".
* The family must be unspecified (0), internet (2) or internet version 6 (10).
* The socket type picks the transports: a given type picks the first transport of that type
  (unknown types are refused); no type picks stream/TCP, datagram/UDP and raw, in that order.
* A service is read as an unsigned decimal number after optional blanks and a sign, wrapped to a
  32-bit signed number and then to 16 bits. A service that is not wholly such a number, or is
  negative, would need the service table and is "Servname not supported for ai_socktype"; so is
  any service for raw sockets.
* An absent host is the loopback address, or with the passive flag the any-address, of each
  family asked for, version 6 first.
* A host in the numbers-and-dots form (`127.1`) is an internet address; an internet version 6
  host may carry a `%scope`, either `lo` (for link-local addresses) or a decimal number. A host
  of the other family is "Address family for hostname not supported", except that a version 6
  host that maps an internet address serves an internet request.
* Other names are looked up in the host table, by ASCII letters without case. A name not found
  is "Name or service not known" when it is empty, when the internet family was asked for and
  the name is digits and dots not ending in a dot, or when it is no host name the name server could be asked
  about (`isHostName`); otherwise it is "Temporary failure in name resolution".
-/

namespace Sockets

/-- Why a lookup found nothing. -/
inductive LookupError where
  /-- The name or the service is unknown. -/
  | noName
  /-- The name server could not be reached. -/
  | again
  /-- The family is not one the resolver serves. -/
  | badFamily
  /-- The socket type is unknown. -/
  | badSocketType
  /-- The service is unknown for the socket type. -/
  | noService
  /-- The host is an address of another family. -/
  | addressFamily
  deriving DecidableEq, Inhabited, Repr

namespace LookupError

/-- The resolver's number for the error. -/
def code : LookupError → Int
  | .noName => -2
  | .again => -3
  | .badFamily => -6
  | .badSocketType => -7
  | .noService => -8
  | .addressFamily => -9

/-- The resolver's text for the error. -/
def text : LookupError → String
  | .noName => "Name or service not known"
  | .again => "Temporary failure in name resolution"
  | .badFamily => "ai_family not supported"
  | .badSocketType => "ai_socktype not supported"
  | .noService => "Servname not supported for ai_socktype"
  | .addressFamily => "Address family for hostname not supported"

/-- The failure a caller sees. -/
def toFailure (e : LookupError) : Failure := .resolve e.code e.text

end LookupError

/-- What a lookup asks for besides the host and the service. -/
structure Hints where
  /-- The family wanted, 0 for any. -/
  family : Int := 0
  /-- The socket type wanted, 0 for any. -/
  socketType : Int := 0
  /-- Whether an absent host means the any-address (for binding). -/
  passive : Bool := false
  deriving Inhabited

/-- One answer of a lookup: an endpoint and the kind of socket that reaches it. -/
structure Resolved where
  /-- The family number of the address, as the lookup answers it. -/
  family : Int
  /-- The socket type number. -/
  socketType : Int
  /-- The protocol number. -/
  protocol : Int
  /-- The address bytes: four for internet, sixteen for version 6. -/
  host : List UInt8
  /-- The port. -/
  port : Nat
  /-- The scope of a version 6 address. -/
  scopeId : Nat := 0
  deriving Inhabited

namespace Resolved

/-- Whether the family is one of the library's. -/
def known (r : Resolved) : Bool := (Family.ofValue? (.int r.family)).isSome

/-- Whether the address is an internet version 6 one. -/
def isInet6 (r : Resolved) : Bool := r.family == Family.inet6.value

/-- The text of the host address. -/
def hostText (r : Resolved) : String :=
  if r.isInet6 then Inet6.render r.host else Inet4.render r.host

/-- The native tuple of the endpoint: host text and port, and for version 6 the flow label
(always 0) and the scope. -/
def sockaddr (r : Resolved) : Value :=
  if r.isInet6 then .tuple [.ofString r.hostText, .int r.port, .int 0, .int r.scopeId]
  else .tuple [.ofString r.hostText, .int r.port]

end Resolved

namespace Resolver

/-- A kind of socket the resolver knows: its type and protocol, whether a lookup without a type
yields it, and whether it is raw (any protocol, no service). -/
structure Transport where
  socketType : Int
  protocol : Int
  byDefault : Bool
  raw : Bool

/-- The transports in the resolver's order. -/
def transports : List Transport :=
  [⟨1, 6, true, false⟩, ⟨2, 17, true, false⟩, ⟨6, 33, false, false⟩, ⟨2, 136, false, false⟩,
    ⟨1, 132, false, false⟩, ⟨5, 132, false, false⟩, ⟨3, 0, true, true⟩]

/-- How a service reads: absent, a number, or a name that needs the service table. -/
inductive Service where
  | absent
  | number (n : Int)
  | named
  deriving DecidableEq, Inhabited

/-- Whether a byte is a blank for number reading. -/
def isBlank (b : UInt8) : Bool := b == 32 || (9 ≤ b && b ≤ 13)

/-- Whether a byte is a decimal digit. -/
def isDigit (b : UInt8) : Bool := 48 ≤ b && b ≤ 57

/-- The value of decimal digits. -/
def decimal (ds : List UInt8) : Nat := ds.foldl (fun acc d => acc * 10 + (d.toNat - 48)) 0

/-- A 64-bit unsigned reading of a number text, wrapped to a 32-bit signed number. -/
def readService (bs : List UInt8) : Service :=
  let rest := bs.dropWhile isBlank
  let (negative, rest) := match rest with
    | 45 :: r => (true, r)
    | 43 :: r => (false, r)
    | r => (false, r)
  let ds := rest.takeWhile isDigit
  if ds.isEmpty || !(rest.dropWhile isDigit).isEmpty then .named
  else
    let v := decimal ds
    let wide : Nat :=
      if v ≥ Nat.pow 2 64 then Nat.pow 2 64 - 1
      else if negative then (Nat.pow 2 64 - v) % Nat.pow 2 64 else v
    let low : Nat := wide % Nat.pow 2 32
    .number (if low ≥ Nat.pow 2 31 then (low : Int) - Int.pow 2 32 else (low : Int))

/-- How a service argument reads. -/
def Service.read : Option (List UInt8) → Service
  | none => .absent
  | some [] => .absent
  | some bs => readService bs

/-- The socket type, protocol and port of each answer for one address. -/
def servTuples (service : Service) (socketType : Int) :
    Except LookupError (List (Int × Int × Nat)) := do
  let chosen ← if socketType == 0 then pure none else
    match transports.find? (·.socketType == socketType) with
    | some t => pure (some t)
    | none => throw .badSocketType
  if service != .absent && chosen.any (·.raw) then throw .noService
  let port ← match service with
    | .absent => pure 0
    | .number n => if n < 0 then throw .noService else pure (n.toNat % 65536)
    | .named => throw .noService
  match chosen with
  | some t => return [(t.socketType, t.protocol, port)]
  | none => return (transports.filter (·.byDefault)).map fun t => (t.socketType, t.protocol, port)

/-- The host table. -/
def hostTable : List (String × List UInt8) := [("localhost", [127, 0, 0, 1])]

/-- The ASCII lower case of a byte. -/
def lowerByte (b : UInt8) : UInt8 := if 65 ≤ b && b ≤ 90 then b + 32 else b

/-- The characters of bytes, one each. -/
def charsOf (bs : List UInt8) : List Char := bs.map fun b => Char.ofNat b.toNat

/-- Whether a link-local or local multicast version 6 address may name its scope. -/
def scopedByName (bs : List UInt8) : Bool :=
  match bs with
  | b0 :: b1 :: _ => (b0 == 0xFE && b1 &&& 0xC0 == 0x80) ||
      (b0 == 0xFF && (b1 &&& 0x0F == 1 || b1 &&& 0x0F == 2))
  | _ => false

/-- The scope number named after a `%`. -/
def scopeId? (bs : List UInt8) (scope : List UInt8) : Option Nat :=
  if scopedByName bs && scope == [108, 111] then some 1
  else if scope.isEmpty || !scope.all isDigit then none
  else
    let v := decimal scope
    if v ≤ Nat.pow 2 32 - 1 then some v else none

/-- Whether a byte may stand in a label of a host name: a letter, a digit, `-` or `_`. -/
def isLabelByte (b : UInt8) : Bool :=
  isDigit b || (65 ≤ b && b ≤ 90) || (97 ≤ b && b ≤ 122) || b == 45 || b == 95

/-- The labels of a domain name in the written form, as the name server would be sent them:
`\c` stands for the byte `c` and `\DDD` for the byte of three decimal digits (at most 255); a
dot ends a label. A label is 1 to 63 bytes, except that a final dot leaves an empty last label
(the root), and the labels with their length bytes and the root take at most 255 bytes. `fuel`
bounds the bytes read. -/
def wireLabels : Nat → List UInt8 → List UInt8 → List (List UInt8) → Option (List (List UInt8))
  | 0, _, _, _ => none
  | _ + 1, [], label, done =>
    if label.length ≥ 64 then none
    else
      let labels := (if label.isEmpty then done else label.reverse :: done).reverse
      if (labels.map (·.length + 1)).sum + 1 > 255 then none else some labels
  | fuel + 1, 92 :: rest, label, done =>
    match rest with
    | [] => none
    | d1 :: d2 :: d3 :: more =>
      if isDigit d1 then
        if isDigit d2 && isDigit d3 then
          let n := decimal [d1, d2, d3]
          if n > 255 then none else wireLabels fuel more (n.toUInt8 :: label) done
        else none
      else wireLabels fuel (d2 :: d3 :: more) (d1 :: label) done
    | d1 :: more => if isDigit d1 then none else wireLabels fuel more (d1 :: label) done
  | fuel + 1, 46 :: rest, label, done =>
    if label.length ≥ 64 then none
    else if rest.isEmpty then wireLabels fuel [] label done
    else if label.isEmpty || rest.head? == some 46 then none
    else wireLabels fuel rest [] (label.reverse :: done)
  | fuel + 1, b :: rest, label, done => wireLabels fuel rest (b :: label) done

/-- Whether the name server would be asked about a name: the name is printable ASCII without
blanks, reads as a domain name, its labels hold only letters, digits, `-` and `_`, and its first
label does not start with `-`. -/
def isHostName (name : List UInt8) : Bool :=
  name.all (fun b => 33 ≤ b && b ≤ 126) &&
    match wireLabels (name.length + 1) name [] [] with
    | none => false
    | some labels =>
      labels.all (·.all isLabelByte) && (labels.head?.bind List.head?) != some 45

/-- The addresses of a host: family, bytes and scope. -/
def addresses (host : Option (List UInt8)) (hints : Hints) :
    Except LookupError (List (Family × List UInt8 × Nat)) := do
  match host with
  | none =>
    let six : List (Family × List UInt8 × Nat) :=
      if hints.family == 0 || hints.family == 10 then
        [(.inet6, if hints.passive then List.replicate 16 0 else List.replicate 15 0 ++ [1], 0)]
      else []
    let four : List (Family × List UInt8 × Nat) :=
      if hints.family == 0 || hints.family == 2 then
        [(.inet, if hints.passive then [0, 0, 0, 0] else [127, 0, 0, 1], 0)]
      else []
    return six ++ four
  | some name =>
    let text := String.ofList (charsOf name)
    if let some n := Inet4.parseLoose? text then
      if hints.family == 0 || hints.family == 2 then return [(.inet, Inet4.bytesOf n, 0)]
      throw .addressFamily
    let (front, scope) := match name.idxOf? 37 with
      | some i => (name.take i, some (name.drop (i + 1)))
      | none => (name, none)
    if let some bs := Inet6.parse? (String.ofList (charsOf front)) then
      let (fam, bytes) ←
        if hints.family == 0 || hints.family == 10 then pure (Family.inet6, bs)
        else if hints.family == 2 && bs.take 12 == List.replicate 10 0 ++ [0xFF, 0xFF] then
          pure (Family.inet, bs.drop 12)
        else throw .addressFamily
      let scopeNum ← match scope with
        | none => pure 0
        | some s =>
          let viewed := if fam == .inet then bytes ++ bs.drop 4 else bytes
          match scopeId? viewed s with
          | some v => pure v
          | none => throw .noName
      return [(fam, bytes, scopeNum)]
    let key := String.ofList (charsOf (name.map lowerByte))
    let found := if hints.family == 0 || hints.family == 2 then
      (hostTable.filter (·.1 == key)).map fun e => (Family.inet, e.2, 0)
    else []
    if !found.isEmpty then return found
    if name.isEmpty then throw .noName
    if hints.family == 2 && name.all (fun b => isDigit b || b == 46) && name.getLast? != some 46 then
      throw .noName
    if !isHostName name then throw .noName
    throw .again

/-- The bytes of a text as the system reads it: up to the first zero byte. -/
def cString (bs : List UInt8) : List UInt8 := bs.takeWhile (· != 0)

/-- Look up a host and a service (as bytes, absent if none). -/
def lookup (host service : Option (List UInt8)) (hints : Hints) :
    Except LookupError (List Resolved) := do
  let host := (host.map cString).filter (· != [42])
  let service := (service.map cString).filter (· != [42])
  if host.isNone && service.isNone then throw .noName
  unless hints.family == 0 || hints.family == 2 || hints.family == 10 do throw .badFamily
  let tuples ← servTuples (Service.read service) hints.socketType
  let addrs ← addresses host hints
  return addrs.flatMap fun (fam, bytes, scope) => tuples.map fun (ty, proto, port) =>
    { family := fam.value, socketType := ty, protocol := proto, host := bytes, port := port,
      scopeId := scope }

/-- The host argument as the resolver receives it: text in its ASCII-compatible form, bytes as
they are, or absent. -/
def hostArgument (v : Value) : Except Failure (Option (List UInt8)) :=
  match v with
  | .none => .ok none
  | .str t => (HostName.encode t).map some
  | .bytes b => .ok (some b)
  | _ => .error (.typeError "getaddrinfo() argument 1 must be string or None")

/-- The service argument as the resolver receives it: an integer as its decimal text (it must
fit a 64-bit signed number), text as UTF-8, bytes as they are, or absent. -/
def serviceArgument (v : Value) : Except Failure (Option (List UInt8)) :=
  match v with
  | .none => .ok none
  | .int n =>
    if n < -Int.pow 2 63 || n ≥ Int.pow 2 63 then .error (.overflow "Python int too large to convert to C long")
    else .ok (some (Utf8.encodeString (toString n)))
  | .str t => (strictUtf8 t).map some
  | .bytes b => .ok (some b)
  | _ => .error (.osText "Int or String expected")

/-- Resolve caller values: a host and a port. -/
def resolve (host port : Value) (hints : Hints) : Except Failure (List Resolved) := do
  let h ← hostArgument host
  let s ← serviceArgument port
  match lookup h s hints with
  | .ok rs => .ok rs
  | .error e => .error e.toFailure

/-- The first address a host and port resolve to, or none when the lookup fails with an OS,
text or overflow error. A host of the wrong type is still an error. -/
def createAddress (host port : Value) : Except Failure (Option (Address Value)) :=
  match resolve host port {} with
  | .error f => if f.isOsError || f.isUnicodeError || f.isOverflow then .ok none else .error f
  | .ok rs =>
    match rs.head? with
    | none => .ok none
    | some r => (Address.ofNative r.sockaddr (.int r.family)).map some

end Resolver

end Sockets
