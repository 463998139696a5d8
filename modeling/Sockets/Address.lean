import Sockets.Family
import Sockets.Failure
import Sockets.Inet

/-!
# Socket addresses

An address is one of three native layouts, and its fields are whatever values the caller gave
(`Address Value`). This module builds addresses from positional arguments, reads and writes their
native byte layout, and gives their text forms.

*Native layout.* Every layout starts with the family number as a little-endian 16-bit word.
* Internet: the port as a big-endian 16-bit word, the four address bytes, eight zero bytes
  (16 bytes in all).
* Internet version 6: the port (big-endian 16 bits), the flow label (big-endian 32 bits), the
  sixteen address bytes and the scope (little-endian 32 bits), 28 bytes in all; a `%zone` suffix
  of the host text is not part of the address bytes.
* Unix domain: the path's file-system bytes padded with zero bytes to 108 (110 bytes in all); a
  path of 108 bytes or more does not fit.

`Address.decode` reads a layout back (`none` when the family is unknown or the bytes are too
few); for the Unix domain the path ends at the first zero byte.
-/

namespace Sockets

/-- The bytes of a 16-bit word, most significant first. -/
def be16 (n : Nat) : List UInt8 := [(n / 256 % 256).toUInt8, (n % 256).toUInt8]

/-- The bytes of a 16-bit word, least significant first. -/
def le16 (n : Nat) : List UInt8 := [(n % 256).toUInt8, (n / 256 % 256).toUInt8]

/-- The bytes of a 32-bit word, most significant first. -/
def be32 (n : Nat) : List UInt8 :=
  [(n / Nat.pow 2 24 % 256).toUInt8, (n / Nat.pow 2 16 % 256).toUInt8, (n / 256 % 256).toUInt8,
    (n % 256).toUInt8]

/-- The bytes of a 32-bit word, least significant first. -/
def le32 (n : Nat) : List UInt8 := (be32 n).reverse

/-- The number of big-endian bytes. -/
def readBe (bs : List UInt8) : Nat := bs.foldl (fun acc b => acc * 256 + b.toNat) 0

/-- The number of little-endian bytes. -/
def readLe (bs : List UInt8) : Nat := readBe bs.reverse

/-- The lowercase hexadecimal text of bytes, two digits each. -/
def hexOfBytes (bs : List UInt8) : String :=
  String.join (bs.map fun b => Value.hexFixed 2 b.toNat)

/-- The unsigned integer of a field written into a native word of `bits` bits with the format
letter `letter`: integers only, in range. -/
def packUnsigned (letter : String) (bits : Nat) (v : Value) : Except Failure Nat :=
  match v.asInt? with
  | none => .error (.structError "required argument is not an integer")
  | some n =>
    if n < 0 || n ≥ Int.pow 2 64 then .error (.structError "argument out of range")
    else if n ≥ Int.pow 2 bits then
      .error (.structError ("'" ++ letter ++ "' format requires 0 <= number <= " ++
        toString (Nat.pow 2 bits - 1)))
    else .ok n.toNat

/-- The UTF-8 bytes of a text that must not hold surrogates. -/
def strictUtf8 (t : Text) : Except Failure (List UInt8) := t.utf8?.mapError Failure.surrogates

/-- The file-system bytes of a text. -/
def fsBytes (t : Text) : Except Failure (List UInt8) := t.fsBytes?.mapError Failure.surrogates

/-- The text of a host handed to address conversion: a string without zero characters. -/
def hostText (fn : String) (v : Value) : Except Failure String :=
  match v with
  | .str t => do
    let bytes ← strictUtf8 t
    if bytes.contains 0 then .error (.valueError "embedded null character")
    else .ok t.chars
  | _ => .error (.typeError (fn ++ "() argument 2 must be str, not " ++ v.typeName))

/-- The four bytes of an internet host text. -/
def packHost4 (v : Value) : Except Failure (List UInt8) := do
  let s ← hostText "inet_pton" v
  match Inet4.parse? s with
  | some bs => .ok bs
  | none => .error (.osText "illegal IP address string passed to inet_pton")

/-- The sixteen bytes of an internet version 6 host text. -/
def packHost6 (s : String) : Except Failure (List UInt8) :=
  match Inet6.parse? s with
  | some bs => .ok bs
  | none => .error (.osText "illegal IP address string passed to inet_pton")

/-- The file-system bytes of a path value. -/
def pathBytes (v : Value) : Except Failure (List UInt8) :=
  match v with
  | .str t => fsBytes t
  | .bytes b => .ok b
  | _ => .error (.typeError ("expected str, bytes or os.PathLike object, not " ++ v.typeName))

/-- The longest Unix-domain path, counting its terminating zero byte. -/
def unixPathMax : Nat := 108

namespace Address

/-- The family of an address. -/
def family {α : Type} : Address α → Family
  | .inet _ _ => .inet
  | .inet6 _ _ _ _ => .inet6
  | .unix _ => .unix

/-- The size of an address's native layout. -/
def size {α : Type} (a : Address α) : Nat :=
  match a.family with
  | .inet => 16
  | .inet6 => 28
  | .unix => 2 + unixPathMax

/-- The name a layout's constructor goes by. -/
def layoutName : Family → String
  | .inet => "IPv4SocketAddress"
  | .inet6 => "IPv6SocketAddress"
  | .unix => "UnixSocketAddress"

/-- The field names of a layout. -/
def fieldNames : Family → List String
  | .inet => ["host", "port"]
  | .inet6 => ["host", "port", "flowinfo", "scope_id"]
  | .unix => ["path"]

/-- How many leading fields of a layout have no default (the last two of version 6 default to 0). -/
def required : Family → Nat
  | .inet6 => 2
  | f => (fieldNames f).length

/-- Names joined as a sentence: `'a'`, `'a' and 'b'`, `'a', 'b' and 'c'`. -/
def nameList (names : List String) : String :=
  let quoted := names.map fun n => "'" ++ n ++ "'"
  match quoted.reverse with
  | [] => ""
  | [a] => a
  | last :: rest => ", ".intercalate rest.reverse ++ " and " ++ last

/-- The address of a layout built from positional arguments; too few or too many are refused as
a constructor call refuses them. -/
def build (f : Family) (args : List Value) : Except Failure (Address Value) :=
  let names := fieldNames f
  let req := required f
  let fn := layoutName f ++ ".__new__()"
  if args.length < req then
    let missing := (names.drop args.length).take (req - args.length)
    let count := missing.length
    .error (.typeError (fn ++ " missing " ++ toString count ++ " required positional argument" ++
      (if count == 1 then "" else "s") ++ ": " ++ nameList missing))
  else if args.length > names.length then
    let takes := if req == names.length then toString (names.length + 1)
      else "from " ++ toString (req + 1) ++ " to " ++ toString (names.length + 1)
    .error (.typeError (fn ++ " takes " ++ takes ++ " positional arguments but " ++
      toString (args.length + 1) ++ " were given"))
  else
    let arg (i : Nat) : Value := args.getD i (.int 0)
    match f with
    | .inet => .ok (.inet (arg 0) (arg 1))
    | .inet6 => .ok (.inet6 (arg 0) (arg 1) (arg 2) (arg 3))
    | .unix => .ok (.unix (arg 0))

/-- The fields of an address in order. -/
def fields : Address Value → List Value
  | .inet h p => [h, p]
  | .inet6 h p f s => [h, p, f, s]
  | .unix p => [p]

/-- What a connection call takes: the fields of an internet address, the path of a Unix one. -/
def forConnection : Address Value → Value
  | .unix p => p
  | a => .tuple a.fields

/-- The host and port of an internet address. -/
def hostAndPort? : Address Value → Option (Value × Value)
  | .inet h p => some (h, p)
  | .inet6 h p _ _ => some (h, p)
  | .unix _ => none

/-- The part of a version 6 host text before its `%zone`. -/
def hostPart (v : Value) : Except Failure String :=
  match v with
  | .str t => do
    let before := t.takeWhile (fun g => g != .char '%')
    hostText "inet_pton" (.str before)
  | .bytes _ | .bytearray _ => .error (.typeError "a bytes-like object is required, not 'str'")
  | _ => .error (.attributeError ("'" ++ v.typeName ++ "' object has no attribute 'partition'"))

/-- The native layout of an address and its length. -/
def toRaw : Address Value → Except Failure (List UInt8 × Nat)
  | .inet h p => do
    let host ← packHost4 h
    let port ← packUnsigned "H" 16 p
    .ok (le16 2 ++ be16 port ++ host ++ List.replicate 8 0, 16)
  | .inet6 h p f s => do
    let text ← hostPart h
    let host ← packHost6 text
    let port ← packUnsigned "H" 16 p
    let flow ← packUnsigned "I" 32 f
    let scope ← packUnsigned "I" 32 s
    .ok (le16 10 ++ be16 port ++ be32 flow ++ host ++ le32 scope, 28)
  | .unix p => do
    let path ← pathBytes p
    if path.length ≥ unixPathMax then .error (.valueError "Pathname supplied is too long.")
    else .ok (le16 1 ++ path ++ List.replicate (unixPathMax - path.length) 0, 2 + unixPathMax)

/-- A port written as a whole number, as the text of an internet address writes it. -/
def portText (v : Value) : Except Failure String :=
  match v with
  | .int n => .ok (toString n)
  | .bool b => .ok (if b then "1" else "0")
  | .float _ => .error (.valueError "Unknown format code 'd' for object of type 'float'")
  | .str _ => .error (.valueError "Unknown format code 'd' for object of type 'str'")
  | _ => .error (.typeError ("unsupported format string passed to " ++ v.typeName ++ ".__format__"))

/-- The text of an address: `(host, port)` with the host quoted, or the bare path. -/
def text : Address Value → Except Failure Text
  | .inet h p => do
    let port ← portText p
    .ok (Text.ofString ("(" ++ h.quote ++ ", " ++ port ++ ")"))
  | .inet6 h p _ _ => do
    let port ← portText p
    .ok (Text.ofString ("(" ++ h.quote ++ ", " ++ port ++ ")"))
  | .unix (.str t) => .ok t
  | .unix p => .error (.typeError ("__str__ returned non-string (type " ++ p.typeName ++ ")"))

/-- The plain text of a value: an address as `text` writes it, any other value as
`Value.display` does. -/
def textOf (v : Value) : Except Failure Text :=
  match v with
  | .addr a => text a
  | v => .ok v.display

/-- The first `n` items of a value taken as a sequence, as a slice of it gives them. -/
def sliceItems (v : Value) (n : Nat) : Except Failure (List Value) :=
  match v.items? with
  | some items => .ok (items.take n)
  | none => .error (.typeError ("'" ++ v.typeName ++ "' object is not subscriptable"))

/-- The address of family `family` made from what the system calls return: a host and port
(and for version 6 flow label and scope) or a path. -/
def ofNative (addr family : Value) : Except Failure (Address Value) :=
  match Family.ofValue? family with
  | some .inet => do
    let items ← sliceItems addr 2
    build .inet items
  | some .inet6 =>
    match addr.items? with
    | some items => build .inet6 items
    | none => .error (.typeError ("easysocket.address.IPv6SocketAddress() argument after * must " ++
        "be an iterable, not " ++ addr.typeName))
  | some .unix =>
    match addr with
    | .str t => .ok (.unix (.str t))
    | .bytes b => .ok (.unix (.str (Text.decode b)))
    | _ => .error (.typeError ("Cannot convert " ++ addr.quote ++ " to a UnixSocketAddress"))
  | none => .error (.valueError ("Unsupported address family " ++ family.quote))

/-- Read a native layout back. -/
def decode (raw : List UInt8) : Option (Address Value) :=
  if raw.length < 2 then none
  else
    let body := raw.drop 2
    match Family.ofValue? (.int (readLe (raw.take 2))) with
    | some .inet =>
      if body.length < 14 then none
      else some (.inet (.ofString (Inet4.render ((body.drop 2).take 4)))
        (.int (readBe (body.take 2))))
    | some .inet6 =>
      if body.length < 26 then none
      else some (.inet6 (.ofString (Inet6.render ((body.drop 6).take 16)))
        (.int (readBe (body.take 2))) (.int (readBe ((body.drop 2).take 4)))
        (.int (readLe ((body.drop 22).take 4))))
    | some .unix => some (.unix (.str (Text.decode (body.takeWhile (· != 0)))))
    | none => none

/-- The address a system call reported with its family: `none` for an unknown family; native
bytes are read as a layout except for the Unix domain, whose bytes are a path. -/
def ofSyscall (family raw : Value) : Except Failure (Option (Address Value)) :=
  match Family.ofValue? family with
  | none => .ok none
  | some _ =>
    match raw.asBytes? with
    | some bs =>
      if family.equals (.int Family.unix.value) then (ofNative raw family).map some
      else .ok (decode bs)
    | none => (ofNative raw family).map some

end Address

end Sockets
