import Sockets.Protocol.Doc
import Sockets.Address

/-!
# Values and failures on the wire

Requests carry caller values as documents, and answers carry values and failures back.

*Values.* A string is text, an integer an integer, an array a tuple. An object stands for the
rest: `{"hex": ...}` a byte string, `{"bytearray_hex": ...}` a mutable one, `{"float": ...}` a
float written in decimal, and `{"ipv4": [...]}`, `{"ipv6": [...]}`, `{"unix": path}` an address
built from those arguments, so that too few or too many arguments are refused as the address
constructors refuse them. In answers, text that holds undecodable bytes is written
`{"unencodable_hex": ...}`: the UTF-8 bytes of the text with each undecodable byte `b` as the
code point `U+DC00 + b`.

*Failures.* A socket failure is written with its code, the code's name, its reason, the buffer
size it needed and its text; an OS failure with its error number; any other failure with its
kind and text.
-/

namespace Sockets

/-- Why a request could not be carried out: a failure of the library, or a malformed request. -/
inductive Problem where
  /-- The library refused. -/
  | failure (f : Failure)
  /-- The request itself is malformed. -/
  | malformed (message : String)
  /-- The request lacks a field, or names an entry of a table that has none by that key. -/
  | missingKey (key : Value)
  deriving Inhabited

namespace Wire

/-- The bytes of lowercase or uppercase hexadecimal text; `none` for an odd length or a
non-digit. -/
def bytesOfHex? (s : String) : Option (List UInt8) :=
  let rec go : List Char → Option (List UInt8)
    | [] => some []
    | a :: b :: rest => do
      let hi ← hexValue? a
      let lo ← hexValue? b
      let tail ← go rest
      pure ((hi * 16 + lo).toUInt8 :: tail)
    | [_] => none
  go s.toList

/-- Whether a character is a blank that hexadecimal text may hold between bytes. -/
def isHexBlank (c : Char) : Bool :=
  c == ' ' || c == '\t' || c == '\n' || c == '\r' || c == '\x0b' || c == '\x0c'

/-- The bytes of hexadecimal text, two digits a byte, blanks allowed before each byte; the
refusal names the position of the first character that is not where a digit must be (the end of
the text when a byte lacks its second digit, the first character beyond ASCII when there is one).
`pos` is the position of the first character of `cs`. -/
def hexBytesFrom (pos : Nat) : List Char → Except Nat (List UInt8)
  | [] => .ok []
  | c :: rest =>
    if isHexBlank c then hexBytesFrom (pos + 1) rest
    else
      match hexValue? c, rest with
      | some hi, d :: more =>
        match hexValue? d with
        | some lo => (hexBytesFrom (pos + 2) more).map ((hi * 16 + lo).toUInt8 :: ·)
        | none => .error (pos + 1)
      | some _, [] => .error (pos + 1)
      | none, _ => .error pos

/-- The bytes that hexadecimal text writes, or the refusal naming the first bad position. -/
def fromHex (s : String) : Except Failure (List UInt8) :=
  let cs := s.toList
  let bad (i : Nat) : Failure :=
    .valueError ("non-hexadecimal number found in fromhex() arg at position " ++ toString i)
  match cs.findIdx? (·.toNat ≥ 128) with
  | some i => .error (bad i)
  | none => (hexBytesFrom 0 cs).mapError bad

/-- The bytes that hexadecimal text given as a value writes: the value must be text. -/
def hexOfValue (v : Value) : Except Failure (List UInt8) :=
  match v with
  | .str t => fromHex (String.ofList (t.map fun g => match g with
      | .char c => c
      | .surrogate _ => '\uFFFD'))
  | v => .error (.typeError ("fromhex() argument must be str, not " ++ v.typeName))

/-- The text of a string, or its hexadecimal escape when it holds undecodable bytes. -/
def ofText (t : Text) : Doc :=
  match t.toString? with
  | some s => .str s
  | none => .obj [("unencodable_hex", .str (hexOfBytes t.passBytes))]

mutual
/-- The document of a value. -/
def ofValue : Value → Doc
  | .none => .null
  | .bool b => .bool b
  | .int n => .int n
  | .float x => .obj [("float", .str x.text)]
  | .str t => ofText t
  | .bytes b => .obj [("hex", .str (hexOfBytes b))]
  | .bytearray b => .obj [("hex", .str (hexOfBytes b))]
  | .tuple items => .arr (ofValues items)
  | .list items => .arr (ofValues items)
  | .dict fields => .obj (ofFields fields)
  | .addr a => ofAddress a

/-- The documents of values. -/
def ofValues : List Value → List Doc
  | [] => []
  | v :: vs => ofValue v :: ofValues vs

/-- The documents of named values. -/
def ofFields : List (String × Value) → List (String × Doc)
  | [] => []
  | (k, v) :: rest => (k, ofValue v) :: ofFields rest

/-- The document of an address. -/
def ofAddress : Address Value → Doc
  | .inet h p => .obj [("ipv4", .arr [ofValue h, ofValue p])]
  | .inet6 h p f s => .obj [("ipv6", .arr [ofValue h, ofValue p, ofValue f, ofValue s])]
  | .unix p => .obj [("unix", ofValue p)]
end

mutual
/-- The document of a value written as it is: a float as a JSON number, a sequence as an array,
a dictionary as an object; other values as `ofValue` writes them. -/
def plainValue : Value → Doc
  | .float x => .float x
  | .tuple items => .arr (plainValues items)
  | .list items => .arr (plainValues items)
  | .dict fields => .obj (plainFields fields)
  | v => ofValue v

/-- The plain documents of values. -/
def plainValues : List Value → List Doc
  | [] => []
  | v :: vs => plainValue v :: plainValues vs

/-- The plain documents of named values. -/
def plainFields : List (String × Value) → List (String × Doc)
  | [] => []
  | (k, v) :: rest => (k, plainValue v) :: plainFields rest
end

mutual
/-- The value a document is before any decoding: an array is a list, an object a dictionary. -/
def rawValue : Doc → Value
  | .null => .none
  | .bool b => .bool b
  | .int n => .int n
  | .float x => .float x
  | .str s => .ofString s
  | .text t => .str t
  | .arr items => .list (rawValues items)
  | .obj fields => .dict (rawFields fields)

/-- The raw values of documents. -/
def rawValues : List Doc → List Value
  | [] => []
  | d :: ds => rawValue d :: rawValues ds

/-- The raw values of named documents. -/
def rawFields : List (String × Doc) → List (String × Value)
  | [] => []
  | (k, d) :: rest => (k, rawValue d) :: rawFields rest
end

/-- The document of an optional value. -/
def ofOptValue : Option Value → Doc
  | some v => ofValue v
  | none => .null

/-- The document of a socket failure, without its kind. -/
def socketErrorFields (e : SocketError) : List (String × Doc) :=
  [("code", .int e.code), ("name", Doc.ofOptString e.name?),
    ("reason", Doc.ofOptString e.reason), ("buffer_size_needed", .int e.bufferSizeNeeded)]

/-- The document of a failure. -/
def ofFailure (f : Failure) : Doc :=
  match f with
  | .socket e =>
    .obj ([("error", .str "SocketError")] ++ socketErrorFields e ++ [("message", .str e.message)])
  | .os n _ => .obj [("error", .str f.kindName), ("errno", .int n), ("message", .str f.message)]
  | .osPath n _ _ =>
    .obj [("error", .str f.kindName), ("errno", .int n), ("message", .str f.message)]
  | .resolve n _ => .obj [("error", .str f.kindName), ("errno", .int n), ("message", .str f.message)]
  | .osValue v _ => .obj [("error", .str f.kindName), ("errno", ofValue v), ("message", .str f.message)]
  | _ => .obj [("error", .str f.kindName), ("message", .str f.message)]

/-- The document of a problem. -/
def ofProblem : Problem → Doc
  | .failure f => ofFailure f
  | .malformed m => .obj [("error", .str "DriverError"), ("message", .str m)]
  | .missingKey k => .obj [("error", .str "KeyError"), ("message", .str k.quote)]

/-- A document or the failure in its place. -/
def orFailure : Except Failure Doc → Doc
  | .ok d => d
  | .error f => ofFailure f

end Wire

/-- Decoding documents into values; `portOf` resolves a `{"port_of": name}` reference. -/
structure Decoder where
  /-- The port a reference names, if the name is known. -/
  portOf : Value → Option Value := fun _ => none
  /-- Whether arrays stay lists; otherwise they become tuples. -/
  lists : Bool := false

namespace Decoder

/-- The refusal of a malformed request. -/
def malformed {α : Type} (msg : String) : Except Problem α := .error (.malformed msg)

mutual
/-- The value a document stands for. -/
def value (dec : Decoder) : Doc → Except Problem Value
  | .null => .ok .none
  | .bool b => .ok (.bool b)
  | .int n => .ok (.int n)
  | .float x => .ok (.float x)
  | .str s => .ok (.ofString s)
  | .text t => .ok (.str t)
  | .arr items => (values dec items).map fun vs => if dec.lists then .list vs else .tuple vs
  | .obj fields => object dec fields

/-- The values of documents. -/
def values (dec : Decoder) : List Doc → Except Problem (List Value)
  | [] => .ok []
  | d :: ds => do
    let v ← value dec d
    let vs ← values dec ds
    pure (v :: vs)

/-- The value an object stands for. -/
def object (dec : Decoder) : List (String × Doc) → Except Problem Value
  | [("hex", .str h)] => (Wire.fromHex h).map Value.bytes |>.mapError .failure
  | [("bytearray_hex", .str h)] => (Wire.fromHex h).map Value.bytearray |>.mapError .failure
  | [("float", .str t)] =>
    match Binary64.parse? t with
    | some x => .ok (.float x)
    | none =>
      .error (.failure (.valueError
        ("could not convert string to float: " ++ Value.quoteText (Text.ofString t))))
  | [("float", .text t)] =>
    .error (.failure (.valueError ("could not convert string to float: " ++ Value.quoteText t)))
  | [("port_of", d)] =>
    match dec.portOf (Wire.rawValue d) with
    | some v => .ok v
    | none => malformed ("unknown socket id " ++ (Wire.rawValue d).quote)
  | [("ipv4", d)] => do
    let args ← arguments dec .inet d
    (Address.build .inet args).map Value.addr |>.mapError .failure
  | [("ipv6", d)] => do
    let args ← arguments dec .inet6 d
    (Address.build .inet6 args).map Value.addr |>.mapError .failure
  | [("unix", d)] => do
    let path ← value dec d
    .ok (.addr (.unix path))
  | fields => (members dec fields).map .dict

/-- The arguments an address of family `f` is built with: the items of the decoded value. -/
def arguments (dec : Decoder) (f : Family) : Doc → Except Problem (List Value)
  | .arr items => values dec items
  | d => do
    let v ← value dec d
    match v.items? with
    | some items => pure items
    | none => .error (.failure (.typeError ("easysocket.address." ++ Address.layoutName f ++
        "() argument after * must be an iterable, not " ++ v.typeName)))

/-- The values of named documents. -/
def members (dec : Decoder) : List (String × Doc) → Except Problem (List (String × Value))
  | [] => .ok []
  | (k, d) :: rest => do
    let v ← value dec d
    let vs ← members dec rest
    pure ((k, v) :: vs)
end

/-- The address an address document stands for: an object with an `ipv4`, `ipv6` or `unix`
field, looked for in that order. -/
def address (dec : Decoder) (d : Doc) : Except Problem (Address Value) := do
  let fields ← match d with
    | .obj fields => pure fields
    | _ => malformed "address must be an object"
  let some (kind, arg) := ["ipv4", "ipv6", "unix"].findSome? fun k =>
      (fields.lookup k).map fun a => (k, a)
    | malformed "unknown address kind"
  match ← value dec (.obj [(kind, arg)]) with
  | .addr a => pure a
  | _ => malformed "unknown address kind"

end Decoder

end Sockets
