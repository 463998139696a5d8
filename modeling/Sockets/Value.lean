import Sockets.Text
import Sockets.Binary64
import Sockets.Unicode.Printable

/-!
# Caller values

The library's entry points accept whatever a caller passes: a host name may arrive as a number, a
port as a string, an address as a bare string. Checks inside the library then refuse some of these
with a type or value error that quotes the offending value. `Value` is that loose universe of
arguments — none, flags, integers, floats, text, byte strings, tuples, lists, dictionaries and
socket addresses — and this module gives each value its quoted form (`Value.quote`), its plain
text form, its type name, its truth value and the equality that the checks use.

An address is one of three native layouts (`Address`); its fields are themselves values, since a
caller can build an address from any arguments. The typed view with integer fields lives in
`Sockets.Address`.

*Quoting.* Text is written between single quotes unless it holds a single quote and no double
quote. Backslash, the chosen quote, tab, newline and carriage return are escaped; other code points
that do not print (`Unicode.isPrintable`) become `\xNN`, `\uNNNN` or `\UNNNNNNNN`; printable
characters stay as they are. Byte strings are written the same way after a `b`, every byte outside
printable ASCII as `\xNN`. A float is written in its shortest form (`Binary64.text`), a list in
brackets and a dictionary in braces.
-/

namespace Sockets

/-- The three native socket address layouts, over the type of their fields. -/
inductive Address (α : Type) where
  /-- An internet (IPv4) address: host and port. -/
  | inet (host port : α)
  /-- An internet (IPv6) address: host, port, flow label and scope. -/
  | inet6 (host port flowinfo scopeId : α)
  /-- A Unix-domain address: the path of a socket node. -/
  | unix (path : α)
  deriving Inhabited

/-- A value passed by a caller. -/
inductive Value where
  /-- The absent value. -/
  | none
  /-- A flag; it also counts as the integer 0 or 1. -/
  | bool (b : Bool)
  /-- An integer of any size. -/
  | int (n : Int)
  /-- A floating-point number. -/
  | float (x : Binary64)
  /-- Text. -/
  | str (t : Text)
  /-- An immutable byte string. -/
  | bytes (data : List UInt8)
  /-- A mutable byte string. -/
  | bytearray (data : List UInt8)
  /-- A fixed sequence of values. -/
  | tuple (items : List Value)
  /-- A mutable sequence of values. -/
  | list (items : List Value)
  /-- A dictionary with text keys, in the order the keys were written. -/
  | dict (fields : List (String × Value))
  /-- A socket address. -/
  | addr (a : Address Value)
  deriving Inhabited

namespace Value

/-- Text made from a string. -/
def ofString (s : String) : Value := .str (Text.ofString s)

/-- The string of a text value without undecodable bytes. -/
def asString? : Value → Option String
  | .str t => t.toString?
  | _ => Option.none

/-- The integer a value stands for, flags included. -/
def asInt? : Value → Option Int
  | .int n => some n
  | .bool b => some (if b then 1 else 0)
  | _ => Option.none

/-- Whether a value is an integer in the wide sense (flags count). -/
def isInt (v : Value) : Bool := v.asInt?.isSome

/-- The number a value stands for, for numeric comparison: integers, flags and whole floats. -/
def asNumber? : Value → Option Int
  | .float x => x.whole?
  | v => v.asInt?

/-- The bytes of a byte string of either kind. -/
def asBytes? : Value → Option (List UInt8)
  | .bytes b => some b
  | .bytearray b => some b
  | _ => Option.none

/-! ## Type names and truth -/

/-- The name of a value's type. -/
def typeName : Value → String
  | .none => "NoneType"
  | .bool _ => "bool"
  | .int _ => "int"
  | .float _ => "float"
  | .str _ => "str"
  | .bytes _ => "bytes"
  | .bytearray _ => "bytearray"
  | .tuple _ => "tuple"
  | .list _ => "list"
  | .dict _ => "dict"
  | .addr (.inet _ _) => "IPv4SocketAddress"
  | .addr (.inet6 _ _ _ _) => "IPv6SocketAddress"
  | .addr (.unix _) => "UnixSocketAddress"

/-- The truth of a value: none, false, zero and empty collections are false. -/
def truthy : Value → Bool
  | .none => false
  | .bool b => b
  | .int n => n != 0
  | .float x => !x.isZero
  | .str t => !t.isEmpty
  | .bytes b => !b.isEmpty
  | .bytearray b => !b.isEmpty
  | .tuple items => !items.isEmpty
  | .list items => !items.isEmpty
  | .dict fields => !fields.isEmpty
  | .addr _ => true

/-- The items of a value taken as a sequence: the items of a tuple or list or the fields of an
address, the code points of a text, the bytes of a byte string (as integers), the keys of a
dictionary. -/
def items? : Value → Option (List Value)
  | .tuple items => some items
  | .list items => some items
  | .dict fields => some (fields.map fun (k, _) => .str (Text.ofString k))
  | .addr (.inet h p) => some [h, p]
  | .addr (.inet6 h p f s) => some [h, p, f, s]
  | .addr (.unix p) => some [p]
  | .str t => some (t.map fun g => .str [g])
  | .bytes b => some (b.map fun x => .int x.toNat)
  | .bytearray b => some (b.map fun x => .int x.toNat)
  | _ => Option.none

/-! ## Equality -/

/-- The items of a tuple or the fields of an address; `none` for any other value. -/
def tupleItems? : Value → Option (List Value)
  | .tuple items => some items
  | .addr (.inet h p) => some [h, p]
  | .addr (.inet6 h p f s) => some [h, p, f, s]
  | .addr (.unix p) => some [p]
  | _ => Option.none

/-- Equality of two values that are neither sequences, dictionaries nor addresses: numbers by
value (a float equals the integer it is), byte strings by content, text by its code points. -/
def equalsScalar (a b : Value) : Bool :=
  match a, b with
  | .none, .none => true
  | .str x, .str y => x == y
  | .float x, .float y => x.equals y
  | .float x, b => (b.asInt?.map x.equalsInt).getD false
  | a, .float y => (a.asInt?.map y.equalsInt).getD false
  | _, _ =>
    match a.asBytes?, b.asBytes? with
    | some x, some y => x == y
    | _, _ =>
      match a.asInt?, b.asInt? with
      | some x, some y => x == y
      | _, _ => false

mutual
/-- Equality of values as the library's comparisons see it: numbers by value, byte strings by
content, tuples and addresses item by item (an address equals the tuple of its fields), lists
with lists and dictionaries with dictionaries. -/
def equals : Value → Value → Bool
  | .tuple xs, b =>
    match b.tupleItems? with
    | some ys => equalsList xs ys
    | Option.none => false
  | .addr a, b => equalsAddr a b
  | .list xs, .list ys => equalsList xs ys
  | .list _, _ => false
  | _, .list _ => false
  | .dict xs, .dict ys => equalsFields xs ys
  | .dict _, _ => false
  | _, .dict _ => false
  | a, b =>
    match b.tupleItems? with
    | some _ => false
    | Option.none => equalsScalar a b

/-- Item-by-item equality of a list of values with another. -/
def equalsList : List Value → List Value → Bool
  | [], [] => true
  | x :: xs, y :: ys => equals x y && equalsList xs ys
  | _, _ => false

/-- Field-by-field equality of dictionary fields, in order. -/
def equalsFields : List (String × Value) → List (String × Value) → Bool
  | [], [] => true
  | (k, x) :: xs, (l, y) :: ys => k == l && equals x y && equalsFields xs ys
  | _, _ => false

/-- Equality of an address with a value, field by field. -/
def equalsAddr : Address Value → Value → Bool
  | .inet h p, b =>
    match b.tupleItems? with
    | some [h', p'] => equals h h' && equals p p'
    | _ => false
  | .inet6 h p f s, b =>
    match b.tupleItems? with
    | some [h', p', f', s'] => equals h h' && equals p p' && equals f f' && equals s s'
    | _ => false
  | .unix p, b =>
    match b.tupleItems? with
    | some [p'] => equals p p'
    | _ => false
end

mutual
/-- The type name of the first part of a value that cannot be a key of a set (mutable byte
strings), or `none` when the whole value can be one. -/
def unhashablePart? : Value → Option String
  | .bytearray _ => some "bytearray"
  | .list _ => some "list"
  | .dict _ => some "dict"
  | .tuple items => unhashablePartList? items
  | .addr a => unhashablePartAddr? a
  | _ => Option.none

/-- The first part of a list of values that cannot be a key of a set. -/
def unhashablePartList? : List Value → Option String
  | [] => Option.none
  | x :: xs => (unhashablePart? x).orElse fun _ => unhashablePartList? xs

/-- The first field of an address that cannot be a key of a set. -/
def unhashablePartAddr? : Address Value → Option String
  | .inet h p => (unhashablePart? h).orElse fun _ => unhashablePart? p
  | .inet6 h p f s =>
    (unhashablePart? h).orElse fun _ => (unhashablePart? p).orElse fun _ =>
      (unhashablePart? f).orElse fun _ => unhashablePart? s
  | .unix p => unhashablePart? p
end

/-- Whether a value can be a key of a set. -/
def hashable (v : Value) : Bool := v.unhashablePart?.isNone

/-! ## Quoting -/

/-- The lowercase hexadecimal digit of `n < 16`. -/
def hexDigit (n : Nat) : Char := if n < 10 then Char.ofNat (48 + n) else Char.ofNat (87 + n)

/-- `n` as exactly `width` lowercase hexadecimal digits. -/
def hexFixed (width n : Nat) : String :=
  String.ofList ((List.range width).reverse.map fun i => hexDigit (n / Nat.pow 16 i % 16))

/-- The escape of a code point that does not print. -/
def escapeCode (n : Nat) : String :=
  if n < 0x100 then "\\x" ++ hexFixed 2 n
  else if n < 0x10000 then "\\u" ++ hexFixed 4 n
  else "\\U" ++ hexFixed 8 n

/-- The quote character for a text: double only when the text holds a single quote and no
double quote. -/
def quoteFor (hasSingle hasDouble : Bool) : Char := if hasSingle && !hasDouble then '"' else '\''

/-- One code point inside quotes `q`. -/
def quoteCode (q : Char) (n : Nat) : String :=
  if n == 0x5C then "\\\\"
  else if n == q.toNat then "\\" ++ String.singleton q
  else if n == 9 then "\\t"
  else if n == 10 then "\\n"
  else if n == 13 then "\\r"
  else if !Unicode.isPrintable n then escapeCode n
  else String.singleton (Char.ofNat n)

/-- The quoted form of a text. -/
def quoteText (t : Text) : String :=
  let codes := t.map Glyph.code
  let q := quoteFor (codes.contains 0x27) (codes.contains 0x22)
  String.singleton q ++ String.join (codes.map (quoteCode q)) ++ String.singleton q

/-- One byte inside byte-string quotes `q`. -/
def quoteByte (q : Char) (b : UInt8) : String :=
  let n := b.toNat
  if n == 0x5C then "\\\\"
  else if n == q.toNat then "\\" ++ String.singleton q
  else if n == 9 then "\\t"
  else if n == 10 then "\\n"
  else if n == 13 then "\\r"
  else if n < 0x20 || n ≥ 0x7F then "\\x" ++ hexFixed 2 n
  else String.singleton (Char.ofNat n)

/-- The quoted form of a byte string, after its `b`. -/
def quoteBytes (bs : List UInt8) : String :=
  let q := quoteFor (bs.contains 0x27) (bs.contains 0x22)
  "b" ++ String.singleton q ++ String.join (bs.map (quoteByte q)) ++ String.singleton q

mutual
/-- The quoted form of a value, as error messages and descriptions print it. -/
def quote : Value → String
  | .none => "None"
  | .bool b => if b then "True" else "False"
  | .int n => toString n
  | .float x => x.text
  | .str t => quoteText t
  | .bytes b => quoteBytes b
  | .bytearray b => "bytearray(" ++ quoteBytes b ++ ")"
  | .tuple [x] => "(" ++ quote x ++ ",)"
  | .tuple items => "(" ++ quoteList items ++ ")"
  | .list items => "[" ++ quoteList items ++ "]"
  | .dict fields => "\x7b" ++ quoteFields fields ++ "\x7d"
  | .addr a => quoteAddr a

/-- The quoted forms of values, separated by commas. -/
def quoteList : List Value → String
  | [] => ""
  | [x] => quote x
  | x :: xs => quote x ++ ", " ++ quoteList xs

/-- The quoted forms of dictionary fields, `'key': value`, separated by commas. -/
def quoteFields : List (String × Value) → String
  | [] => ""
  | [(k, v)] => quoteText (Text.ofString k) ++ ": " ++ quote v
  | (k, v) :: rest => quoteText (Text.ofString k) ++ ": " ++ quote v ++ ", " ++ quoteFields rest

/-- The quoted form of an address: its layout's name and its fields by name. -/
def quoteAddr : Address Value → String
  | .inet h p => "IPv4SocketAddress(host=" ++ quote h ++ ", port=" ++ quote p ++ ")"
  | .inet6 h p f s =>
    "IPv6SocketAddress(host=" ++ quote h ++ ", port=" ++ quote p ++ ", flowinfo=" ++ quote f ++
      ", scope_id=" ++ quote s ++ ")"
  | .unix p => "UnixSocketAddress(path=" ++ quote p ++ ")"
end

/-- The plain text of a value: text as itself, any other value in its quoted form. -/
def display : Value → Text
  | .str t => t
  | v => Text.ofString v.quote

/-- A flag as it prints. -/
def boolText (b : Bool) : String := if b then "True" else "False"

end Value

end Sockets
