import Sockets.Failure
import Sockets.Value
import Sockets.Unicode.Digits

/-!
# Converting caller values

Three conversions turn a caller's value into what an operation needs, each with its refusal:

* `index`: a value used as a count or position must be an integer (a flag counts as `0` or
  `1`); anything else is refused with `'str' object cannot be interpreted as an integer`;
* `toInt`: a value converted to an integer may also be a float, truncated toward zero (NaN and
  the infinities are refused), or text or bytes that write an integer in decimal: blanks around
  it, an optional sign, digits of any script with single underscores between them, at most
  `maxDigits` of them;
* `iterate`: a value walked item by item must be a sequence, text (its characters), bytes (their
  values), a dictionary (its keys) or an address (its fields);
* `toMachineInt`: an index that must fit a signed 64-bit machine word;
* `toByteArray`: the bytes of a new mutable byte string made from a value: a count of zero bytes,
  a copy of bytes, or the items of a sequence, each a byte value;
* `repeatBytes`: bytes repeated a number of times, which must be an index.
-/

namespace Sockets

namespace Value

/-- The integer a value stands for where a count or a position is needed. -/
def index (v : Value) : Except Failure Int :=
  match v.asInt? with
  | some n => .ok n
  | Option.none =>
    .error (.typeError ("'" ++ v.typeName ++ "' object cannot be interpreted as an integer"))

/-- Whether a character is a blank around a written integer. -/
def isBlank (c : Char) : Bool :=
  c == ' ' || c == '\t' || c == '\n' || c == '\r' || c == '\x0b' || c == '\x0c'

/-- The value of decimal digits where a single underscore may stand between two digits,
added to `acc`; `none` when another character appears. -/
def readDigitsFrom (acc : Nat) : List Char → Option Nat
  | [] => some acc
  | '_' :: c :: rest =>
    if c.isDigit then readDigitsFrom (acc * 10 + (c.toNat - '0'.toNat)) rest else Option.none
  | c :: rest =>
    if c.isDigit then readDigitsFrom (acc * 10 + (c.toNat - '0'.toNat)) rest else Option.none

/-- The integer that characters write: blanks around it, an optional sign, then digits that
start with a digit. -/
def readInteger? (cs : List Char) : Option Int :=
  let body := ((cs.dropWhile isBlank).reverse.dropWhile isBlank).reverse
  let (negative, digits) := match body with
    | '-' :: rest => (true, rest)
    | '+' :: rest => (false, rest)
    | rest => (false, rest)
  match digits with
  | c :: rest =>
    if c.isDigit then
      (readDigitsFrom (c.toNat - '0'.toNat) rest).map fun n => if negative then -(n : Int) else n
    else Option.none
  | [] => Option.none

/-- The refusal of text that writes no integer: its quoted form, cut at 200 characters. -/
def invalidLiteral (quoted : String) : Failure :=
  .valueError ("invalid literal for int() with base 10: " ++ String.ofList (quoted.toList.take 200))

/-- The most digits an integer is read from: converting longer text takes time that grows with
the square of its length, so it is refused. -/
def maxDigits : Nat := 4300

/-- The refusal of text with `n` digits, more than `maxDigits`. -/
def tooManyDigits (n : Nat) : Failure :=
  .valueError ("Exceeds the limit (" ++ toString maxDigits ++
    " digits) for integer string conversion: value has " ++ toString n ++
    " digits; use sys.set_int_max_str_digits() to increase the limit")

/-- The number of digits in the run of digits and underscores that characters start with, `prev`
being the character before them and `count` the digits so far; `none` when an underscore
stands first, last or next to another one. -/
def digitRun (prev : Char) (count : Nat) : List Char → Option Nat
  | [] => if prev == '_' then Option.none else some count
  | c :: rest =>
    if c == '_' then (if prev == '_' then Option.none else digitRun c count rest)
    else if c.isDigit then digitRun c (count + 1) rest
    else if prev == '_' then Option.none else some count

/-- The integer that characters write, or its refusal with `quoted` as the text refused. The run
of digits after the blanks and the sign is measured first: a run that is well formed but longer
than `maxDigits` is refused for its length, whatever follows it. -/
def readIntegerText (cs : List Char) (quoted : Unit → String) : Except Failure Int :=
  let digits := match cs.dropWhile isBlank with
    | '-' :: rest => rest
    | '+' :: rest => rest
    | rest => rest
  let read : Except Failure Int := match readInteger? cs with
    | some v => .ok v
    | Option.none => .error (invalidLiteral (quoted ()))
  match digitRun '_' 0 digits with
  | some n => if n > maxDigits then .error (tooManyDigits n) else read
  | Option.none => read

/-- The integer of a byte string, or its refusal. -/
def bytesToInt (bs : List UInt8) : Except Failure Int :=
  readIntegerText (bs.map fun b => if b.toNat < 128 then Char.ofNat b.toNat else '?')
    fun _ => quoteBytes (bs.take 200)

/-- The integer a value converts to. -/
def toInt (v : Value) : Except Failure Int :=
  match v with
  | .int n => .ok n
  | .bool b => .ok (if b then 1 else 0)
  | .float .nan => .error (.valueError "cannot convert float NaN to integer")
  | .float (.infinity _) => .error (.overflow "cannot convert float infinity to integer")
  | .float x => .ok (x.truncate?.getD 0)
  | .str t => readIntegerText (t.map fun g => Unicode.asciiOf g.code) fun _ => quoteText t
  | .bytes bs => bytesToInt bs
  | .bytearray bs => bytesToInt bs
  | v => .error (.typeError
      ("int() argument must be a string, a bytes-like object or a real number, not '" ++
        v.typeName ++ "'"))

/-- The items of a value walked item by item, or the refusal of a value that has none. -/
def iterate (v : Value) : Except Failure (List Value) :=
  match v.items? with
  | some items => .ok items
  | Option.none => .error (.typeError ("'" ++ v.typeName ++ "' object is not iterable"))

/-- The least integer beyond a signed 64-bit machine word. -/
def wordLimit : Int := Int.pow 2 63

/-- The number of bytes beyond which no machine has the memory for a new byte string. -/
def allocationLimit : Int := Int.pow 2 40

/-- The refusal of a count that does not fit a machine index. -/
def indexOverflow : Failure := .overflow "cannot fit 'int' into an index-sized integer"

/-- The integer of an index that must fit a signed 64-bit machine word. -/
def toMachineInt (v : Value) : Except Failure Int := do
  let n ← v.index
  if n < -wordLimit || n ≥ wordLimit then
    throw (.overflow "Python int too large to convert to C long")
  pure n

/-- The byte value of an item of a sequence. -/
def byteOf (v : Value) : Except Failure UInt8 := do
  let n ← v.index
  if n < 0 || n ≥ 256 then throw (.valueError "byte must be in range(0, 256)")
  pure n.toNat.toUInt8

/-- The bytes of a new mutable byte string made from a value: text is refused (it has no
encoding), an index is a count of zero bytes, bytes are copied, and any other value is walked
item by item, each item a byte value. -/
def toByteArray (v : Value) : Except Failure (List UInt8) :=
  match v with
  | .str _ => .error (.typeError "string argument without an encoding")
  | .bytes b => .ok b
  | .bytearray b => .ok b
  | .none => .error (.typeError "cannot convert 'NoneType' object to bytearray")
  | .float _ => .error (.typeError "cannot convert 'float' object to bytearray")
  | v =>
    match v.asInt? with
    | some n =>
      if n < -wordLimit || n ≥ wordLimit then .error indexOverflow
      else if n < 0 then .error (.valueError "negative count")
      else if n > allocationLimit then .error .memory
      else .ok (List.replicate n.toNat 0)
    | Option.none =>
      match v.items? with
      | some items => items.mapM byteOf
      | Option.none => .error (.typeError ("cannot convert '" ++ v.typeName ++ "' object to bytearray"))

/-- Bytes repeated `times` times; a count below one gives no bytes. The count must fit a machine
index, and so must the length of the result. -/
def repeatBytes (bs : List UInt8) (times : Value) : Except Failure (List UInt8) :=
  match times.asInt? with
  | some n =>
    if n < -wordLimit || n ≥ wordLimit then .error indexOverflow
    else if n ≤ 0 then .ok []
    else if bs.length * n ≥ wordLimit then .error (.overflow "repeated bytes are too long")
    else if n > 1 && bs.length * n > allocationLimit then .error .memory
    else .ok (List.replicate n.toNat bs).flatten
  | Option.none =>
    .error (.typeError ("can't multiply sequence by non-int of type '" ++ times.typeName ++ "'"))

/-- The end of a slice: an index, or the refusal of any other value. -/
def sliceEnd (v : Value) : Except Failure Int :=
  match v.asInt? with
  | some n => .ok n
  | Option.none =>
    .error (.typeError "slice indices must be integers or None or have an __index__ method")

end Value

end Sockets
