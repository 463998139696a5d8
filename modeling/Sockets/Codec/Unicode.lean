import Sockets.Codec.Basic
import Sockets.Failure

/-!
# UTF-16, UTF-32 and UTF-7

Strict decoders of the Unicode transformation formats other than UTF-8. Each stops at the first
stretch of bytes that does not decode and reports it with the encoding's name:

* UTF-16 reads two-byte units. A unit outside the surrogates is a code point; a high surrogate
  must be followed by a low one, and the pair is one code point. A lone low surrogate is an
  "illegal encoding", a high one followed by anything else an "illegal UTF-16 surrogate", a high
  one at the end "unexpected end of data", and an odd byte at the end "truncated data".
* UTF-32 reads four-byte units: a unit in the surrogate range or beyond `10FFFF` is refused,
  and one to three bytes at the end are "truncated data".
* Both honour a byte order mark at the start when no order is fixed (`FF FE` for least
  significant byte first, `FE FF` for most significant first), and read least significant byte
  first without one; an error names the order in use (`utf-16-le`).
* UTF-7 writes most ASCII bytes as themselves and other text as modified base 64 between `+` and
  an optional `-`; the bits of the base-64 stretch form UTF-16 units.
-/

namespace Sockets

namespace Codec

/-- The code unit of bytes read in order `o`, the first byte first. -/
def unitOf (o : ByteOrder) (bs : List UInt8) : Nat :=
  match o with
  | .little => bs.foldr (fun b acc => acc * 256 + b.toNat) 0
  | .big => bs.foldl (fun acc b => acc * 256 + b.toNat) 0

/-- The bad stretch of a decoding. -/
def bad (codec : String) (start stop : Nat) (byte : UInt8) (reason : String) : Failure :=
  .decode { codec, start, stop, byte, reason }

/-- Whether a unit is a high surrogate. -/
def isHigh (u : Nat) : Bool := 0xD800 ≤ u && u ≤ 0xDBFF

/-- Whether a unit is a low surrogate. -/
def isLow (u : Nat) : Bool := 0xDC00 ≤ u && u ≤ 0xDFFF

/-- The code point of a surrogate pair. -/
def joinPair (hi lo : Nat) : Nat := 0x10000 + (hi - 0xD800) * 0x400 + (lo - 0xDC00)

/-- UTF-16 decoding in order `o` of the bytes from offset `pos` on. -/
def utf16From (codec : String) (o : ByteOrder) (pos : Nat) : List UInt8 → Except Failure Text
  | [] => .ok []
  | [b] => .error (bad codec pos (pos + 1) b "truncated data")
  | a :: b :: rest =>
    let u := unitOf o [a, b]
    if !(isHigh u || isLow u) then
      (utf16From codec o (pos + 2) rest).map (Glyph.ofCode u :: ·)
    else if isLow u then .error (bad codec pos (pos + 2) a "illegal encoding")
    else
      match rest with
      | c :: d :: more =>
        let v := unitOf o [c, d]
        if isLow v then (utf16From codec o (pos + 4) more).map (Glyph.ofCode (joinPair u v) :: ·)
        else .error (bad codec pos (pos + 2) a "illegal UTF-16 surrogate")
      | tail => .error (bad codec pos (pos + 2 + tail.length) a "unexpected end of data")

/-- The name of a UTF-16 or UTF-32 encoding in an order. -/
def orderName (base : String) : ByteOrder → String
  | .little => base ++ "-le"
  | .big => base ++ "-be"

/-- The order a byte order mark gives, the number of bytes it takes, for a mark of `width`
bytes: `none` when the bytes start with no mark. -/
def markOrder (width : Nat) (bs : List UInt8) : Option ByteOrder :=
  if bs.length < width then none
  else
    let head := bs.take width
    if head == (if width == 2 then [0xFF, 0xFE] else [0xFF, 0xFE, 0, 0]) then some .little
    else if head == (if width == 2 then [0xFE, 0xFF] else [0, 0, 0xFE, 0xFF]) then some .big
    else none

/-- UTF-16 decoding; with no order given, a byte order mark sets it and is skipped. -/
def decodeUtf16 (order : Option ByteOrder) (bs : List UInt8) : Except Failure Text :=
  match order with
  | some o => utf16From (orderName "utf-16" o) o 0 bs
  | none =>
    match markOrder 2 bs with
    | some o => utf16From (orderName "utf-16" o) o 2 (bs.drop 2)
    | none => utf16From "utf-16-le" .little 0 bs

/-- UTF-32 decoding in order `o` of the bytes from offset `pos` on. -/
def utf32From (codec : String) (o : ByteOrder) (pos : Nat) : List UInt8 → Except Failure Text
  | a :: b :: c :: d :: rest =>
    let u := unitOf o [a, b, c, d]
    if isHigh u || isLow u then
      .error (bad codec pos (pos + 4) a "code point in surrogate code point range(0xd800, 0xe000)")
    else if u ≥ 0x110000 then .error (bad codec pos (pos + 4) a "code point not in range(0x110000)")
    else (utf32From codec o (pos + 4) rest).map (Glyph.ofCode u :: ·)
  | [] => .ok []
  | b :: tail => .error (bad codec pos (pos + 1 + tail.length) b "truncated data")

/-- UTF-32 decoding; with no order given, a byte order mark sets it and is skipped. -/
def decodeUtf32 (order : Option ByteOrder) (bs : List UInt8) : Except Failure Text :=
  match order with
  | some o => utf32From (orderName "utf-32" o) o 0 bs
  | none =>
    match markOrder 4 bs with
    | some o => utf32From (orderName "utf-32" o) o 4 (bs.drop 4)
    | none => utf32From "utf-32-le" .little 0 bs

/-! ## UTF-7 -/

/-- The value of a modified base-64 digit, if the byte is one. -/
def base64Digit? (c : UInt8) : Option Nat :=
  let n := c.toNat
  if 0x41 ≤ n && n ≤ 0x5A then some (n - 0x41)
  else if 0x61 ≤ n && n ≤ 0x7A then some (n - 0x61 + 26)
  else if 0x30 ≤ n && n ≤ 0x39 then some (n - 0x30 + 52)
  else if n == 0x2B then some 62
  else if n == 0x2F then some 63
  else none

/-- Whether a byte outside a base-64 stretch stands for itself: every ASCII byte but `+`. -/
def isDirect (c : UInt8) : Bool := c < 128 && c != 0x2B

/-- The state inside a base-64 stretch: where its `+` stood, the bits not yet used, their count,
and a high surrogate waiting for its partner. -/
structure Shift where
  /-- The offset of the `+` that opened the stretch. -/
  start : Nat
  /-- The bits not yet used. -/
  buffer : Nat
  /-- The number of bits not yet used. -/
  bits : Nat
  /-- A high surrogate waiting for a low one. -/
  pending : Option Nat

/-- Add one UTF-16 unit of a base-64 stretch to the output: a pending high surrogate joins a low
one, or is written alone when another unit follows it. -/
def takeUnit (out : Text) (pending : Option Nat) (u : Nat) : Text × Option Nat :=
  match pending with
  | some hi =>
    if isLow u then (out ++ [Glyph.ofCode (joinPair hi u)], none)
    else
      let out := out ++ [Glyph.ofCode hi]
      if isHigh u then (out, some u) else (out ++ [Glyph.ofCode u], none)
  | none => if isHigh u then (out, some u) else (out ++ [Glyph.ofCode u], none)

/-- UTF-7 decoding of the bytes from offset `pos` on, with the text so far and the state of an
open base-64 stretch. A byte that ends a stretch is read again outside it, unless it is the `-`
that closes it. -/
def utf7From (out : Text) (shift : Option Shift) (pos : Nat) (bs : List UInt8) :
    Except Failure Text :=
  match bs, shift with
  | [], some sh =>
    if sh.pending.isSome || sh.bits ≥ 6 || (sh.bits > 0 && sh.buffer != 0) then
      .error (bad "utf7" sh.start pos 0x2B "unterminated shift sequence")
    else .ok out
  | [], none => .ok out
  | c :: rest, some sh =>
    match base64Digit? c with
    | some d =>
      let buffer := sh.buffer * 64 + d
      let bits := sh.bits + 6
      if bits ≥ 16 then
        let (out, pending) := takeUnit out sh.pending (buffer / Nat.pow 2 (bits - 16))
        let rest' : Shift :=
          { start := sh.start, buffer := buffer % Nat.pow 2 (bits - 16), bits := bits - 16, pending }
        utf7From out (some rest') (pos + 1) rest
      else utf7From out (some { sh with buffer := buffer, bits := bits }) (pos + 1) rest
    | none =>
      if sh.bits ≥ 6 then
        .error (bad "utf7" sh.start (pos + 1) 0x2B "partial character in shift sequence")
      else if sh.bits > 0 && sh.buffer != 0 then
        .error (bad "utf7" sh.start (pos + 1) 0x2B "non-zero padding bits in shift sequence")
      else
        let out := match sh.pending with
          | some hi => if isDirect c then out ++ [Glyph.ofCode hi] else out
          | none => out
        if c == 0x2D then utf7From out none (pos + 1) rest
        else utf7From out none pos (c :: rest)
  | c :: rest, none =>
    if c == 0x2B then
      match rest with
      | 0x2D :: more => utf7From (out ++ [Glyph.ofCode 0x2B]) none (pos + 2) more
      | d :: tail =>
        if (base64Digit? d).isNone then .error (bad "utf7" pos (pos + 2) c "ill-formed sequence")
        else utf7From out (some { start := pos, buffer := 0, bits := 0, pending := none })
          (pos + 1) (d :: tail)
      | [] => utf7From out (some { start := pos, buffer := 0, bits := 0, pending := none })
          (pos + 1) []
    else if isDirect c then utf7From (out ++ [Glyph.ofCode c.toNat]) none (pos + 1) rest
    else .error (bad "utf7" pos (pos + 1) c "unexpected special character")
termination_by 2 * bs.length + (if shift.isSome then 1 else 0)
decreasing_by
  all_goals
    simp only [List.length_cons, Option.isSome_some, Option.isSome_none, if_true, if_false,
      Bool.false_eq_true]
    omega

/-- UTF-7 decoding. -/
def decodeUtf7 (bs : List UInt8) : Except Failure Text := utf7From [] none 0 bs

end Codec

end Sockets
