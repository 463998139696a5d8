/-!
# Text with lone surrogates

Text is a sequence of code points. Most are characters (Unicode scalar values); a few may be
lone surrogates, the code points `U+D800` to `U+DFFF` that stand for no character. They arise
two ways: a request may spell one with a `\u` escape, and a file-system name shows each byte
that is not part of a UTF-8 sequence as the surrogate `U+DC00 + b`, so that encoding the
decoded form of any byte string gives the bytes back.

Text becomes bytes in three ways, which differ only on surrogates:

* strictly (`Text.utf8?`): any surrogate is refused;
* as a file-system name (`Text.fsBytes?`): a surrogate `U+DC80` to `U+DCFF` is the byte it
  stands for, any other is refused;
* passing them through (`Text.passBytes`): a surrogate is written as the three bytes a
  character of its number would take.

A refusal names the run of surrogates it covers, from its first refused code point to the end
of the run, as encode errors report it. The strict decoder `decodeStrict` likewise reports where
the first undecodable stretch of bytes starts, how long it is and why.
-/

namespace Sockets

/-- One code point of text: a character, or a lone surrogate. -/
inductive Glyph where
  /-- A Unicode scalar value. -/
  | char (c : Char)
  /-- A lone surrogate; its code lies between `0xD800` and `0xDFFF`. -/
  | surrogate (code : Nat)
  deriving DecidableEq, Inhabited

/-- Text: code points in order. -/
abbrev Text := List Glyph

namespace Glyph

/-- The surrogate that stands for an undecodable byte of a file-system name. -/
def ofByte (b : UInt8) : Glyph := .surrogate (0xDC00 + b.toNat)

/-- The code point of a glyph. -/
def code : Glyph → Nat
  | .char c => c.toNat
  | .surrogate n => n

/-- The byte a surrogate stands for in a file-system name, if it stands for one. -/
def byte? : Glyph → Option UInt8
  | .char _ => none
  | .surrogate n => if 0xDC80 ≤ n && n ≤ 0xDCFF then some (n - 0xDC00).toUInt8 else none

/-- Whether a glyph is a surrogate. -/
def isSurrogate : Glyph → Bool
  | .char _ => false
  | .surrogate _ => true

/-- The glyph of a code point: a character, or a surrogate for the numbers that are not one. -/
def ofCode (n : Nat) : Glyph :=
  if n < 0xD800 || (0xDFFF < n && n < 0x110000) then .char (Char.ofNat n) else .surrogate n

end Glyph

namespace Utf8

/-- Whether `b` continues a multi-byte sequence (`10xxxxxx`). -/
def isCont (b : UInt8) : Bool := b &&& 0xC0 == 0x80

/-- The UTF-8 bytes of a code point below `0x110000` (surrogates take three bytes). -/
def encodeCode (n : Nat) : List UInt8 :=
  if n < 0x80 then [n.toUInt8]
  else if n < 0x800 then [(0xC0 ||| (n >>> 6)).toUInt8, (0x80 ||| (n &&& 0x3F)).toUInt8]
  else if n < 0x10000 then
    [(0xE0 ||| (n >>> 12)).toUInt8, (0x80 ||| ((n >>> 6) &&& 0x3F)).toUInt8,
      (0x80 ||| (n &&& 0x3F)).toUInt8]
  else
    [(0xF0 ||| (n >>> 18)).toUInt8, (0x80 ||| ((n >>> 12) &&& 0x3F)).toUInt8,
      (0x80 ||| ((n >>> 6) &&& 0x3F)).toUInt8, (0x80 ||| (n &&& 0x3F)).toUInt8]

/-- The UTF-8 bytes of a character. -/
def encodeChar (c : Char) : List UInt8 := encodeCode c.toNat

/-- The UTF-8 bytes of a string. -/
def encodeString (s : String) : List UInt8 := s.toList.flatMap encodeChar

/-- Why a stretch of bytes does not decode. -/
inductive Fault where
  /-- The first byte cannot start a sequence. -/
  | invalidStart
  /-- A byte after a valid start does not continue it. -/
  | invalidContinuation
  /-- The bytes end inside a sequence. -/
  | unexpectedEnd
  /-- A byte lies above the range of a seven-bit code. -/
  | outOfRange
  deriving DecidableEq, Inhabited

/-- The words a decode error uses for a fault. -/
def Fault.text : Fault → String
  | .invalidStart => "invalid start byte"
  | .invalidContinuation => "invalid continuation byte"
  | .unexpectedEnd => "unexpected end of data"
  | .outOfRange => "ordinal not in range(128)"

/-- One step of decoding at the head of `bs`: a character and the number of bytes it took, or a
fault and the number of bytes it covers. Each step covers at least one byte. -/
def step (bs : List UInt8) : (Char ⊕ Fault) × Nat :=
  match bs with
  | [] => (.inr .unexpectedEnd, 0)
  | b0 :: rest =>
    let n0 := b0.toNat
    if n0 < 0x80 then (.inl (Char.ofNat n0), 1)
    else if n0 < 0xC2 then (.inr .invalidStart, 1)
    else if n0 < 0xE0 then
      match rest with
      | [] => (.inr .unexpectedEnd, 1)
      | b1 :: _ =>
        if isCont b1 then (.inl (Char.ofNat (((n0 &&& 0x1F) <<< 6) ||| (b1.toNat &&& 0x3F))), 2)
        else (.inr .invalidContinuation, 1)
    else if n0 < 0xF0 then
      let lo : Nat := if n0 == 0xE0 then 0xA0 else 0x80
      let hi : Nat := if n0 == 0xED then 0x9F else 0xBF
      match rest with
      | [] => (.inr .unexpectedEnd, 1)
      | [b1] =>
        if isCont b1 && lo ≤ b1.toNat && b1.toNat ≤ hi then (.inr .unexpectedEnd, 2)
        else (.inr .invalidContinuation, 1)
      | b1 :: b2 :: _ =>
        if !(isCont b1 && lo ≤ b1.toNat && b1.toNat ≤ hi) then (.inr .invalidContinuation, 1)
        else if !isCont b2 then (.inr .invalidContinuation, 2)
        else
          (.inl (Char.ofNat (((n0 &&& 0x0F) <<< 12) ||| ((b1.toNat &&& 0x3F) <<< 6) |||
            (b2.toNat &&& 0x3F))), 3)
    else if n0 < 0xF5 then
      let lo : Nat := if n0 == 0xF0 then 0x90 else 0x80
      let hi : Nat := if n0 == 0xF4 then 0x8F else 0xBF
      match rest with
      | [] => (.inr .unexpectedEnd, 1)
      | [b1] =>
        if isCont b1 && lo ≤ b1.toNat && b1.toNat ≤ hi then (.inr .unexpectedEnd, 2)
        else (.inr .invalidContinuation, 1)
      | [b1, b2] =>
        if !(isCont b1 && lo ≤ b1.toNat && b1.toNat ≤ hi) then (.inr .invalidContinuation, 1)
        else if !isCont b2 then (.inr .invalidContinuation, 2)
        else (.inr .unexpectedEnd, 3)
      | b1 :: b2 :: b3 :: _ =>
        if !(isCont b1 && lo ≤ b1.toNat && b1.toNat ≤ hi) then (.inr .invalidContinuation, 1)
        else if !isCont b2 then (.inr .invalidContinuation, 2)
        else if !isCont b3 then (.inr .invalidContinuation, 3)
        else
          (.inl (Char.ofNat (((n0 &&& 0x07) <<< 18) ||| ((b1.toNat &&& 0x3F) <<< 12) |||
            ((b2.toNat &&& 0x3F) <<< 6) ||| (b3.toNat &&& 0x3F))), 4)
    else (.inr .invalidStart, 1)

/-- A step over a non-empty list takes between one and four bytes. -/
theorem step_pos (b : UInt8) (rest : List UInt8) :
    0 < (step (b :: rest)).2 ∧ (step (b :: rest)).2 ≤ (b :: rest).length := by
  simp only [step]
  repeat' split
  all_goals simp_all

/-- Decoding that keeps every undecodable byte as itself. -/
def decodeLossless (bs : List UInt8) : Text :=
  match bs with
  | [] => []
  | b :: rest =>
    match (step (b :: rest)).1 with
    | .inl c => .char c :: decodeLossless ((b :: rest).drop (step (b :: rest)).2)
    | .inr _ => Glyph.ofByte b :: decodeLossless rest
termination_by bs.length
decreasing_by
  · have := step_pos b rest
    simp_all only [List.length_drop, List.length_cons]
    omega
  · simp

/-- Where and why strict decoding stopped. -/
structure DecodeError where
  /-- The offset of the first byte of the bad stretch. -/
  start : Nat
  /-- The number of bytes in the bad stretch. -/
  length : Nat
  /-- The byte at `start`. -/
  byte : UInt8
  /-- Why the stretch does not decode. -/
  fault : Fault
  deriving Inhabited

/-- Strict decoding of the bytes from offset `pos` on. -/
def decodeFrom (pos : Nat) (bs : List UInt8) : Except DecodeError String :=
  match bs with
  | [] => .ok ""
  | b :: rest =>
    let n := (step (b :: rest)).2
    match (step (b :: rest)).1 with
    | .inl c =>
      (decodeFrom (pos + n) ((b :: rest).drop n)).map fun s => (String.singleton c) ++ s
    | .inr f =>
      let len := if f == .unexpectedEnd then (b :: rest).length else n
      .error ⟨pos, len, b, f⟩
termination_by bs.length
decreasing_by
  have := step_pos b rest
  simp_all only [List.length_drop, List.length_cons]
  omega

/-- Strict UTF-8 decoding. -/
def decodeStrict (bs : List UInt8) : Except DecodeError String := decodeFrom 0 bs

end Utf8

namespace Text

/-- The text of a string: every character as itself. -/
def ofString (s : String) : Text := s.toList.map .char

/-- The string of a text without surrogates. -/
def toString? (t : Text) : Option String :=
  t.foldr (fun g acc => match g, acc with
    | .char c, some s => some (String.singleton c ++ s)
    | _, _ => none) (some "")

/-- The string of a text with its surrogates left out. -/
def chars (t : Text) : String :=
  String.ofList (t.filterMap fun g => match g with
    | .char c => some c
    | .surrogate _ => none)

/-- A run of code points an encoder refuses: from `start` up to, not including, `stop`. -/
structure EncodeError where
  /-- The position of the first refused code point. -/
  start : Nat
  /-- The position after the run. -/
  stop : Nat
  /-- The first refused code point. -/
  code : Nat
  deriving Inhabited

/-- The length of the run of surrogates at the head of a text. -/
def surrogateRun (t : Text) : Nat := (t.takeWhile Glyph.isSurrogate).length

/-- Encode from position `pos` on: characters in UTF-8, surrogates by `ok?` (the bytes a
surrogate stands for, or a refusal). A refusal covers the run from the first refused surrogate
to the end of the run. -/
def encodeFrom (ok? : Glyph → Option (List UInt8)) (pos : Nat) (t : Text) :
    Except EncodeError (List UInt8) :=
  match t with
  | [] => .ok []
  | g :: rest =>
    match g with
    | .char c => (encodeFrom ok? (pos + 1) rest).map (Utf8.encodeChar c ++ ·)
    | .surrogate n =>
      match ok? g with
      | some bs => (encodeFrom ok? (pos + 1) rest).map (bs ++ ·)
      | none => .error ⟨pos, pos + surrogateRun (g :: rest), n⟩

/-- The strict UTF-8 bytes of a text. -/
def utf8? (t : Text) : Except EncodeError (List UInt8) := encodeFrom (fun _ => none) 0 t

/-- The file-system bytes of a text: characters in UTF-8, surrogates `U+DC80` to `U+DCFF` as
the bytes they stand for. -/
def fsBytes? (t : Text) : Except EncodeError (List UInt8) :=
  encodeFrom (fun g => g.byte?.map fun b => [b]) 0 t

/-- The bytes of a text with every surrogate written as the three bytes of its number. -/
def passBytes (t : Text) : List UInt8 := t.flatMap fun g => Utf8.encodeCode g.code

/-- The file-system text of bytes: UTF-8 sequences as characters, other bytes as surrogates. -/
def decode (bs : List UInt8) : Text := Utf8.decodeLossless bs

/-- Whether a text is empty. -/
def isEmpty (t : Text) : Bool := List.isEmpty t

end Text

end Sockets
