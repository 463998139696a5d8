import Sockets.Codec.Cjk.Korean
import Sockets.Codec.Cjk.Japanese

/-!
# ISO-2022 encodings

The ISO-2022 encodings are seven-bit: escape sequences designate a character set into one of
three slots, G0, G1 and G2, and the bytes from `21` to `7E` are read in the set of G0 (or of G1
after the shift out `0E`, until the shift in `0F` or a line break). Every slot starts with
ASCII. Control bytes pass as they are, and a byte from `80` on is refused.

An escape sequence is `ESC`, then bytes up to a final byte (a capital letter or `@`), at most
sixteen in all; in the Japanese encodings `& @` inside it is skipped together with the byte that
follows, the announcement of a revised JIS X 0208. It designates:

* `ESC ( F` a set of single bytes into G0, `ESC ) F` into G1, `ESC . F` into G2;
* `ESC $ F` a set of two-byte characters into G0, `ESC $ ( F` into G0, `ESC $ ) F` into G1;
* `ESC & @ ESC $ B` JIS X 0208 into G0.

An escape sequence that designates a set the encoding does not have, or that has another shape,
is refused as a whole; one cut off by the end of the input is incomplete. An escape byte
followed by anything else passes as itself, and so do the bytes after it (as Latin-1) up to and
including the next final byte. ISO-2022-JP-2 has a single shift: `ESC N` and one byte reads that
byte in the high half of the set in G2.

A byte sequence that names no character of the set in use is refused as a whole character.
-/

namespace Sockets

namespace Codec

namespace Cjk

/-- A character set that an escape sequence designates. -/
inductive Graphic where
  /-- ASCII. -/
  | ascii
  /-- JIS X 0201 Roman: ASCII with the yen sign and the overline. -/
  | roman
  /-- JIS X 0201 katakana. -/
  | katakana
  /-- The high half of Latin-1, for the single shift. -/
  | latin1
  /-- The high half of ISO 8859-7 (Greek), for the single shift. -/
  | greek
  /-- JIS X 0208. -/
  | jis0208
  /-- JIS X 0208 of 1978. -/
  | jis0208Old
  /-- JIS X 0212. -/
  | jis0212
  /-- KS X 1001. -/
  | ksx1001
  /-- GB 2312. -/
  | gb2312
  /-- The first plane of JIS X 0213, of the year 2000 or the later edition. -/
  | plane1 (year2000 : Bool)
  /-- The second plane of JIS X 0213. -/
  | plane2
  deriving DecidableEq

namespace Graphic

/-- The set an escape sequence names by its final byte, as a set of two-byte characters or
not. -/
def ofFinal (final : Nat) (double : Bool) : Option Graphic :=
  if double then
    match final with
    | 0x42 => some .jis0208
    | 0x40 => some .jis0208Old
    | 0x44 => some .jis0212
    | 0x43 => some .ksx1001
    | 0x41 => some .gb2312
    | 0x4F => some (.plane1 true)
    | 0x51 => some (.plane1 false)
    | 0x50 => some .plane2
    | _ => none
  else
    match final with
    | 0x42 => some .ascii
    | 0x4A => some .roman
    | 0x49 => some .katakana
    | 0x41 => some .latin1
    | 0x46 => some .greek
    | _ => none

/-- The number of bytes of a character of the set. -/
def width : Graphic → Nat
  | .ascii | .roman | .katakana | .latin1 | .greek => 1
  | _ => 2

end Graphic

/-- An ISO-2022 encoding. -/
structure Iso2022 where
  /-- The sets it may designate besides ASCII. -/
  sets : List Graphic
  /-- Whether shift out and shift in switch between G0 and G1. -/
  shifts : Bool := false
  /-- Whether G2 and the single shift are in use. -/
  singleShift : Bool := false
  /-- Whether `& @` may stand inside an escape sequence. -/
  revised : Bool := true

/-- The shift state of an ISO-2022 decoder. -/
structure ShiftState where
  /-- The set in G0. -/
  g0 : Graphic := .ascii
  /-- The set in G1. -/
  g1 : Graphic := .ascii
  /-- The set in G2. -/
  g2 : Graphic := .ascii
  /-- Whether G1 is in use. -/
  shifted : Bool := false
  /-- Whether bytes pass as they are up to the next final byte. -/
  passing : Bool := false

/-- Whether a byte ends an escape sequence: a capital letter or `@`. -/
def isFinal (b : Nat) : Bool := (0x41 ≤ b && b ≤ 0x5A) || b == 0x40

/-- The high half of ISO 8859-7, from `A0`; a `.` is a free cell. -/
def greekHigh : Array Char :=
  "\u00A0‘’£..¦§¨©.«¬\u00AD.―°±²³΄΅Ά·ΈΉΊ»Ό½ΎΏΐΑΒΓΔΕΖΗΘΙΚΛΜΝΞΟΠΡ.ΣΤΥΦΧΨΩΪΫάέήίΰαβγδεζηθικλμνξοπρςστυφχψωϊϋόύώ.".toList.toArray

/-- The character of ISO 8859-7 at a byte. -/
def greekChar (c : Nat) : Option Nat :=
  if c < 0xA0 then some c
  else match greekHigh[c - 0xA0]? with
    | some ch => if ch == freeCell then none else some ch.toNat
    | none => none

/-- The length of the escape sequence at the front of `buf`, looked for from offset `i`: none
when the input ends first, `some none` when no final byte comes within sixteen bytes. -/
def escapeLength (revised : Bool) (buf : List UInt8) : Nat → Nat → Option (Option Nat)
  | 0, _ => some none
  | fuel + 1, i =>
    if i ≥ 16 then some none
    else match buf[i]? with
      | none => none
      | some c =>
        if isFinal c.toNat then some (some (i + 1))
        else if revised && c == 0x26 && buf[i + 1]? == some 0x40 then escapeLength revised buf fuel (i + 3)
        else escapeLength revised buf fuel (i + 1)

/-- The slot and set an escape sequence of `len` bytes designates, or the number of bytes
refused. -/
def designation (e : Iso2022) (buf : List UInt8) (len : Nat) : Except Nat (Nat × Graphic) := do
  let byteAt (i : Nat) : Nat := (buf.getD i 0).toNat
  let (slot, final, double) ← match len with
    | 3 =>
      if byteAt 1 == 0x24 then pure (0, byteAt 2, true)
      else if byteAt 1 == 0x28 then pure (0, byteAt 2, false)
      else if byteAt 1 == 0x29 then pure (1, byteAt 2, false)
      else if e.singleShift && byteAt 1 == 0x2E then pure (2, byteAt 2, false)
      else throw 3
    | 4 =>
      if byteAt 1 != 0x24 then throw 4
      else if byteAt 2 == 0x28 then pure (0, byteAt 3, true)
      else if byteAt 2 == 0x29 then pure (1, byteAt 3, true)
      else throw 4
    | 6 =>
      if e.revised && byteAt 3 == 0x1B && byteAt 4 == 0x24 && byteAt 5 == 0x42 then pure (0, 0x42, true)
      else throw 6
    | n => throw n
  match Graphic.ofFinal final double with
  | some .ascii => pure (slot, .ascii)
  | some g => if e.sets.contains g then pure (slot, g) else throw len
  | none => throw len

/-- Put a set into a slot. -/
def ShiftState.designate (st : ShiftState) (slot : Nat) (g : Graphic) : ShiftState :=
  match slot with
  | 0 => { st with g0 := g }
  | 1 => { st with g1 := g }
  | _ => { st with g2 := g }

/-- The text of a character of a set, from its bytes (the first below `80`). -/
def graphicCell (g : Graphic) (d0 d1 : Nat) : Option Text :=
  match g with
  | .ascii => some (point d0)
  | .roman => some (point (romanByte d0))
  | .katakana => if 0x21 ≤ d0 && d0 ≤ 0x5F then some (point (0xFF61 - 0x21 + d0)) else none
  | .latin1 | .greek => none
  | .jis0208 | .jis0208Old => (jis0208.get? d0 d1).map one
  | .jis0212 => (jis0212.get? d0 d1).map one
  | .ksx1001 => if d1 < 0x80 then (ksx1001.get? (d0 + 0x80) (d1 + 0x80)).map one else none
  | .gb2312 => (gb2312Cell d0 d1).map one
  | .plane1 y =>
    match plane1Cell y d0 d1 with
    | .chars t => some t
    | _ => none
  | .plane2 =>
    match plane2Cell false d0 d1 with
    | .chars t => some t
    | _ => none

/-- The single shift: the byte after `ESC N` read in the high half of the set in G2. -/
def singleShifted (g : Graphic) (c : Nat) (st : ShiftState) : Step ShiftState :=
  match g with
  | .latin1 => if c < 0x80 then .emit (point (c + 0x80)) 3 st else .illegal 3
  | .greek =>
    match greekChar (c ^^^ 0x80) with
    | some n => .emit (point n) 3 st
    | none => .illegal 3
  | .ascii => if c ≥ 0x80 then .illegal 3 else .emit (point c) 3 st
  | _ => .internal

/-- A step of an ISO-2022 encoding at an escape byte. -/
def Iso2022.escape (e : Iso2022) (st : ShiftState) (buf : List UInt8) : Step ShiftState :=
  match buf with
  | [_] => .short
  | _ :: c :: rest =>
    if [0x28, 0x29, 0x24, 0x2E, 0x26].contains c.toNat then
      match escapeLength e.revised buf 16 1 with
      | none => .short
      | some none => .illegal 1
      | some (some len) =>
        match designation e buf len with
        | .ok (slot, g) => .emit [] len (st.designate slot g)
        | .error n => .illegal n
    else if e.singleShift && c == 0x4E then
      match rest with
      | [] => .short
      | d :: _ => singleShifted st.g2 d.toNat st
    else .emit (point 0x1B) 1 { st with passing := true }
  | [] => .short

/-- A step of an ISO-2022 encoding. -/
def Iso2022.step (e : Iso2022) (st : ShiftState) : List UInt8 → Step ShiftState
  | [] => .illegal 1
  | b :: rest =>
    let c := b.toNat
    if st.passing then .emit (point c) 1 { st with passing := !isFinal c }
    else if c == 0x1B then e.escape st (b :: rest)
    else if c == 0x0F && e.shifts then .emit [] 1 { st with shifted := false }
    else if c == 0x0E && e.shifts then .emit [] 1 { st with shifted := true }
    else if c == 0x0A then .emit (point c) 1 { st with shifted := false }
    else if c < 0x20 then .emit (point c) 1 st
    else if c ≥ 0x80 then .illegal 1
    else
      let g := if st.shifted then st.g1 else st.g0
      if g == .ascii then .emit (point c) 1 st
      else if g.width == 1 then
        match graphicCell g c 0 with
        | some t => .emit t 1 st
        | none => .illegal 1
      else match rest with
        | [] => .short
        | d :: _ =>
          match graphicCell g c d.toNat with
          | some t => .emit t 2 st
          | none => .illegal 2

/-- The stepper of an ISO-2022 encoding. -/
def Iso2022.stepper (e : Iso2022) : Stepper ShiftState := { start := {}, step := e.step }

/-- ISO-2022-KR: KS X 1001 in G1, reached by shift out. -/
def iso2022Kr : Iso2022 := { sets := [.ksx1001], shifts := true, revised := false }

/-- ISO-2022-JP. -/
def iso2022Jp : Iso2022 := { sets := [.jis0208, .roman, .jis0208Old] }

/-- ISO-2022-JP-1: ISO-2022-JP with JIS X 0212. -/
def iso2022Jp1 : Iso2022 := { sets := [.jis0208, .jis0212, .roman, .jis0208Old] }

/-- ISO-2022-JP-2: ISO-2022-JP-1 with KS X 1001, GB 2312 and the single shift to Latin-1 and
Greek. -/
def iso2022Jp2 : Iso2022 :=
  { sets := [.jis0208, .jis0212, .ksx1001, .gb2312, .roman, .jis0208Old, .latin1, .greek]
    singleShift := true }

/-- ISO-2022-JP-2004: JIS X 0213 of the later edition. -/
def iso2022Jp2004 : Iso2022 := { sets := [.plane1 false, .jis0208, .plane2] }

/-- ISO-2022-JP-3: the first plane of JIS X 0213 of the year 2000. -/
def iso2022Jp3 : Iso2022 := { sets := [.plane1 true, .jis0208, .plane2] }

/-- ISO-2022-JP-EXT: ISO-2022-JP-1 with JIS X 0201 katakana. -/
def iso2022JpExt : Iso2022 := { sets := [.jis0208, .jis0212, .roman, .katakana, .jis0208Old] }

end Cjk

end Codec

end Sockets
