import Sockets.Codec.Cjk.Table.Gbk
import Sockets.Codec.Cjk.Table.Gb18030
import Sockets.Codec.Cjk.Table.Big5
import Sockets.Codec.Cjk.Table.Hkscs

/-!
# Chinese encodings

The encodings of GB 2312, GBK, GB 18030 and Big5 keep bytes below `80` as ASCII and write every
other character as a first byte from `80` on and one more byte; GB 18030 also has four-byte
sequences, whose second byte is a digit. A first byte at the very end is an incomplete
sequence. A pair of bytes that names no character is refused at its first byte (one byte), and
the decoder would go on after it.

HZ writes GB 2312 in seven bits: `~{` switches to GB 2312, where two bytes from `21` to `7E` are
one character, `~}` switches back to ASCII, `~~` is a tilde and `~` before a line break joins
lines. Any other byte after `~`, and every byte from `80` on, is refused.
-/

namespace Sockets

namespace Codec

namespace Cjk

/-- The character of GB 2312 at two seven-bit bytes (each from `21` to `7E`). -/
def gb2312Cell (c1 c2 : Nat) : Option Char :=
  if 0x21 ≤ c1 && c1 ≤ 0x7E && 0x21 ≤ c2 && c2 ≤ 0x7E then
    let k := (c1 + 0x80) * 256 + (c2 + 0x80)
    match gb2312Changes.lookup k with
    | some c => some c
    | none => if gb2312Missing.contains k then none else gbk.get? (c1 + 0x80) (c2 + 0x80)
  else none

/-- A step of an encoding that keeps bytes below `80` as ASCII and reads every other character
as two bytes, named by `cell`. -/
def pairStep (cell : Nat → Nat → Option Text) : List UInt8 → Step Unit
  | [] => .illegal 1
  | b :: rest =>
    if b < 0x80 then .emit (point b.toNat) 1 ()
    else match rest with
      | [] => .short
      | c :: _ => emitText (cell b.toNat c.toNat) 2

/-- GB 2312 in eight bits: both bytes with the high bit set. -/
def gb2312Stepper : Stepper Unit :=
  .plain (pairStep fun c1 c2 => (gb2312Cell (c1 - 0x80) (c2 ^^^ 0x80)).map one)

/-- GBK. -/
def gbkStepper : Stepper Unit :=
  .plain (pairStep fun c1 c2 => (gbk.get? c1 c2).map one)

/-- The code point of a four-byte GB 18030 sequence of the basic plane, by its number. -/
def fourByteCode (n : Nat) : Nat :=
  fourByteRuns.foldl (fun acc (start, first) => if start ≤ n then first + (n - start) else acc) 0

/-- The code point of a four-byte GB 18030 sequence, if it names one. -/
def fourByteCell (b1 b2 b3 b4 : Nat) : Option Nat :=
  if b1 < 0x81 || b1 > 0xFE || b3 < 0x81 || b3 > 0xFE || b4 < 0x30 || b4 > 0x39 then none
  else
    let low := (b3 - 0x81) * 10 + (b4 - 0x30)
    if b1 < 0x85 then
      let n := ((b1 - 0x81) * 10 + (b2 - 0x30)) * 1260 + low
      if n < 39420 then some (fourByteCode n) else none
    else if b1 ≥ 0x90 then
      let n := 0x10000 + ((b1 - 0x90) * 10 + (b2 - 0x30)) * 1260 + low
      if n ≤ 0x10FFFF then some n else none
    else none

/-- A step of GB 18030. -/
def gb18030Step : List UInt8 → Step Unit
  | [] => .illegal 1
  | b :: rest =>
    if b < 0x80 then .emit (point b.toNat) 1 ()
    else match rest with
      | [] => .short
      | c :: more =>
        if 0x30 ≤ c && c ≤ 0x39 then
          match more with
          | d :: e :: _ => emitText ((fourByteCell b.toNat c.toNat d.toNat e.toNat).map point) 4
          | _ => .short
        else emitText (((gbk.get? b.toNat c.toNat).orElse
          fun _ => gb18030Extra.get? b.toNat c.toNat).map one) 2

/-- GB 18030. -/
def gb18030Stepper : Stepper Unit := .plain gb18030Step

/-- A step of HZ; the state tells whether GB 2312 is on. -/
def hzStep (gb : Bool) : List UInt8 → Step Bool
  | [] => .illegal 1
  | b :: rest =>
    if b == 0x7E then
      match rest with
      | [] => .short
      | c :: _ =>
        if c == 0x7E && !gb then .emit (point 0x7E) 2 gb
        else if c == 0x7B && !gb then .emit [] 2 true
        else if c == 0x0A && !gb then .emit [] 2 gb
        else if c == 0x7D && gb then .emit [] 2 false
        else .illegal 1
    else if b ≥ 0x80 then .illegal 1
    else if !gb then .emit (point b.toNat) 1 gb
    else match rest with
      | [] => .short
      | c :: _ =>
        match gb2312Cell b.toNat c.toNat with
        | some ch => .emit (one ch) 2 gb
        | none => .illegal 1

/-- HZ, which starts in ASCII. -/
def hzStepper : Stepper Bool := { start := false, step := hzStep }

/-- Big5. -/
def big5Stepper : Stepper Unit :=
  .plain (pairStep fun c1 c2 => (big5.get? c1 c2).map one)

/-- The character of code page 950 at two bytes. -/
def cp950Cell (c1 c2 : Nat) : Option Char :=
  (cp950Changes.lookup (c1 * 256 + c2)).orElse fun _ => big5.get? c1 c2

/-- Code page 950. -/
def cp950Stepper : Stepper Unit := .plain (pairStep fun c1 c2 => (cp950Cell c1 c2).map one)

/-- The text of Big5-HKSCS at two bytes. -/
def hkscsCell (c1 c2 : Nat) : Option Text :=
  let k := c1 * 256 + c2
  match hkscsComposed.lookup k with
  | some t => some (t.toList.map Glyph.char)
  | none =>
    if hkscsRemoved.contains k then none
    else ((hkscs.get? c1 c2).orElse fun _ => big5.get? c1 c2).map one

/-- Big5-HKSCS. -/
def big5hkscsStepper : Stepper Unit := .plain (pairStep hkscsCell)

end Cjk

end Codec

end Sockets
