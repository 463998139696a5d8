import Sockets.Codec.Cjk.Chinese
import Sockets.Codec.Cjk.Table.Jis0208
import Sockets.Codec.Cjk.Table.Jis0212
import Sockets.Codec.Cjk.Table.Jis0213

/-!
# Japanese encodings

*Shift JIS* keeps bytes below `80` as ASCII and `A1` to `DF` as half-width katakana, and folds
two rows of JIS X 0208 into one first byte (`81` to `9F`, `E0` to `EA`) whose second byte runs
from `40` to `FC` (`7F` excepted). Code page 932 adds its own cells, the user-defined area at
first bytes `F0` to `F9`, and maps the single bytes `80`, `A0` and `FD` to `FF` to characters.

*EUC-JP* writes JIS X 0208 with the high bit of both bytes set, half-width katakana after `8E`
and JIS X 0212 after `8F`.

The encodings of *JIS X 0213* read its first plane where JIS X 0208 stands and its second plane
where JIS X 0212 stands (EUC) or at the first bytes `F0` to `FC` (Shift JIS, whose single bytes
below `80` are JIS X 0201 Roman there, with the yen sign and the overline). Their editions of
the year 2000 leave ten cells of the first plane free (refused as two bytes) and hold an older
character at one cell of the second plane.
-/

namespace Sockets

namespace Codec

namespace Cjk

/-- The row and column of JIS X 0208, from `21`, of two Shift JIS bytes, if the second byte is
one of Shift JIS; the row may run past the last row of the set. -/
def shiftJisCell (c1 c2 : Nat) : Option (Nat × Nat) :=
  if c2 < 0x40 || c2 == 0x7F || c2 > 0xFC then none
  else
    let r := if c1 < 0xE0 then c1 - 0x81 else c1 - 0xC1
    let k := if c2 < 0x80 then c2 - 0x40 else c2 - 0x41
    some (2 * r + (if k < 0x5E then 0 else 1) + 0x21, (if k < 0x5E then k else k - 0x5E) + 0x21)

/-- The half-width katakana of a byte from `A1` to `DF`. -/
def halfWidthKana (b : Nat) : Text := point (0xFEC0 + b)

/-- Whether a byte is a first byte of JIS X 0208 in Shift JIS. -/
def isShiftJisLead (b : Nat) : Bool := (0x81 ≤ b && b ≤ 0x9F) || (0xE0 ≤ b && b ≤ 0xEA)

/-- The character of JIS X 0208 at two Shift JIS bytes. -/
def shiftJisChar (c1 c2 : Nat) : Option Char :=
  (shiftJisCell c1 c2).bind fun (r, c) => jis0208.get? r c

/-- A step of Shift JIS. -/
def shiftJisStep : List UInt8 → Step Unit
  | [] => .illegal 1
  | b :: rest =>
    let c1 := b.toNat
    if c1 < 0x80 then .emit (point c1) 1 ()
    else if 0xA1 ≤ c1 && c1 ≤ 0xDF then .emit (halfWidthKana c1) 1 ()
    else if isShiftJisLead c1 then
      match rest with
      | [] => .short
      | c :: _ => emitText ((shiftJisChar c1 c.toNat).map one) 2
    else .illegal 1

/-- Shift JIS. -/
def shiftJisStepper : Stepper Unit := .plain shiftJisStep

/-- The user-defined character of code page 932 at two bytes, the first from `F0` to `F9`. -/
def cp932Private (c1 c2 : Nat) : Option Nat :=
  if (0x40 ≤ c2 && c2 ≤ 0x7E) || (0x80 ≤ c2 && c2 ≤ 0xFC) then
    some (0xE000 + 188 * (c1 - 0xF0) + (if c2 < 0x80 then c2 - 0x40 else c2 - 0x41))
  else none

/-- A step of code page 932. -/
def cp932Step : List UInt8 → Step Unit
  | [] => .illegal 1
  | b :: rest =>
    let c1 := b.toNat
    if c1 ≤ 0x80 then .emit (point c1) 1 ()
    else if c1 == 0xA0 then .emit (point 0xF8F0) 1 ()
    else if 0xA1 ≤ c1 && c1 ≤ 0xDF then .emit (halfWidthKana c1) 1 ()
    else if c1 ≥ 0xFD then .emit (point (0xF8F1 - 0xFD + c1)) 1 ()
    else match rest with
      | [] => .short
      | c :: _ =>
        let c2 := c.toNat
        match cp932Extra.get? c1 c2 with
        | some ch => .emit (one ch) 2 ()
        | none =>
          if isShiftJisLead c1 then emitText ((shiftJisChar c1 c2).map one) 2
          else if 0xF0 ≤ c1 && c1 ≤ 0xF9 then emitText ((cp932Private c1 c2).map point) 2
          else .illegal 1

/-- Code page 932. -/
def cp932Stepper : Stepper Unit := .plain cp932Step

/-- The cells of the first plane of JIS X 0213 that its edition of the year 2000 leaves
free, by their two bytes. -/
def year2000Withheld : List Nat :=
  [0x2E21, 0x2F7E, 0x4F54, 0x4F7E, 0x7427, 0x7E7A, 0x7E7B, 0x7E7C, 0x7E7D, 0x7E7E]

/-- The cell of the first plane of JIS X 0213 at row `r` and column `c` (from `21`), in the
edition of the year 2000 or in the later one. -/
def plane1Cell (year2000 : Bool) (r c : Nat) : Cell :=
  if year2000 && year2000Withheld.contains (r * 256 + c) then .withheld
  else match (jis0208.get? r c).orElse fun _ => plane1Extra.get? r c with
    | some ch => .chars (one ch)
    | none =>
      match plane1Composed.lookup (r * 256 + c) with
      | some t => .chars (t.toList.map Glyph.char)
      | none => .free

/-- The cell of the second plane of JIS X 0213 at row `r` and column `c` (from `21`); the
edition of the year 2000 holds an older form of one character. -/
def plane2Cell (year2000 : Bool) (r c : Nat) : Cell :=
  if year2000 && r == 0x7D && c == 0x3B then .chars (point 0x9B1D)
  else .ofChar (plane2.get? r c)

/-- A cell that falls back on `other` when it is free. -/
def Cell.orElse (cell : Cell) (other : Unit → Cell) : Cell :=
  match cell with
  | .free => other ()
  | cell => cell

/-- A step of an EUC encoding of Japanese: `main` reads the two-byte set and `extra` the set
after `8F`, both by seven-bit row and column. -/
def eucStep (main extra : Nat → Nat → Cell) : List UInt8 → Step Unit
  | [] => .illegal 1
  | b :: rest =>
    let c1 := b.toNat
    if c1 < 0x80 then .emit (point c1) 1 ()
    else match rest with
      | [] => .short
      | c :: more =>
        let c2 := c.toNat
        if c1 == 0x8E then
          if 0xA1 ≤ c2 && c2 ≤ 0xDF then .emit (halfWidthKana c2) 2 () else .illegal 1
        else if c1 == 0x8F then
          match more with
          | [] => .short
          | d :: _ => Step.ofCell (extra (c2 ^^^ 0x80) (d.toNat ^^^ 0x80)) 3
        else Step.ofCell (main (c1 - 0x80) (c2 ^^^ 0x80)) 2

/-- EUC-JP. -/
def eucJpStepper : Stepper Unit :=
  .plain (eucStep (fun r c => .ofChar (jis0208.get? r c)) (fun r c => .ofChar (jis0212.get? r c)))

/-- The first plane of JIS X 0213 as EUC reads it: the two tildes of the first rows are full
width. -/
def eucPlane1 (year2000 : Bool) (r c : Nat) : Cell :=
  if r == 0x22 && c == 0x32 then .chars (point 0xFF5E) else plane1Cell year2000 r c

/-- EUC-JIS-2004, or EUC-JISX0213 for the edition of the year 2000: the set after `8F` is the
second plane, else JIS X 0212. -/
def eucJis2004Stepper (year2000 : Bool) : Stepper Unit :=
  .plain (eucStep (eucPlane1 year2000)
    (fun r c => (plane2Cell year2000 r c).orElse fun _ => .ofChar (jis0212.get? r c)))

/-- The row of the second plane of JIS X 0213 that a Shift JIS row past the first plane stands
for, both counted from `21`. -/
def plane2Row (r : Nat) : Nat :=
  let k := r - 0x21
  if k ≥ 0x67 then k + 7
  else if k ≥ 0x63 || k == 0x5F then k - 0x37
  else k - 0x3D

/-- The single bytes below `80` of Shift JIS for JIS X 0213: JIS X 0201 Roman. -/
def romanByte (b : Nat) : Nat :=
  if b == 0x5C then 0xA5 else if b == 0x7E then 0x203E else b

/-- A step of Shift_JIS-2004, or Shift_JISX0213 for the edition of the year 2000. -/
def shiftJis2004Step (year2000 : Bool) : List UInt8 → Step Unit
  | [] => .illegal 1
  | b :: rest =>
    let c1 := b.toNat
    if c1 < 0x80 then .emit (point (romanByte c1)) 1 ()
    else if 0xA1 ≤ c1 && c1 ≤ 0xDF then .emit (halfWidthKana c1) 1 ()
    else if (0x81 ≤ c1 && c1 ≤ 0x9F) || (0xE0 ≤ c1 && c1 ≤ 0xFC) then
      match rest with
      | [] => .short
      | c :: _ =>
        match shiftJisCell c1 c.toNat with
        | none => .illegal 1
        | some (r, col) =>
          if r < 0x5E + 0x21 then
            if r == 0x21 && col == 0x40 then .emit (point 0x5C) 2 ()
            else Step.ofCell (plane1Cell year2000 r col) 2
          else Step.ofCell (plane2Cell year2000 (plane2Row r) col) 2
    else .illegal 1

/-- Shift_JIS-2004, or Shift_JISX0213 for the edition of the year 2000. -/
def shiftJis2004Stepper (year2000 : Bool) : Stepper Unit := .plain (shiftJis2004Step year2000)

end Cjk

end Codec

end Sockets
