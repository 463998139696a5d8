import Sockets.Codec.Cjk.Chinese
import Sockets.Codec.Cjk.Table.Ksx1001
import Sockets.Codec.Cjk.Table.Cp949

/-!
# Korean encodings

EUC-KR writes KS X 1001 with the high bit of both bytes set. It may also spell a syllable that
KS X 1001 lacks as eight bytes: the filler `A4 D4` and then an initial consonant, a vowel and a
final consonant, each as `A4` and a letter. Code page 949 adds the missing syllables as pairs of
bytes of their own.

Johab writes a syllable as sixteen bits, `1` and three five-bit letter codes (initial, vowel,
final). A fill code stands for a missing letter: all three filled is the ideographic space, and
a single letter with the other two filled is that letter on its own. Symbols and hanja sit at
first bytes from `D9` on, in an order that maps onto the rows of KS X 1001.
-/

namespace Sockets

namespace Codec

namespace Cjk

/-- The syllable spelled by the six bytes after the filler `A4 D4` of EUC-KR. -/
def eucKrSyllable : List UInt8 → Option Nat
  | [0xA4, i, 0xA4, v, 0xA4, f] =>
    match eucKrInitials.idxOf? i.toNat, eucKrFinals.idxOf? f.toNat with
    | some ci, some fi =>
      if 0xBF ≤ v.toNat && v.toNat ≤ 0xD3 then some (0xAC00 + ci * 588 + (v.toNat - 0xBF) * 28 + fi)
      else none
    | _, _ => none
  | _ => none

/-- A step of EUC-KR. -/
def eucKrStep : List UInt8 → Step Unit
  | [] => .illegal 1
  | b :: rest =>
    if b < 0x80 then .emit (point b.toNat) 1 ()
    else match rest with
      | [] => .short
      | c :: more =>
        if b == 0xA4 && c == 0xD4 then
          if more.length < 6 then .short
          else emitText ((eucKrSyllable (more.take 6)).map point) 8
        else emitText ((ksx1001.get? b.toNat c.toNat).map one) 2

/-- EUC-KR. -/
def eucKrStepper : Stepper Unit := .plain eucKrStep

/-- Code page 949. -/
def cp949Stepper : Stepper Unit :=
  .plain (pairStep fun c1 c2 =>
    ((ksx1001.get? c1 c2).orElse fun _ => cp949Extra.get? c1 c2).map one)

/-- The five-bit codes of the Johab vowels, in syllable order. -/
def johabVowels : List Nat := [3, 4, 5, 6, 7, 10, 11, 12, 13, 14, 15, 18, 19, 20, 21, 22, 23, 26,
  27, 28, 29]

/-- The five-bit codes of the Johab final consonants, in syllable order. -/
def johabFinals : List Nat := [2, 3, 4, 5, 6, 7, 8, 9, 10, 11, 12, 13, 14, 15, 16, 17, 19, 20, 21,
  22, 23, 24, 25, 26, 27, 28, 29]

/-- A letter of a Johab syllable: the fill code, or the position of a letter in syllable
order. -/
inductive Letter where
  /-- No letter. -/
  | fill
  /-- The letter at this position. -/
  | at (i : Nat)

/-- The initial consonant of a code: fill is `1`, the letters are `2` to `20`. -/
def johabInitial (code : Nat) : Option Letter :=
  if code == 1 then some .fill
  else if 2 ≤ code && code ≤ 20 then some (.at (code - 2)) else none

/-- The vowel of a code: fill is `2`. -/
def johabVowel (code : Nat) : Option Letter :=
  if code == 2 then some .fill else (johabVowels.idxOf? code).map .at

/-- The final consonant of a code: fill is `1`. -/
def johabFinal (code : Nat) : Option Letter :=
  if code == 1 then some .fill else (johabFinals.idxOf? code).map .at

/-- The code point of a Johab syllable or lone letter of three letter slots. -/
def johabLetters : Letter → Letter → Letter → Option Nat
  | .fill, .fill, .fill => some 0x3000
  | .fill, .fill, .at f => johabFinalLetters[f]?
  | .fill, .at v, .fill => some (0x314F + v)
  | .at i, .fill, .fill => johabInitialLetters[i]?
  | .at i, .at v, .fill => some (0xAC00 + i * 588 + v * 28)
  | .at i, .at v, .at f => some (0xAC00 + i * 588 + v * 28 + f + 1)
  | _, _, _ => none

/-- The character of a Johab symbol or hanja: the cell of KS X 1001 its bytes map to. -/
def johabSymbol (c1 c2 : Nat) : Option Char :=
  if c1 < 0xD9 || c1 == 0xDF || c1 > 0xF9 || c2 < 0x31 || (0x80 ≤ c2 && c2 < 0x91) ||
      c2 % 128 == 0x7F || (c1 == 0xDA && 0xA1 ≤ c2 && c2 ≤ 0xD3) then none
  else
    let r := if c1 < 0xE0 then 2 * (c1 - 0xD9) else 2 * c1 - 0x197
    let k := if c2 < 0x91 then c2 - 0x31 else c2 - 0x43
    let row := r + (if k < 0x5E then 0 else 1) + 0x21
    let col := (if k < 0x5E then k else k - 0x5E) + 0x21
    ksx1001.get? (row + 0x80) (col + 0x80)

/-- The code point of two Johab bytes, the first from `80` on. -/
def johabCell (c1 c2 : Nat) : Option Nat :=
  if c1 < 0xD8 then
    let bits := c1 * 256 + c2
    match johabInitial (bits / 1024 % 32), johabVowel (bits / 32 % 32), johabFinal (bits % 32) with
    | some i, some v, some f => johabLetters i v f
    | _, _, _ => none
  else (johabSymbol c1 c2).map Char.toNat

/-- Johab. -/
def johabStepper : Stepper Unit := .plain (pairStep fun c1 c2 => (johabCell c1 c2).map point)

end Cjk

end Codec

end Sockets
