import Sockets.Codec.Unicode

/-!
# Escape formats

Two encodings write text as Latin-1 bytes with backslash escapes.

* The full form reads `\\`, `\'`, `\"`, `\a`, `\b`, `\f`, `\n`, `\r`, `\t`, `\v`, a backslash
  before a line break (which writes nothing), one to three octal digits, `\x` with two, `\u`
  with four and `\U` with eight hexadecimal digits, and `\N{name}`; a backslash before any other
  byte stays with it. A hexadecimal escape cut short, a code point beyond `10FFFF`, a backslash
  at the end and a malformed or unknown `\N` escape are refused; the refused stretch runs from
  the backslash to the byte where reading stopped.
* The raw form reads only `\u` and `\U`; every other byte, backslashes included, is itself.

Character names are not known here, so every `\N{name}` escape is refused as unknown.
-/

namespace Sockets

namespace Codec

/-- The value of a hexadecimal digit byte. -/
def hexByte? (b : UInt8) : Option Nat :=
  let n := b.toNat
  if 0x30 ≤ n && n ≤ 0x39 then some (n - 0x30)
  else if 0x61 ≤ n && n ≤ 0x66 then some (n - 0x61 + 10)
  else if 0x41 ≤ n && n ≤ 0x46 then some (n - 0x41 + 10)
  else none

/-- Read `count` hexadecimal digits after `acc`: their value and the bytes after them, or the
number of digits read before a byte that is none, or before the end. -/
def readHexRun : Nat → Nat → List UInt8 → Except Nat (Nat × List UInt8)
  | 0, acc, bs => .ok (acc, bs)
  | _ + 1, _, [] => .error 0
  | n + 1, acc, b :: rest =>
    match hexByte? b with
    | some d => (readHexRun n (acc * 16 + d) rest).mapError (· + 1)
    | none => .error 0

theorem readHexRun_shorter (count acc value : Nat) (bs rest : List UInt8)
    (h : readHexRun count acc bs = .ok (value, rest)) : rest.length ≤ bs.length := by
  induction count generalizing acc bs with
  | zero =>
    simp only [readHexRun, Except.ok.injEq, Prod.mk.injEq] at h
    obtain ⟨-, rfl⟩ := h
    exact Nat.le_refl _
  | succ n ih =>
    cases bs with
    | nil => simp [readHexRun] at h
    | cons b bs =>
      simp only [readHexRun] at h
      split at h
      · cases hr : readHexRun n _ bs with
        | error e => rw [hr] at h; cases h
        | ok r =>
          rw [hr] at h
          obtain rfl : r = (value, rest) := Except.ok.inj h
          have := ih _ _ hr
          simp only [List.length_cons]
          omega
      · simp at h

/-- The value of up to two more octal digits after `acc`, and the bytes after them. -/
def octalMore (acc : Nat) : Nat → List UInt8 → Nat × List UInt8
  | 0, bs => (acc, bs)
  | n + 1, b :: rest =>
    if 0x30 ≤ b && b ≤ 0x37 then octalMore (acc * 8 + (b.toNat - 0x30)) n rest else (acc, b :: rest)
  | _ + 1, [] => (acc, [])

theorem octalMore_shorter (acc n : Nat) (bs : List UInt8) : (octalMore acc n bs).2.length ≤ bs.length := by
  induction n generalizing acc bs with
  | zero => simp [octalMore]
  | succ n ih =>
    cases bs with
    | nil => simp [octalMore]
    | cons b rest =>
      simp only [octalMore]
      split
      · have := ih (acc * 8 + (b.toNat - 0x30)) rest
        simp only [List.length_cons]
        omega
      · simp

/-- The single character a backslash and the byte after it write, for the simple escapes. -/
def simpleEscape? (b : UInt8) : Option Nat :=
  match b.toNat with
  | 0x5C => some 0x5C
  | 0x27 => some 0x27
  | 0x22 => some 0x22
  | 0x62 => some 8
  | 0x66 => some 12
  | 0x74 => some 9
  | 0x6E => some 10
  | 0x72 => some 13
  | 0x76 => some 11
  | 0x61 => some 7
  | _ => none

/-- The refusal of an escape starting at `start` and read up to `stop`. -/
def escapeError (codec : String) (start stop : Nat) (reason : String) : Failure :=
  bad codec start stop 0x5C reason

/-- The offset of the first closing brace, counting from `pos`, or `none` when none follows. -/
def closeBrace (pos : Nat) : List UInt8 → Option Nat
  | [] => none
  | b :: rest => if b == 0x7D then some pos else closeBrace (pos + 1) rest

/-- Decoding of the full escape form from offset `pos` on. -/
def unescapeFrom (pos : Nat) (bs : List UInt8) : Except Failure Text :=
  match bs with
  | [] => .ok []
  | c :: rest =>
    if c != 0x5C then (unescapeFrom (pos + 1) rest).map (Glyph.ofCode c.toNat :: ·)
    else
      match rest with
      | [] => .error (escapeError "unicodeescape" pos (pos + 1) "\\ at end of string")
      | e :: more =>
        if e == 0x0A then unescapeFrom (pos + 2) more
        else match simpleEscape? e with
        | some code => (unescapeFrom (pos + 2) more).map (Glyph.ofCode code :: ·)
        | none =>
          if 0x30 ≤ e && e ≤ 0x37 then
            let r := octalMore (e.toNat - 0x30) 2 more
            have := octalMore_shorter (e.toNat - 0x30) 2 more
            (unescapeFrom (pos + 2 + (more.length - r.2.length)) r.2).map (Glyph.ofCode r.1 :: ·)
          else if e == 0x78 || e == 0x75 || e == 0x55 then
            let (count, what) :=
              if e == 0x78 then (2, "truncated \\xXX escape")
              else if e == 0x75 then (4, "truncated \\uXXXX escape")
              else (8, "truncated \\UXXXXXXXX escape")
            match h : readHexRun count 0 more with
            | .error n => .error (escapeError "unicodeescape" pos (pos + 2 + n) what)
            | .ok (code, after) =>
              have := readHexRun_shorter count 0 code more after h
              if code > 0x10FFFF then
                .error (escapeError "unicodeescape" pos (pos + 2 + count) "illegal Unicode character")
              else (unescapeFrom (pos + 2 + count) after).map (Glyph.ofCode code :: ·)
          else if e == 0x4E then
            let malformed := "malformed \\N character escape"
            match more with
            | [] => .error (escapeError "unicodeescape" pos (pos + 2) malformed)
            | b :: names =>
              if b != 0x7B then .error (escapeError "unicodeescape" pos (pos + 2) malformed)
              else match closeBrace (pos + 3) names with
                | none => .error (escapeError "unicodeescape" pos (pos + 3 + names.length) malformed)
                | some close =>
                  if close == pos + 3 then .error (escapeError "unicodeescape" pos close malformed)
                  else .error (escapeError "unicodeescape" pos (close + 1)
                    "unknown Unicode character name")
          else (unescapeFrom (pos + 2) more).map fun t => Glyph.ofCode 0x5C :: Glyph.ofCode e.toNat :: t
termination_by bs.length
decreasing_by all_goals (simp only [List.length_cons] at *; omega)

/-- Decoding of the raw escape form from offset `pos` on. -/
def rawUnescapeFrom (pos : Nat) (bs : List UInt8) : Except Failure Text :=
  match bs with
  | [] => .ok []
  | c :: rest =>
    if c != 0x5C then (rawUnescapeFrom (pos + 1) rest).map (Glyph.ofCode c.toNat :: ·)
    else
      match rest with
      | [] => .ok [Glyph.ofCode 0x5C]
      | e :: more =>
        if e == 0x75 || e == 0x55 then
          let (count, what) :=
            if e == 0x75 then (4, "truncated \\uXXXX escape") else (8, "truncated \\UXXXXXXXX escape")
          match h : readHexRun count 0 more with
          | .error n => .error (escapeError "rawunicodeescape" pos (pos + 2 + n) what)
          | .ok (code, after) =>
            have := readHexRun_shorter count 0 code more after h
            if code > 0x10FFFF then
              .error (escapeError "rawunicodeescape" pos (pos + 2 + count) "\\Uxxxxxxxx out of range")
            else (rawUnescapeFrom (pos + 2 + count) after).map (Glyph.ofCode code :: ·)
        else
          (rawUnescapeFrom (pos + 2) more).map fun t => Glyph.ofCode 0x5C :: Glyph.ofCode e.toNat :: t
termination_by bs.length
decreasing_by all_goals (simp only [List.length_cons] at *; omega)

/-- Decoding of the full escape form. -/
def decodeEscapes (bs : List UInt8) : Except Failure Text := unescapeFrom 0 bs

/-- Decoding of the raw escape form. -/
def decodeRawEscapes (bs : List UInt8) : Except Failure Text := rawUnescapeFrom 0 bs

end Codec

end Sockets
