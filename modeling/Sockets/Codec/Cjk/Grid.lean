import Sockets.Codec.Unicode

/-!
# Character grids and stepping decoders

The East Asian encodings write most characters as two bytes: a first byte that picks a row of
a character set and a second byte that picks a cell of the row. A `Grid` holds such a set. Its
rows are written as text, one character per cell from the first column on; a `.` stands for a
free cell (no set here puts a full stop in a two-byte cell), and a row may stop before its last
cell.

A decoder of these encodings reads its input from the front: at each step it looks at the bytes
ahead and either makes characters of the first few of them, or finds that the input ends inside
a sequence, or finds that the first few bytes are no sequence at all. A `Stepper` is such a
decoder, with the state it carries from step to step (the shift state of the encodings that have
one). `Stepper.run` turns it into a strict decoder: the first failure is reported with its
offset, as `incomplete multibyte sequence` over all the bytes left when the input ends too
early and as `illegal multibyte sequence` over the bytes the step refuses otherwise.
-/

namespace Sockets

namespace Codec

namespace Cjk

/-- The mark of a free cell. -/
def freeCell : Char := '.'

/-- A two-byte character set: rows keyed by their first byte, each holding the characters of
its cells from the second byte `firstColumn` on. -/
structure Grid where
  /-- The second byte of the first cell of every row. -/
  firstColumn : Nat
  /-- The rows, by first byte. -/
  rows : List (Nat × Array Char)
  deriving Inhabited

namespace Grid

/-- The grid of rows written as text. -/
def ofRows (firstColumn : Nat) (rows : List (Nat × String)) : Grid :=
  { firstColumn, rows := rows.map fun (r, cells) => (r, cells.toList.toArray) }

/-- The character of a cell, if the cell is taken. -/
def get? (g : Grid) (first second : Nat) : Option Char :=
  match g.rows.lookup first with
  | none => none
  | some cells =>
    if second < g.firstColumn then none
    else match cells[second - g.firstColumn]? with
      | some c => if c == freeCell then none else some c
      | none => none

end Grid

/-- Text of one character. -/
def one (c : Char) : Text := [.char c]

/-- Text of one code point. -/
def point (n : Nat) : Text := [Glyph.ofCode n]

/-- What a decoder makes of the bytes ahead of it. -/
inductive Step (σ : Type) where
  /-- The first `used` bytes make `out`, and the decoder goes on in state `next`. -/
  | emit (out : Text) (used : Nat) (next : σ)
  /-- The input ends inside a sequence. -/
  | short
  /-- The first `size` bytes are no sequence. -/
  | illegal (size : Nat)
  /-- The decoder reached a state it has no rule for. -/
  | internal

/-- A decoder that reads its input a step at a time, carrying a state of type `σ`. -/
structure Stepper (σ : Type) where
  /-- The state at the start of the input. -/
  start : σ
  /-- What the bytes ahead make in a state; the bytes are never empty. -/
  step : σ → List UInt8 → Step σ

/-- A stepper without state. -/
def Stepper.plain (step : List UInt8 → Step Unit) : Stepper Unit :=
  { start := (), step := fun _ bs => step bs }

/-- The characters of one cell, used as the step's result for `used` bytes; a free cell is
refused at its first byte. -/
def emitText (out : Option Text) (used : Nat) : Step Unit :=
  match out with
  | some t => .emit t used ()
  | none => .illegal 1

/-- What a decoder finds in a cell of a character set. -/
inductive Cell where
  /-- The cell holds this text. -/
  | chars (t : Text)
  /-- The cell is free: its bytes are refused at the first one. -/
  | free
  /-- The cell is withheld: its bytes are refused together. -/
  | withheld

/-- The cell of a lookup that finds a character or nothing. -/
def Cell.ofChar : Option Char → Cell
  | some c => .chars (one c)
  | none => .free

/-- The step for a cell that takes `used` bytes. -/
def Step.ofCell (cell : Cell) (used : Nat) : Step Unit :=
  match cell with
  | .chars t => .emit t used ()
  | .free => .illegal 1
  | .withheld => .illegal 2

/-- Run a stepper named `name` over `bs`, which start at offset `pos`, with `acc` the text made
so far in reverse; `fuel` counts the steps left, and each step uses at least one byte. -/
def Stepper.go {σ : Type} (m : Stepper σ) (name : String) :
    Nat → Nat → σ → List UInt8 → List Glyph → Except Failure Text
  | 0, _, _, _, acc => .ok acc.reverse
  | _, _, _, [], acc => .ok acc.reverse
  | fuel + 1, pos, st, b :: rest, acc =>
    match m.step st (b :: rest) with
    | .emit out used next =>
      let n := max used 1
      Stepper.go m name fuel (pos + n) next ((b :: rest).drop n) (out.reverse ++ acc)
    | .short => .error (bad name pos (pos + rest.length + 1) b "incomplete multibyte sequence")
    | .illegal size => .error (bad name pos (pos + size) b "illegal multibyte sequence")
    | .internal => .error (.runtime "internal codec error")

/-- Decode bytes with a stepper named `name`. -/
def Stepper.run {σ : Type} (m : Stepper σ) (name : String) (bs : List UInt8) :
    Except Failure Text :=
  m.go name bs.length 0 m.start bs []

end Cjk

end Codec

end Sockets
