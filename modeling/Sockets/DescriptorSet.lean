import Sockets.Failure
import Sockets.Value.Order
import Sockets.Value.Conversion

/-!
# Descriptor sets

A descriptor set is a fixed-capacity bitmap of descriptors laid out as the native `fd_set`: an
array of unsigned 64-bit words, bit `fd % 64` of word `fd / 64` standing for descriptor `fd`. Its
capacity is the requested size rounded up to whole words.

Every operation works on the words as integers, as the library does:

* *Locating.* A descriptor outside `0 ≤ fd < capacity` is refused with
  `file descriptor out of range: <fd> (capacity is <capacity>)`, a value that has no order with
  numbers with a type error, and a float within the range too, since it cannot shift a bit into
  place. A descriptor in range is located by `divmod` as a word and a one-bit mask (`Slot`).
* *Updating.* Adding ORs the mask into the word, removing ANDs the word with the complement of the
  mask, a negative integer; the result is stored back into the array, which takes only the numbers
  of an unsigned 64-bit word (`store`). Zeroing stores zero into every word.
* *Reading.* Testing ANDs the word with the mask. Iteration takes the words in order and yields
  the set bits of each from the lowest up: `w & -w` isolates the lowest set bit, its bit length
  less one is its position, and `w ^= lowest` clears it (`bitsFrom`). The length is the sum of the
  words' bit counts (`bitCount`), the truth whether some word is not zero, and the greatest member
  the last one iterated.
* *Bytes.* The native bitmap is the words in order, each least significant byte first.

The membership test `mem` answers `false` for a descriptor out of range, and for any value that is
not an integer.
-/

namespace Sockets

/-- A fixed-capacity bitmap of descriptors: the words of the native `fd_set`. -/
structure DescriptorSet where
  /-- The words; bit `j` of word `i` stands for descriptor `64 * i + j`. -/
  words : Array UInt64
  deriving Inhabited, DecidableEq

namespace DescriptorSet

/-- The number of bits of a word. -/
def wordBits : Nat := 64

/-- The number of descriptors the set can hold. -/
def capacity (s : DescriptorSet) : Nat := s.words.size * wordBits

/-- The largest size of an object in memory, in bytes. -/
def largestObject : Nat := Nat.pow 2 63 - 1

/-- The room a byte string needs besides its bytes. -/
def byteStringHeader : Nat := 33

/-- `a & b` of integers, each written in two's complement with its sign repeated without end: the
bits of `-[n+1]` are those of `n` flipped. -/
def bitAnd : Int → Int → Int
  | .ofNat m, .ofNat n => .ofNat (m &&& n)
  | .ofNat m, .negSucc n => .ofNat (m ^^^ (m &&& n))
  | .negSucc m, .ofNat n => .ofNat (n ^^^ (n &&& m))
  | .negSucc m, .negSucc n => .negSucc (m ||| n)

/-- The number of binary digits of a number. -/
def bitLength (n : Nat) : Nat := if n = 0 then 0 else n.log2 + 1

/-- The empty set of at least `size` descriptors. The size must be a positive number, and a
whole one: a float size cannot count the set's bytes. A bitmap of more bytes than an object may
have is refused as an overflow, and one too large for any memory as a memory failure. -/
def empty (size : Value) : Except Failure DescriptorSet := do
  if ← size.le (.int 0) then throw (.valueError "size must be a positive integer")
  match size.asInt? with
  | some n =>
    let words := (n.toNat + wordBits - 1) / wordBits
    if words * 8 > largestObject then
      throw (.overflow "cannot fit 'int' into an index-sized integer")
    if words * 8 > largestObject - byteStringHeader then throw (.overflow "byte string is too large")
    if (words * 8 : Int) > Value.allocationLimit then throw .memory
    pure { words := Array.replicate words 0 }
  | none => throw (.typeError ("cannot convert '" ++ size.typeName ++ "' object to bytes"))

/-- Word `index` read as an integer. -/
def word (s : DescriptorSet) (index : Nat) : Nat := (s.words[index]?.getD 0).toNat

/-- Store an integer into word `index`. The array holds only the numbers of an unsigned 64-bit
word and refuses any other as an overflow. -/
def store (s : DescriptorSet) (index : Nat) (w : Int) : Except Failure DescriptorSet :=
  if w < 0 then throw (.overflow "unsigned long is less than minimum")
  else if w ≥ Int.pow 2 64 then
    throw (.overflow "Python int too large to convert to C unsigned long")
  else pure ⟨s.words.setIfInBounds index (UInt64.ofNat w.toNat)⟩

/-- Where the bit of a descriptor lives: a word and a mask with that one bit set. -/
structure Slot where
  /-- The word. -/
  index : Nat
  /-- The mask of the bit within the word. -/
  mask : Nat

/-- The slot of descriptor `fd`: `divmod` by the word size, then a one shifted to the bit. -/
def slot (fd : Nat) : Slot := ⟨fd / wordBits, 1 <<< (fd % wordBits)⟩

/-- The refusal of a descriptor outside the capacity, naming it and the capacity. -/
def outOfRange (s : DescriptorSet) (fd : Value) : Failure :=
  .valueError ("file descriptor out of range: " ++ fd.quote ++ " (capacity is " ++
    toString s.capacity ++ ")")

/-- The slot of a descriptor given by a caller: a number within the capacity, and a whole one,
since a float cannot shift a bit into place. -/
def locate (s : DescriptorSet) (fd : Value) : Except Failure Slot := do
  let below ← fd.lt (.int 0)
  let beyond ← if below then pure false else fd.ge (.int s.capacity)
  if below || beyond then throw (s.outOfRange fd)
  match fd.asInt? with
  | some n => pure (slot n.toNat)
  | none => throw (.typeError ("unsupported operand type(s) for <<: 'int' and '" ++
      fd.typeName ++ "'"))

/-- Whether the bit of a slot is set. -/
def test (s : DescriptorSet) (p : Slot) : Bool := s.word p.index &&& p.mask != 0

/-- Whether descriptor `fd` is a member. -/
def has (s : DescriptorSet) (fd : Nat) : Bool := s.test (slot fd)

/-- Add a descriptor given by a caller: `word |= mask`. -/
def add (s : DescriptorSet) (fd : Value) : Except Failure DescriptorSet := do
  let p ← s.locate fd
  s.store p.index (s.word p.index ||| p.mask : Nat)

/-- Remove a descriptor given by a caller: `word &= ~mask`, with the complement of the mask a
negative integer. -/
def remove (s : DescriptorSet) (fd : Value) : Except Failure DescriptorSet := do
  let p ← s.locate fd
  s.store p.index (bitAnd (s.word p.index) (~~~(p.mask : Int)))

/-- Test a descriptor given by a caller; a descriptor out of range is refused. -/
def contains (s : DescriptorSet) (fd : Value) : Except Failure Bool :=
  (s.locate fd).map s.test

/-- Membership of any value: `false` for what is not an integer in range. -/
def mem (s : DescriptorSet) (fd : Value) : Bool :=
  match fd.asInt? with
  | some n => 0 ≤ n && n < s.capacity && s.has n.toNat
  | none => false

/-- The set of at least `size` descriptors holding the items of `fds`. -/
def ofValues (size : Value) (fds : Value) : Except Failure DescriptorSet := do
  let s ← empty size
  let items ← fds.iterate
  items.foldlM add s

/-- The set with every word zero. -/
def clear (s : DescriptorSet) : DescriptorSet := ⟨s.words.map fun _ => 0⟩

/-! ## Iteration -/

/-- The lowest set bit of a number, as `w & -w` isolates it. -/
def lowestBit (w : Nat) : Nat := (bitAnd w (-w)).toNat

/-- On a positive number, `w & -w` keeps the bits of `w` that `w - 1` does not have. -/
theorem lowestBit_succ (k : Nat) : lowestBit (k + 1) = (k + 1) ^^^ ((k + 1) &&& k) := rfl

/-- Clearing the lowest set bit of a positive number leaves the bits it shares with its
predecessor, so it makes the number smaller. -/
theorem xor_lowestBit_lt {w : Nat} (hw : w ≠ 0) : w ^^^ lowestBit w < w := by
  obtain ⟨k, rfl⟩ := Nat.exists_eq_succ_of_ne_zero hw
  have hclear : (k + 1) ^^^ lowestBit (k + 1) = (k + 1) &&& k := by
    apply Nat.eq_of_testBit_eq
    intro j
    rw [lowestBit_succ, Nat.testBit_xor, Nat.testBit_xor, Nat.testBit_and]
    cases (k + 1).testBit j <;> cases k.testBit j <;> rfl
  rw [hclear]
  exact Nat.lt_of_le_of_lt Nat.and_le_right (Nat.lt_succ_self k)

/-- The set bits of a word from the lowest up, each as its position plus `base`. -/
def bitsFrom (base w : Nat) : List Nat :=
  if w = 0 then [] else
    let lowest := lowestBit w
    (base + bitLength lowest - 1) :: bitsFrom base (w ^^^ lowest)
termination_by w
decreasing_by exact xor_lowestBit_lt ‹_›

/-- The members in order: each word that is not zero in turn, its set bits from the lowest up. -/
def toList (s : DescriptorSet) : List Nat :=
  (List.range s.words.size).flatMap fun index =>
    if s.word index = 0 then [] else bitsFrom (index * wordBits) (s.word index)

/-- The number of set bits of a number. -/
def bitCount (n : Nat) : Nat :=
  if n = 0 then 0 else bitCount (n / 2) + n % 2
termination_by n
decreasing_by exact Nat.div_lt_self (Nat.pos_of_ne_zero ‹_›) (by decide)

/-- The number of members: the sum of the words' bit counts. -/
def size (s : DescriptorSet) : Nat := s.words.foldl (fun total w => total + bitCount w.toNat) 0

/-- Whether some word is not zero. -/
def nonempty (s : DescriptorSet) : Bool := s.words.any (· != 0)

/-- The last member iterated, or `-1` for the empty set. -/
def highest (s : DescriptorSet) : Int := s.toList.foldl (fun (_ : Int) (fd : Nat) => (fd : Int)) (-1)

/-- The native bitmap: the words in order, each least significant byte first. -/
def toBytes (s : DescriptorSet) : List UInt8 :=
  s.words.toList.flatMap fun w => (List.range 8).map fun i => (w.toNat / Nat.pow 256 i % 256).toUInt8

/-- The text of a set: its members in brackets. -/
def render (s : DescriptorSet) : String :=
  "<FDSet [" ++ ", ".intercalate (s.toList.map toString) ++ "]>"

end DescriptorSet

end Sockets
