import Sockets.Failure

/-!
# Punycode

Punycode (RFC 3492) writes a sequence of code points with ASCII letters, digits and hyphens:
the basic (ASCII) code points first, a hyphen if there were any, then for each other code point,
in increasing order, the distance to its place as a generalized variable-length integer whose
digit thresholds follow a bias adapted after each insertion.

`encode` writes code points; `decode` reads bytes back, refusing a byte beyond ASCII (with the
offset of the byte in its part), a digit that is no letter or digit (`Invalid extended code point
'…'`), an integer cut short (`incomplete punicode string`) and a code point beyond the range of
Unicode (`Invalid character U+…`).
-/

namespace Sockets

namespace Punycode

/-- The character of a digit: `a`-`z` for 0 to 25, `0`-`9` for 26 to 35. -/
def digitChar (d : Nat) : Char :=
  if d < 26 then Char.ofNat (0x61 + d) else Char.ofNat (0x30 + d - 26)

/-- The threshold of the digit at weight `k`, between 1 and 26. -/
def threshold (k bias : Nat) : Nat :=
  if k ≤ bias then 1 else if bias + 26 ≤ k then 26 else k - bias

theorem threshold_pos (k bias : Nat) : 1 ≤ threshold k bias := by
  unfold threshold
  split
  · omega
  · split <;> omega

theorem threshold_le (k bias : Nat) : threshold k bias ≤ 26 := by
  unfold threshold
  split
  · omega
  · split <;> omega

/-- Divide `delta` by 35 until it is at most 455, counting 36 per division. -/
def shrink (delta k : Nat) : Nat × Nat :=
  if 455 < delta then shrink (delta / 35) (k + 36) else (delta, k)
termination_by delta
decreasing_by exact Nat.div_lt_self (by omega) (by omega)

/-- The bias after a delta: damped by 700 the first time and halved after. -/
def adapt (delta points : Nat) (first : Bool) : Nat :=
  let d := if first then delta / 700 else delta / 2
  let r := shrink (d + d / points) 0
  r.2 + 36 * r.1 / (r.1 + 38)

/-- The digits of a delta, least significant first, with thresholds from `bias`. -/
def digits (bias k q : Nat) : List Char :=
  let t := threshold k bias
  if q < t then [digitChar q]
  else digitChar (t + (q - t) % (36 - t)) :: digits bias (k + 36) ((q - t) / (36 - t))
termination_by q
decreasing_by
  have _ := threshold_pos k bias
  have _ := threshold_le k bias
  calc (q - threshold k bias) / (36 - threshold k bias)
      ≤ q - threshold k bias := Nat.div_le_self _ _
    _ < q := by omega

/-- The state of an encoding: the digits so far, the running delta, the bias and the number of
code points handled. -/
structure Progress where
  out : List Char
  delta : Nat
  bias : Nat
  handled : Nat

/-- Pass one code point of the input while inserting the code point `m`. -/
def visit (basic m : Nat) (p : Progress) (c : Nat) : Progress :=
  if c < m then { p with delta := p.delta + 1 }
  else if c == m then
    { out := p.out ++ digits p.bias 36 p.delta, delta := 0,
      bias := adapt p.delta (p.handled + 1) (p.handled == basic), handled := p.handled + 1 }
  else p

/-- Insert the non-basic code points in increasing order; `n` is the last one inserted plus one. -/
def insertAll (input : List Nat) (basic : Nat) : List Nat → Nat → Progress → Progress
  | [], _, p => p
  | m :: rest, n, p =>
    let p := input.foldl (visit basic m) { p with delta := p.delta + (m - n) * (p.handled + 1) }
    insertAll input basic rest (m + 1) { p with delta := p.delta + 1 }

/-- The code points at or above 128, once each, in increasing order. -/
def extended (input : List Nat) : List Nat :=
  ((input.filter (128 ≤ ·)).mergeSort (· ≤ ·)).eraseDups

/-- The Punycode of a sequence of code points: the basic ones, a hyphen if there were any, then
the deltas of the others. -/
def encode (input : List Nat) : List Char :=
  let basic := (input.filter (· < 128)).map Char.ofNat
  let rest := (insertAll input basic.length (extended input) 128
    { out := [], delta := 0, bias := 72, handled := basic.length }).out
  if basic.isEmpty then rest else basic ++ '-' :: rest


/-! ## Decoding -/

/-- The value of a digit of the extended part (already in upper case): `A`-`Z` for 0 to 25,
`0`-`9` for 26 to 35. -/
def digitValue? (c : Char) : Option Nat :=
  if 'A' ≤ c && c ≤ 'Z' then some (c.toNat - 'A'.toNat)
  else if '0' ≤ c && c ≤ '9' then some (c.toNat - '0'.toNat + 26)
  else none

/-- Read one generalized variable-length integer (RFC 3492, 3.3) whose digits start at weight
`k`, adding to `acc` with the digit weight `w`: its value and the characters after it. -/
def readNumber (bias k acc w : Nat) : List Char → Except String (Nat × List Char)
  | [] => .error "incomplete punicode string"
  | c :: rest =>
    match digitValue? c with
    | none => .error ("Invalid extended code point '" ++ String.singleton c ++ "'")
    | some d =>
      let t := threshold k bias
      if d < t then .ok (acc + d * w, rest)
      else readNumber bias (k + 36) (acc + d * w) (w * (36 - t)) rest

theorem readNumber_shorter (bias k acc w : Nat) (cs : List Char) (n : Nat) (rest : List Char)
    (h : readNumber bias k acc w cs = .ok (n, rest)) : rest.length < cs.length := by
  induction cs generalizing k acc w with
  | nil => simp [readNumber] at h
  | cons c cs ih =>
    simp only [readNumber] at h
    split at h
    · simp at h
    · split at h
      · simp only [Except.ok.injEq, Prod.mk.injEq] at h
        simp [← h.2]
      · have := ih _ _ _ h
        simp only [List.length_cons]
        omega

/-- Insert the code points the deltas of `extended` describe into `base` (RFC 3492, 3.2):
`code` is the code point reached, `pos` the position of the last insertion plus one (zero
before the first), `bias` the current bias. -/
def insertAllFrom (base : List Nat) (code pos bias : Nat) (first : Bool) (extended : List Char) :
    Except String (List Nat) :=
  match h : readNumber bias 36 0 1 extended with
  | .error e => if extended.isEmpty then .ok base else .error e
  | .ok (delta, rest) =>
    let place := pos + delta
    let code := code + place / (base.length + 1)
    if code > 0x10FFFF then .error ("Invalid character U+" ++ String.ofList (Nat.toDigits 16 code))
    else
      let place := place % (base.length + 1)
      let base := base.take place ++ code :: base.drop place
      insertAllFrom base code (place + 1) (adapt delta base.length first) false rest
termination_by extended.length
decreasing_by exact readNumber_shorter _ _ _ _ _ _ _ h

/-- The ASCII text of bytes, or the refusal naming the first byte beyond ASCII. -/
def asciiText (bs : List UInt8) : Except Failure (List Nat) :=
  match bs.findIdx? (· ≥ 128) with
  | some i =>
    let e : BadBytes :=
      { codec := "ascii", start := i, stop := i + 1, byte := bs.getD i 0,
        reason := "ordinal not in range(128)" }
    .error (.decode e)
  | none => .ok (bs.map UInt8.toNat)

/-- The code points that Punycode bytes write: the basic code points before the last hyphen,
then the others inserted where their deltas say. -/
def decode (bs : List UInt8) : Except Failure (List Nat) := do
  let (basic, extended) ← match bs.reverse.findIdx? (· == 0x2D) with
    | some i =>
      let cut := bs.length - 1 - i
      pure (← asciiText (bs.take cut), ← asciiText (bs.drop (cut + 1)))
    | none => pure ([], ← asciiText bs)
  let extended := extended.map fun n => (Char.ofNat n).toUpper
  (insertAllFrom basic 0x80 0 72 true extended).mapError Failure.unicode

end Punycode

end Sockets
