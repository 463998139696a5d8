import Sockets.Decimal

/-!
# Double-precision numbers

A float that a caller passes is an IEEE 754 binary64 number. Its decimal text is rounded to the
nearest double, ties going to the even significand, so `0.1000000000000000055511151231257827`
and `0.1` are the same number and `1e400` is infinity. `Binary64` holds such a number exactly: a
sign, a significand below `2^53` and a power of two, with the infinities and NaN beside them.

A finite number is kept in one form only: its significand is at least `2^52` unless its exponent
is the least one, `-1074` (the subnormal numbers and zero).

Three things are asked of a double:

* how it compares with an integer (`compareInt`) or with another double (`compare?`), and the
  integer a conversion truncates it to (`truncate?`);
* whether two doubles are equal as numbers (`equals`: NaN equals nothing, the two zeros are
  equal);
* its shortest text (`text`): the fewest significant digits that round back to the same double,
  the nearer of two candidates when both do, written as `Decimal.render` writes decimals
  (`0.1`, `1.2345678901234568e+17`, `-0.0`, `inf`, `nan`).
-/

namespace Sockets

/-- A binary64 number: `(-1)^negative * significand * 2^exponent`, an infinity, or NaN. -/
inductive Binary64 where
  /-- A finite number. -/
  | finite (negative : Bool) (significand : Nat) (exponent : Int)
  /-- An infinity. -/
  | infinity (negative : Bool)
  /-- Not a number. -/
  | nan
  deriving DecidableEq, Inhabited

namespace Binary64

/-- The exponent of the least subnormal number, `2^-1074`. -/
def leastExponent : Int := -1074

/-- The greatest exponent of a finite number with a 53-bit significand. -/
def greatestExponent : Int := 971

/-- Zero of a sign. -/
def zero (negative : Bool) : Binary64 := .finite negative 0 leastExponent

/-- The ratio `num / den` multiplied by `2^-e`, as a numerator and a denominator. -/
def scaled (num den : Nat) (e : Int) : Nat × Nat :=
  if e ≥ 0 then (num, den * Nat.pow 2 e.toNat) else (num * Nat.pow 2 (-e).toNat, den)

/-- The ratio `num / den` rounded to the nearest double of the given sign, ties to even. -/
def ofRatio (negative : Bool) (num den : Nat) : Binary64 :=
  if num == 0 || den == 0 then zero negative
  else
    -- `num / den` lies in `[2^(l-1), 2^(l+1))`, so with `e = l - 53` the quotient lies in
    -- `[2^52, 2^54)`; one more step brings it below `2^53`.
    let l : Int := (Nat.log2 num : Int) - (Nat.log2 den : Int)
    let e0 : Int := max (l - 53) leastExponent
    let (n0, d0) := scaled num den e0
    let e := if n0 / d0 ≥ Nat.pow 2 53 then e0 + 1 else e0
    let (n, d) := scaled num den e
    let q := n / d
    let r := n % d
    let q := if 2 * r > d || (2 * r == d && q % 2 == 1) then q + 1 else q
    let (q, e) := if q == Nat.pow 2 53 then (Nat.pow 2 52, e + 1) else (q, e)
    if e > greatestExponent then .infinity negative else .finite negative q e

/-- The number of decimal digits of a natural number (one for zero). -/
def digitCount (n : Nat) : Nat := (toString n).length

/-- The double nearest to a decimal. Decimals far beyond the range of doubles become an
infinity or zero without computing their powers of ten. -/
def ofDecimal : Decimal → Binary64
  | .nan => .nan
  | .infinity negative => .infinity negative
  | .finite negative m k =>
    if m == 0 then zero negative
    else
      let top : Int := k + digitCount m
      if top > 310 then .infinity negative
      else if top < -330 then zero negative
      else if k ≥ 0 then ofRatio negative (m * Nat.pow 10 k.toNat) 1
      else ofRatio negative m (Nat.pow 10 (-k).toNat)

/-- The double a decimal text stands for, if the text is a number. -/
def parse? (text : String) : Option Binary64 := (Decimal.parse? text).map ofDecimal

/-- The double of an integer. -/
def ofInt (n : Int) : Binary64 := ofRatio (n < 0) n.natAbs 1

/-- The magnitude of a finite number as a numerator and a denominator. -/
def magnitude (significand : Nat) (exponent : Int) : Nat × Nat :=
  if exponent ≥ 0 then (significand * Nat.pow 2 exponent.toNat, 1)
  else (significand, Nat.pow 2 (-exponent).toNat)

/-- Whether `10^t ≤ num / den`. -/
def powerAtMost (t : Int) (num den : Nat) : Bool :=
  if t ≥ 0 then den * Nat.pow 10 t.toNat ≤ num else den ≤ num * Nat.pow 10 (-t).toNat

/-- `⌊log10 (num / den)⌋` for a positive ratio. -/
def log10Floor (num den : Nat) : Int :=
  let t : Int := (digitCount num : Int) - (digitCount den : Int)
  if powerAtMost t num den then t else t - 1

/-- The quotient and remainder of `num / den / 10^k`, with the divisor. -/
def divPow10 (num den : Nat) (k : Int) : Nat × Nat × Nat :=
  let (n, d) := if k ≥ 0 then (num, den * Nat.pow 10 k.toNat)
    else (num * Nat.pow 10 (-k).toNat, den)
  (n / d, n % d, d)

/-- The significand of the decimal with `p` significant digits that reads back as `x`, if one
does: of the two decimals around `x` at that precision, the one that reads back, the nearer one
when both do. -/
def digitsAt (x : Binary64) (negative : Bool) (num den : Nat) (t : Int) (p : Nat) :
    Option (Nat × Int) :=
  let k : Int := t - (p - 1 : Nat)
  let (lo, r, d) := divPow10 num den k
  let back (c : Nat) : Bool := ofDecimal (.finite negative c k) == x
  let loOk := back lo
  let hiOk := r != 0 && back (lo + 1)
  if loOk && hiOk then
    if 2 * r < d || (2 * r == d && lo % 2 == 0) then some (lo, k) else some (lo + 1, k)
  else if loOk then some (lo, k)
  else if hiOk then some (lo + 1, k)
  else none

/-- The first precision from 1 to 17 at which a decimal reads back as `x`. -/
def firstDigits (x : Binary64) (negative : Bool) (num den : Nat) (t : Int) :
    List Nat → Option (Nat × Int)
  | [] => none
  | p :: ps =>
    match digitsAt x negative num den t p with
    | some r => some r
    | none => firstDigits x negative num den t ps

/-- The shortest decimal that reads back as the double. -/
def shortest (x : Binary64) : Decimal :=
  match x with
  | .nan => .nan
  | .infinity negative => .infinity negative
  | .finite negative q e =>
    if q == 0 then .finite negative 0 0
    else
      let (num, den) := magnitude q e
      let t := log10Floor num den
      match firstDigits x negative num den t ((List.range 17).map (· + 1)) with
      | some (c, k) => .finite negative c k
      | none => .finite negative q 0

/-- The shortest text of a double. -/
def text (x : Binary64) : String := (shortest x).render

/-- How a double compares with an integer; `none` for NaN, which is unordered. -/
def compareInt : Binary64 → Int → Option Ordering
  | .nan, _ => none
  | .infinity negative, _ => some (if negative then .lt else .gt)
  | .finite negative q e, n =>
    let a : Int := if negative then -(q : Int) else q
    if e ≥ 0 then some (compare (a * Int.pow 2 e.toNat) n)
    else some (compare a (n * Int.pow 2 (-e).toNat))

/-- A finite number times `2^1074`, which is an integer since no exponent is below `-1074`. -/
def scaledInt (negative : Bool) (significand : Nat) (exponent : Int) : Int :=
  let m : Int := significand * Int.pow 2 (exponent - leastExponent).toNat
  if negative then -m else m

/-- How two doubles compare; `none` when one is NaN, which is unordered. -/
def compare? : Binary64 → Binary64 → Option Ordering
  | .nan, _ => none
  | _, .nan => none
  | .infinity a, .infinity b => some (if a == b then .eq else if a then .lt else .gt)
  | .infinity a, _ => some (if a then .lt else .gt)
  | _, .infinity b => some (if b then .gt else .lt)
  | .finite a p e, .finite b q f => some (compare (scaledInt a p e) (scaledInt b q f))

/-- Whether a double equals an integer. -/
def equalsInt (x : Binary64) (n : Int) : Bool := x.compareInt n == some .eq

/-- The integer a finite double truncates to, toward zero. -/
def truncate? : Binary64 → Option Int
  | .finite negative q e =>
    let m : Nat := if e ≥ 0 then q * Nat.pow 2 e.toNat else q / Nat.pow 2 (-e).toNat
    some (if negative then -(m : Int) else m)
  | _ => none

/-- The whole number a double is, if it is one. -/
def whole? (x : Binary64) : Option Int :=
  match x.truncate? with
  | some n => if x.equalsInt n then some n else none
  | none => none

/-- Whether a double is zero of either sign. -/
def isZero : Binary64 → Bool
  | .finite _ q _ => q == 0
  | _ => false

/-- Equality of doubles as numbers: NaN equals nothing, the two zeros are equal. -/
def equals : Binary64 → Binary64 → Bool
  | .nan, _ => false
  | _, .nan => false
  | .infinity a, .infinity b => a == b
  | .finite a p e, .finite b q f => (p == 0 && q == 0) || (a == b && p == q && e == f)
  | _, _ => false

end Binary64

end Sockets
