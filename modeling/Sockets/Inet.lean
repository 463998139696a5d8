/-!
# Internet addresses as text

The text forms of internet addresses and their four or sixteen bytes.

* `Inet4.parse?` reads the strict dotted quad: four decimal parts, each at most 255 and without
  leading zeros.
* `Inet4.parseLoose?` reads the older numbers-and-dots form that name resolution accepts: one to
  four parts, each decimal, octal (leading `0`) or hexadecimal (leading `0x`), the last part
  filling the remaining bytes (`127.1` is `127.0.0.1`).
* `Inet6.parse?` reads groups of at most four hexadecimal digits separated by colons, with at
  most one `::` standing for a run of zero groups and an optional dotted quad in place of the
  last two groups.
* `Inet4.render` and `Inet6.render` write the canonical forms: for version 6, lowercase groups
  without leading zeros, the longest run of two or more zero groups (the first of equal runs)
  written `::`, and the dotted quad for addresses of the forms `::a.b.c.d` and
  `::ffff:a.b.c.d`.
-/

namespace Sockets

/-- The value of a decimal, octal or hexadecimal digit, if `c` is a hexadecimal digit. -/
def hexValue? (c : Char) : Option Nat :=
  if '0' ≤ c && c ≤ '9' then some (c.toNat - 48)
  else if 'a' ≤ c && c ≤ 'f' then some (c.toNat - 87)
  else if 'A' ≤ c && c ≤ 'F' then some (c.toNat - 55)
  else none

/-- Whether `c` is a hexadecimal digit. -/
def isHexDigit (c : Char) : Bool := (hexValue? c).isSome

/-- Whether `c` is an octal digit. -/
def isOctDigit (c : Char) : Bool := '0' ≤ c && c ≤ '7'

/-- The value of digits in a base. -/
def digitsIn (base : Nat) (cs : List Char) : Nat :=
  cs.foldl (fun acc c => acc * base + ((hexValue? c).getD 0)) 0

/-- The lowercase hexadecimal text of `n`, without leading zeros. -/
def lowerHex (n : Nat) : String := String.ofList (Nat.toDigits 16 n)

namespace Inet4

/-- One part of a strict dotted quad. -/
def parsePart? (p : String) : Option UInt8 :=
  let cs := p.toList
  if cs.isEmpty || cs.length > 3 || !cs.all Char.isDigit || (cs.length > 1 && cs.head? == some '0')
  then none
  else
    let v := digitsIn 10 cs
    if v > 255 then none else some v.toUInt8

/-- The four bytes of a strict dotted quad. -/
def parse? (s : String) : Option (List UInt8) :=
  let parts := s.splitOn "."
  if parts.length != 4 then none else parts.mapM parsePart?

/-- One part of the numbers-and-dots form, which must start with a digit and be read whole. -/
def loosePart? (cs : List Char) : Option Nat :=
  match cs with
  | [] => none
  | '0' :: x :: rest =>
    if x == 'x' || x == 'X' then
      if !rest.isEmpty && rest.all isHexDigit then some (digitsIn 16 rest) else none
    else if (x :: rest).all isOctDigit then some (digitsIn 8 (x :: rest))
    else none
  | c :: rest => if c.isDigit && rest.all Char.isDigit then some (digitsIn 10 (c :: rest)) else none

/-- The largest value of the last part when `n` parts precede it. -/
def lastLimit (n : Nat) : Nat := Nat.pow 2 (8 * (4 - n)) - 1

/-- The address, as a 32-bit number, of the numbers-and-dots form. -/
def parseLoose? (s : String) : Option Nat := do
  let parts ← (s.splitOn ".").mapM (fun p => loosePart? p.toList)
  if parts.length > 4 then none
  let front := parts.dropLast
  let last ← parts.getLast?
  if front.any (· > 255) || last > lastLimit front.length then none
  let high := front.foldl (fun acc b => acc * 256 + b) 0
  some (high * Nat.pow 256 (4 - front.length) + last)

/-- The four bytes of a 32-bit address, most significant first. -/
def bytesOf (n : Nat) : List UInt8 :=
  [(n / Nat.pow 2 24 % 256).toUInt8, (n / Nat.pow 2 16 % 256).toUInt8, (n / Nat.pow 2 8 % 256).toUInt8,
    (n % 256).toUInt8]

/-- The dotted quad of four bytes. -/
def render (bs : List UInt8) : String :=
  ".".intercalate (bs.map fun b => toString b.toNat)

end Inet4

namespace Inet6

/-- The two bytes of a 16-bit group. -/
def groupBytes (v : Nat) : List UInt8 := [(v / 256 % 256).toUInt8, (v % 256).toUInt8]

/-- The sixteen bytes, once the text is read: the bytes written before and after the `::`
(at position `colon`) are set apart by zeros. -/
def expand (out : List UInt8) (colon : Option Nat) : Option (List UInt8) :=
  match colon with
  | some p =>
    if out.length == 16 then none
    else some (out.take p ++ List.replicate (16 - out.length) 0 ++ out.drop p)
  | none => if out.length == 16 then some out else none

/-- Read the rest of a version 6 text. `tok` is the text from the start of the current group,
`out` the bytes so far, `colon` where `::` stood, `digits` and `val` the current group. -/
def scan (tok : List Char) (out : List UInt8) (colon : Option Nat) (digits val : Nat) :
    List Char → Option (List UInt8)
  | [] =>
    if digits > 0 then
      if out.length + 2 > 16 then none else expand (out ++ groupBytes val) colon
    else expand out colon
  | c :: rest =>
    match hexValue? c with
    | some d => if digits == 4 then none else scan tok out colon (digits + 1) (val * 16 + d) rest
    | none =>
      if c == ':' then
        if digits == 0 then
          if colon.isSome then none else scan rest out (some out.length) 0 0 rest
        else if rest.isEmpty || out.length + 2 > 16 then none
        else scan rest (out ++ groupBytes val) colon 0 0 rest
      else if c == '.' && out.length + 4 ≤ 16 then
        match Inet4.parse? (String.ofList tok) with
        | some four => expand (out ++ four) colon
        | none => none
      else none

/-- The sixteen bytes of a version 6 text. -/
def parse? (s : String) : Option (List UInt8) :=
  match s.toList with
  | [] => none
  | ':' :: rest =>
    match rest with
    | ':' :: _ => scan rest [] none 0 0 rest
    | _ => none
  | cs => scan cs [] none 0 0 cs

/-- The eight groups of sixteen bytes. -/
def groups (bs : List UInt8) : List Nat :=
  (List.range 8).map fun i => (bs.getD (2 * i) 0).toNat * 256 + (bs.getD (2 * i + 1) 0).toNat

/-- The longest run of zero groups as (start, length), the first of equal runs; length 0 if none.
`i` is the index of the next group, `cur` the run that ends there. -/
def longestZeros : List Nat → Nat → Nat × Nat → Nat × Nat → Nat × Nat
  | [], _, cur, best => if cur.2 > best.2 then cur else best
  | w :: ws, i, cur, best =>
    if w == 0 then
      let cur' := if cur.2 == 0 then (i, 1) else (cur.1, cur.2 + 1)
      longestZeros ws (i + 1) cur' best
    else
      let best' := if cur.2 > best.2 then cur else best
      longestZeros ws (i + 1) (0, 0) best'

/-- The canonical text of sixteen bytes. -/
def render (bs : List UInt8) : String :=
  let ws := groups bs
  let found := longestZeros ws 0 (0, 0) (0, 0)
  let best := if found.2 < 2 then none else some found
  let inRun (i : Nat) : Bool := match best with
    | some (b, l) => b ≤ i && i < b + l
    | none => false
  let embedded := match best with
    | some (0, 6) => true
    | some (0, 5) => ws.getD 5 0 == 0xffff
    | _ => false
  let rec go (i : Nat) (fuel : Nat) (acc : String) : String :=
    match fuel with
    | 0 => acc
    | fuel + 1 =>
      if i ≥ 8 then acc
      else if inRun i then
        go (i + 1) fuel (if best.map (·.1) == some i then acc ++ ":" else acc)
      else
        let acc := if i != 0 then acc ++ ":" else acc
        if i == 6 && embedded then acc ++ Inet4.render (bs.drop 12)
        else go (i + 1) fuel (acc ++ lowerHex (ws.getD i 0))
  let body := go 0 8 ""
  match best with
  | some (b, l) => if b + l == 8 then body ++ ":" else body
  | none => body

end Inet6

end Sockets
