/-!
# Tables of code points

The character tables this library needs (which code points print, the tables of name
preparation, normalization data) are written as text and read once into sorted arrays:

* a *set* is a list of hexadecimal code points and inclusive ranges separated by blanks:
  `0-1F 7F-A0 AD`, ascending;
* a *map* sends code points to lists of code points: `C0:41.300 C1:41.301`, the keys ascending;
* a *class table* gives ranges a number: `300-314:E6 315:E8`, the ranges ascending, the numbers
  in hexadecimal too.

Lookups are binary searches over the sorted arrays (`lastAtMost`).
-/

namespace Sockets

namespace Unicode

/-- The value of a hexadecimal digit, if the character is one. -/
def hexDigit? (c : Char) : Option Nat :=
  if '0' ≤ c && c ≤ '9' then some (c.toNat - '0'.toNat)
  else if 'A' ≤ c && c ≤ 'F' then some (c.toNat - 'A'.toNat + 10)
  else if 'a' ≤ c && c ≤ 'f' then some (c.toNat - 'a'.toNat + 10)
  else none

/-- The number written by hexadecimal digits (other characters count as zero). -/
def readHex (s : String) : Nat :=
  s.toList.foldl (fun acc c => acc * 16 + (hexDigit? c).getD 0) 0

/-- The words of a table text. -/
def words (s : String) : List String := (s.splitOn " ").filter (· != "")

/-- An inclusive range `a-b`, or a single code point `a`. -/
def readRange (w : String) : Nat × Nat :=
  match w.splitOn "-" with
  | [a, b] => (readHex a, readHex b)
  | _ => (readHex w, readHex w)

/-- The index of the last key at most `n` among `keys[lo]` to `keys[hi - 1]`, given that
`keys[lo]` is at most `n`. -/
def lastAtMost (keys : Array Nat) (n lo hi : Nat) : Nat :=
  if lo + 1 < hi then
    let mid := (lo + hi) / 2
    if keys.getD mid 0 ≤ n then lastAtMost keys n mid hi else lastAtMost keys n lo mid
  else lo
termination_by hi - lo
decreasing_by all_goals omega

/-- The index of the last key at most `n`, if there is one. -/
def locate (keys : Array Nat) (n : Nat) : Option Nat :=
  if keys.size == 0 || n < keys.getD 0 0 then none else some (lastAtMost keys n 0 keys.size)

/-- A set of code points: ascending, disjoint inclusive ranges. -/
structure CodeSet where
  /-- The first code point of each range. -/
  starts : Array Nat
  /-- The last code point of each range. -/
  stops : Array Nat

namespace CodeSet

/-- The set a table text writes. -/
def ofText (s : String) : CodeSet :=
  let rs := (words s).map readRange
  { starts := (rs.map (·.1)).toArray, stops := (rs.map (·.2)).toArray }

/-- Whether a code point is in the set. -/
def contains (t : CodeSet) (n : Nat) : Bool :=
  match locate t.starts n with
  | some i => n ≤ t.stops.getD i 0
  | none => false

end CodeSet

/-- A map from code points to lists of code points, by ascending key. -/
structure CodeMap where
  /-- The keys. -/
  keys : Array Nat
  /-- The value of each key. -/
  values : Array (List Nat)

namespace CodeMap

/-- The map a table text writes. -/
def ofText (s : String) : CodeMap :=
  let entries := (words s).map fun w =>
    match w.splitOn ":" with
    | [k, v] => (readHex k, (v.splitOn ".").filter (· != "") |>.map readHex)
    | _ => (readHex w, [])
  { keys := (entries.map (·.1)).toArray, values := (entries.map (·.2)).toArray }

/-- The value of a code point, if it has one. -/
def find? (t : CodeMap) (n : Nat) : Option (List Nat) :=
  match locate t.keys n with
  | some i => if t.keys.getD i 0 == n then some (t.values.getD i []) else none
  | none => none

end CodeMap

/-- Numbers given to ranges of code points; code points outside every range have 0. -/
structure ClassTable where
  /-- The first code point of each range. -/
  starts : Array Nat
  /-- The last code point of each range. -/
  stops : Array Nat
  /-- The number of each range. -/
  classes : Array Nat

namespace ClassTable

/-- The table a text writes. -/
def ofText (s : String) : ClassTable :=
  let entries := (words s).map fun w =>
    match w.splitOn ":" with
    | [r, v] => (readRange r, readHex v)
    | _ => (readRange w, 0)
  { starts := (entries.map (·.1.1)).toArray, stops := (entries.map (·.1.2)).toArray
    classes := (entries.map (·.2)).toArray }

/-- The number of a code point. -/
def get (t : ClassTable) (n : Nat) : Nat :=
  match locate t.starts n with
  | some i => if n ≤ t.stops.getD i 0 then t.classes.getD i 0 else 0
  | none => 0

end ClassTable

end Unicode

end Sockets
