import Sockets.Unicode.Ranges

/-!
# Decimal digits and white space

Reading a number from text accepts the decimal digits of every script and white space around
the number, as the character database of Unicode 14 defines them:

* the decimal digits come in runs of ten, `0` to `9` in order, so the value of a digit is its
  distance from the start of its range, modulo ten;
* white space is the set of code points of the separator classes, with the bidirectional
  classes of white space, segment and paragraph separators (the tab and line controls among
  them).
-/

namespace Sockets

namespace Unicode

/-- The ranges of decimal digits, each made of whole runs of ten. -/
def decimalDigits : CodeSet := CodeSet.ofText (
  "30-39 660-669 6F0-6F9 7C0-7C9 966-96F 9E6-9EF A66-A6F AE6-AEF B66-B6F BE6-BEF C66-C6F " ++
  "CE6-CEF D66-D6F DE6-DEF E50-E59 ED0-ED9 F20-F29 1040-1049 1090-1099 17E0-17E9 1810-1819 " ++
  "1946-194F 19D0-19D9 1A80-1A89 1A90-1A99 1B50-1B59 1BB0-1BB9 1C40-1C49 1C50-1C59 A620-A629 " ++
  "A8D0-A8D9 A900-A909 A9D0-A9D9 A9F0-A9F9 AA50-AA59 ABF0-ABF9 FF10-FF19 104A0-104A9 " ++
  "10D30-10D39 11066-1106F 110F0-110F9 11136-1113F 111D0-111D9 112F0-112F9 11450-11459 " ++
  "114D0-114D9 11650-11659 116C0-116C9 11730-11739 118E0-118E9 11950-11959 11C50-11C59 " ++
  "11D50-11D59 11DA0-11DA9 16A60-16A69 16AC0-16AC9 16B50-16B59 1D7CE-1D7FF 1E140-1E149 " ++
  "1E2F0-1E2F9 1E950-1E959 1FBF0-1FBF9")

/-- The white space code points. -/
def whiteSpace : CodeSet := CodeSet.ofText (
  "9-D 1C-20 85 A0 1680 2000-200A 2028-2029 202F 205F 3000")

/-- The value of a decimal digit, if the code point is one. -/
def decimalDigit? (n : Nat) : Option Nat :=
  match locate decimalDigits.starts n with
  | some i =>
    let start := decimalDigits.starts.getD i 0
    if n ≤ decimalDigits.stops.getD i 0 then some ((n - start) % 10) else none
  | none => none

/-- Whether a code point is white space. -/
def isWhiteSpace (n : Nat) : Bool := whiteSpace.contains n

/-- The character a code point of text counts as when a number is read: a decimal digit as its
ASCII digit, white space as a blank, any other character beyond ASCII as one that is no part of
a number. -/
def asciiOf (n : Nat) : Char :=
  match decimalDigit? n with
  | some d => Char.ofNat ('0'.toNat + d)
  | none => if isWhiteSpace n then ' ' else if n < 128 then Char.ofNat n else '?'

end Unicode

end Sockets
