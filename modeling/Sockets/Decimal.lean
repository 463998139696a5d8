import Sockets.Unicode.Digits

/-!
# Decimal numbers written by callers

A floating-point argument reaches the library as the decimal text its caller wrote (`"1.5"`,
`"80.0"`, `"1e3"`). `Decimal` is that number read exactly: a sign, a natural significand and a
power of ten, or one of the special values. `Binary64` rounds it to the nearest double, and
writes a double back through the shortest decimal that reads back as it (`render`).

The text is read as a float literal of text is: blanks around the number, digits of any script,
single underscores between digits, and the words `nan`, `inf` and `infinity` in any case.
-/

namespace Sockets

/-- A decimal number `(-1)^negative * significand * 10^exponent`, or one of the special values. -/
inductive Decimal where
  /-- A finite number. -/
  | finite (negative : Bool) (significand : Nat) (exponent : Int)
  /-- Not a number. -/
  | nan
  /-- An infinity. -/
  | infinity (negative : Bool)
  deriving Inhabited, DecidableEq

namespace Decimal

/-- The value of a list of decimal digits. -/
def digitsValue (ds : List Char) : Nat :=
  ds.foldl (fun acc c => acc * 10 + (c.toNat - 48)) 0

/-- The integer written by an optional sign and digits. -/
def readExponent? (cs : List Char) : Option Int :=
  let (neg, rest) := match cs with
    | '-' :: r => (true, r)
    | '+' :: r => (false, r)
    | r => (false, r)
  if rest.isEmpty || !rest.all Char.isDigit then none
  else
    let n : Int := digitsValue rest
    some (if neg then -n else n)

/-- Whether a character is a blank around a written number. -/
def isBlank (c : Char) : Bool :=
  c == ' ' || c == '\t' || c == '\n' || c == '\r' || c == '\x0b' || c == '\x0c'

/-- The characters with the underscores between two digits taken out, `prev` being the character
before them; `none` when an underscore stands anywhere else (first, last, or next to a character
that is no digit). -/
def dropUnderscores (prev : Char) : List Char → Option (List Char)
  | [] => if prev == '_' then none else some []
  | c :: rest =>
    if c == '_' then
      if prev.isDigit then dropUnderscores c rest else none
    else if prev == '_' && !c.isDigit then none
    else (dropUnderscores c rest).map (c :: ·)

/-- Read the decimal text of a number: blanks around it, an optional sign, digits with an optional
point and single underscores between digits, an optional exponent; `nan`, `inf` and `infinity`
(any case) for the special values. Digits of every script count as their ASCII digits and white
space as blanks; any other character beyond ASCII writes no number. -/
def parse? (text : String) : Option Decimal := do
  let cs ← dropUnderscores '\x00' (text.toList.map fun c => Unicode.asciiOf c.toNat)
  let cs := ((cs.dropWhile isBlank).reverse.dropWhile isBlank).reverse
  let (neg, body) := match cs with
    | '-' :: r => (true, r)
    | '+' :: r => (false, r)
    | r => (false, r)
  let word := String.ofList (body.map Char.toLower)
  if word == "nan" then some .nan
  else if word == "inf" || word == "infinity" then some (.infinity neg)
  else
    let mant := body.takeWhile (fun c => c != 'e' && c != 'E')
    let expPart := body.dropWhile (fun c => c != 'e' && c != 'E')
    let intDigits := mant.takeWhile (· != '.')
    let fracDigits := (mant.dropWhile (· != '.')).drop 1
    let hasPoint := mant.contains '.'
    let exp? : Option Int := match expPart with
      | [] => some 0
      | _ :: r => readExponent? r
    if (intDigits.isEmpty && fracDigits.isEmpty) || !intDigits.all Char.isDigit ||
        !fracDigits.all Char.isDigit || (hasPoint && (mant.filter (· == '.')).length != 1) then
      none
    else
      exp?.map fun e =>
        Decimal.finite neg (digitsValue (intDigits ++ fracDigits)) (e - fracDigits.length)

/-- The same number with the trailing zeros of its significand moved into the exponent. -/
def normalize (neg : Bool) (m : Nat) (e : Int) (fuel : Nat) : Decimal :=
  match fuel with
  | 0 => .finite neg m e
  | fuel + 1 =>
    if m != 0 && m % 10 == 0 then normalize neg (m / 10) (e + 1) fuel else .finite neg m e

/-- `n` zeros. -/
def zeros (n : Nat) : String := String.ofList (List.replicate n '0')

/-- The text of a decimal as a double's shortest text is written: the significant digits
positionally when the point falls between `1e-4` and `1e16`, with at least one digit after the
point, and otherwise as `d.ddde±XX`. -/
def render : Decimal → String
  | .nan => "nan"
  | .infinity neg => if neg then "-inf" else "inf"
  | .finite neg m e =>
    let sign := if neg then "-" else ""
    if m == 0 then sign ++ "0.0"
    else
      match normalize neg m e (toString m).length with
      | .finite _ m' e' =>
        let ds := toString m'
        let n : Int := ds.length
        -- the point stands after `point` digits
        let point : Int := n + e'
        if -4 < point && point ≤ 16 then
          if point ≤ 0 then sign ++ "0." ++ zeros (-point).toNat ++ ds
          else if point ≥ n then sign ++ ds ++ zeros (point - n).toNat ++ ".0"
          else
            sign ++ String.ofList (ds.toList.take point.toNat) ++ "." ++
              String.ofList (ds.toList.drop point.toNat)
        else
          let x := point - 1
          let mantissa := if ds.length == 1 then ds
            else String.ofList (ds.toList.take 1) ++ "." ++ String.ofList (ds.toList.drop 1)
          let expDigits := toString x.natAbs
          let expText := if expDigits.length < 2 then "0" ++ expDigits else expDigits
          sign ++ mantissa ++ "e" ++ (if x < 0 then "-" else "+") ++ expText
      | _ => ""

end Decimal

end Sockets
