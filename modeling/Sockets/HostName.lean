import Sockets.Value
import Sockets.Failure
import Sockets.Unicode.Nameprep
import Sockets.Unicode.Normalize
import Sockets.Codec.Punycode

/-!
# Host names on their way to the resolver

Before a host name is looked up, its text becomes bytes in the ASCII-compatible form of
internationalized domain names.

* A name of ASCII characters only is kept as it is. Every label but the last must hold 1 to 63
  characters, else the name is refused with "label empty or too long"; the last label may be
  empty (a trailing dot) but must be shorter than 64 characters ("label too long").
* Otherwise the name is cut into labels at any of the four full stops (`.`, `。`, `．`, `｡`), a
  trailing empty label is dropped, and each label that is not all ASCII is prepared
  (`nameprep`): characters that map to nothing are dropped, characters with a case are mapped,
  the result is normalized to its compatibility composed form, a character that may not stand
  in a name is refused (`Invalid character '…'`), and a label with right-to-left characters must
  hold no left-to-right ones and must start and end with a right-to-left character. A label
  that is then ASCII is kept; any other becomes `xn--` followed by its Punycode (RFC 3492). Each
  label must end with 1 to 63 characters.

A refusal reads `encoding with 'idna' codec failed (UnicodeError: <why>)`.
-/

namespace Sockets

namespace HostName

/-- The refusal of a name, with the reason. -/
def refuse (why : String) : Failure :=
  .unicode ("encoding with 'idna' codec failed (UnicodeError: " ++ why ++ ")")

/-- Whether a glyph is an ASCII character. -/
def isAscii (g : Glyph) : Bool := g.code < 128

/-- The bytes of ASCII glyphs. -/
def asciiBytes (t : Text) : List UInt8 := t.map fun g => g.code.toUInt8

/-- The full stops that separate labels. -/
def isStop (g : Glyph) : Bool :=
  let n := g.code
  n == 0x2E || n == 0x3002 || n == 0xFF0E || n == 0xFF61

/-- The quoted form of one code point, as a refusal names it. -/
def quoteCode (n : Nat) : String := Value.quote (.str [Glyph.ofCode n])

/-- Name preparation of a label's code points, or why the label is refused. -/
def nameprep (label : List Nat) : Except String (List Nat) := do
  let mapped := label.flatMap fun n =>
    if Unicode.mapsToNothing.contains n then [] else (Unicode.caseMap.find? n).getD [n]
  let normal := Unicode.nfkc mapped
  if let some bad := normal.find? Unicode.prohibited.contains then
    throw ("Invalid character " ++ quoteCode bad)
  let rtl := normal.map Unicode.rightToLeft.contains
  if rtl.any id then
    if normal.any Unicode.leftToRight.contains then throw "Violation of BIDI requirement 2"
    if !(rtl.head? == some true && rtl.getLast? == some true) then
      throw "Violation of BIDI requirement 3"
  pure normal

/-- A label of 1 to 63 bytes, or why it is refused. -/
def sizedLabel (bs : List UInt8) : Except String (List UInt8) :=
  if 0 < bs.length && bs.length < 64 then .ok bs else .error "label empty or too long"

/-- The ASCII-compatible bytes of one label, or why the label is refused. -/
def labelAscii (label : Text) : Except String (List UInt8) := do
  if label.all isAscii then return (← sizedLabel (asciiBytes label))
  let cps ← nameprep (label.map Glyph.code)
  if cps.all (· < 128) then return (← sizedLabel (cps.map Nat.toUInt8))
  if cps.take 4 == [0x78, 0x6E, 0x2D, 0x2D] then throw "Label starts with ACE prefix"
  let ace := "xn--".toList ++ Punycode.encode cps
  sizedLabel (ace.map fun c => c.toNat.toUInt8)

/-- The ASCII-compatible bytes of one label, or the refusal. -/
def labelBytes (label : Text) : Except Failure (List UInt8) := (labelAscii label).mapError refuse

/-- Cut a text at the glyphs that satisfy `p`. -/
def splitAt (p : Glyph → Bool) : Text → List Text
  | [] => [[]]
  | g :: rest =>
    let parts := splitAt p rest
    if p g then [] :: parts
    else match parts with
      | first :: others => (g :: first) :: others
      | [] => [[g]]

/-- The bytes of a host name as the resolver receives them. -/
def encode (name : Text) : Except Failure (List UInt8) := do
  if name.isEmpty then return []
  if name.all isAscii then
    let labels := splitAt (fun g => g.code == 0x2E) name
    for label in labels.dropLast do
      if !(0 < label.length && label.length < 64) then throw (refuse "label empty or too long")
    if (labels.getLastD []).length ≥ 64 then throw (refuse "label too long")
    return asciiBytes name
  let labels := splitAt isStop name
  let (labels, trailing) : List Text × List UInt8 :=
    match labels.getLast? with
    | some [] => (labels.dropLast, [0x2E])
    | _ => (labels, [])
  let parts ← labels.mapM labelBytes
  return (List.intercalate [0x2E] parts) ++ trailing

/-! ## Reading names back -/

/-- The bytes `xn--` that mark a label written in Punycode. -/
def acePrefix : List UInt8 := [0x78, 0x6E, 0x2D, 0x2D]

/-- Whether `pattern` occurs in the bytes. -/
def occursIn (pattern : List UInt8) : List UInt8 → Bool
  | [] => pattern.isEmpty
  | b :: rest => pattern.isPrefixOf (b :: rest) || occursIn pattern rest

/-- The ASCII text of bytes, or the refusal naming the first byte beyond ASCII. -/
def asciiLabel (bs : List UInt8) : Except Failure Text :=
  (Punycode.asciiText bs).map fun cs => cs.map Glyph.ofCode

/-- Cut bytes at every full stop. -/
def splitBytes : List UInt8 → List (List UInt8)
  | [] => [[]]
  | b :: rest =>
    let parts := splitBytes rest
    if b == 0x2E then [] :: parts
    else match parts with
      | first :: others => (b :: first) :: others
      | [] => [[b]]

/-- The quoted form of bytes. -/
def quoteBytes (bs : List UInt8) : String := Value.quote (.bytes bs)

/-- The text of one label: a label without the `xn--` mark is ASCII; a marked one is decoded from
Punycode and must come back to the same bytes, in lower case, when written again. -/
def labelText (label : List UInt8) : Except Failure Text := do
  if label.length > 1024 then throw (.unicode "label way too long")
  if !acePrefix.isPrefixOf label then return (← asciiLabel label)
  let decoded ← (Punycode.decode (label.drop 4)).mapError fun f => match f with
    | .unicode m => .unicode ("decoding with 'punycode' codec failed (UnicodeError: " ++ m ++ ")")
    | f => f
  let text := decoded.map Glyph.ofCode
  let again ← (labelAscii text).mapError Failure.unicode
  let lower := label.map fun b => if 0x41 ≤ b && b ≤ 0x5A then b + 32 else b
  if lower != again then
    throw (.unicodeArgs ("('IDNA does not round-trip', " ++ quoteBytes label ++ ", " ++
      quoteBytes again ++ ")"))
  pure text

/-- The text of a host name in its ASCII-compatible form: a name without the `xn--` mark
anywhere that is all ASCII is itself; any other is read label by label, and a trailing full
stop is kept. -/
def decode (bs : List UInt8) : Except Failure Text := do
  if bs.isEmpty then return []
  if !(occursIn acePrefix bs) && bs.all (· < 128) then return bs.map fun b => Glyph.ofCode b.toNat
  let labels := splitBytes bs
  let (labels, trailing) : List (List UInt8) × Text :=
    match labels.getLast? with
    | some [] => (labels.dropLast, [Glyph.ofCode 0x2E])
    | _ => (labels, [])
  let texts ← labels.mapM labelText
  pure (List.intercalate [Glyph.ofCode 0x2E] texts ++ trailing)

end HostName

end Sockets
