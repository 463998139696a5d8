import Sockets.Codec.Names
import Sockets.Codec.Charmaps
import Sockets.Codec.Escape
import Sockets.Codec.Multibyte
import Sockets.HostName

/-!
# Decoding received bytes

`Codec.decodeNamed` turns bytes into text with the encoding a caller names.

*The name.* It must be text without a zero character. It is normalized by keeping ASCII letters
(in lower case), digits and dots and writing every other run of characters as one underscore,
none at either end (`" UTF--8 "` is `utf_8`). The normalized name, or the alias it is, must be
the module name of an encoding (`Codec.modules`); a name with a dot is never one. An unknown name
is refused with `unknown encoding: <name>`, and an encoding of bytes to bytes with
`'<name>' is not a text encoding; use codecs.decode() to handle arbitrary codecs`.

*The bytes.* Decoding is strict: the first stretch of bytes that does not decode is refused with
its offsets (`'utf-8' codec can't decode byte 0xff in position 0: invalid start byte`). A
single-byte code page refuses a byte its table leaves out as `'charmap' codec can't decode byte
0x81 in position 1: character maps to <undefined>`. A failure of an encoding with a single
reason, such as Punycode's, is reported as `decoding with '<name>' codec failed (UnicodeError:
<reason>)`, and a decoder that reaches a state it has no rule for (ISO-2022-JP-2 after a single
shift into a set of the wrong kind) as `decoding with '<name>' codec failed (RuntimeError:
internal codec error)`.
-/

namespace Sockets

namespace Codec

/-- Whether a character is kept by name normalization: an ASCII letter or digit, or a dot. -/
def isNameChar (c : Char) : Bool := (c.isAlphanum && c.toNat < 128) || c == '.'

/-- The normalized form of an encoding name. -/
def normalize (s : String) : String :=
  let step (acc : List Char × Bool) (c : Char) : List Char × Bool :=
    let (out, gap) := acc
    if isNameChar c then
      ((if gap && !out.isEmpty then c.toLower :: '_' :: out else c.toLower :: out), false)
    else (out, true)
  String.ofList (s.toList.foldl step ([], false)).1.reverse

/-- The module a normalized name stands for, as an alias. -/
def aliasOf? (name : String) : Option String := aliases.lookup name

/-- The encoding of a normalized name: the module its alias names, else the module of that name
itself. -/
def lookup (name : String) : Option Codec :=
  let candidates := match (aliasOf? name).orElse fun _ => aliasOf? (name.replace "." "_") with
    | some m => [m, name]
    | none => [name]
  candidates.findSome? fun m =>
    if m.isEmpty || m.contains '.' then none else modules.lookup m

/-- Seven-bit decoding. -/
def decodeAscii (bs : List UInt8) : Except Failure Text :=
  match bs.findIdx? (· ≥ 128) with
  | some i => .error (bad "ascii" i (i + 1) (bs.getD i 0) "ordinal not in range(128)")
  | none => .ok (bs.map fun b => Glyph.ofCode b.toNat)

/-- Decoding through a single-byte table. -/
def decodeTable (table : Array Nat) (bs : List UInt8) : Except Failure Text :=
  let rec go (pos : Nat) : List UInt8 → Except Failure Text
    | [] => .ok []
    | b :: rest =>
      let code := table.getD b.toNat undefinedCode
      if code == undefinedCode then
        .error (bad "charmap" pos (pos + 1) b "character maps to <undefined>")
      else (go (pos + 1) rest).map (Glyph.ofCode code :: ·)
  go 0 bs

/-- Strict UTF-8 decoding. -/
def decodeUtf8 (bs : List UInt8) : Except Failure Text :=
  match Utf8.decodeStrict bs with
  | .ok s => .ok (Text.ofString s)
  | .error e => .error (.decode (BadBytes.ofUtf8 "utf-8" e))

/-- Decode bytes with an encoding that makes text. -/
def decodeWith (c : Codec) (bs : List UInt8) : Except Failure Text :=
  match c with
  | .utf8 => decodeUtf8 bs
  | .utf8Sig => decodeUtf8 (if bs.take 3 == [0xEF, 0xBB, 0xBF] then bs.drop 3 else bs)
  | .utf16 o => decodeUtf16 o bs
  | .utf32 o => decodeUtf32 o bs
  | .utf7 => decodeUtf7 bs
  | .ascii => decodeAscii bs
  | .latin1 | .plainCharmap => .ok (bs.map fun b => Glyph.ofCode b.toNat)
  | .charmap name =>
    match charmapTable? name with
    | some table => decodeTable table bs
    | none => .error (.lookup ("unknown encoding: " ++ name))
  | .unicodeEscape => decodeEscapes bs
  | .rawUnicodeEscape => decodeRawEscapes bs
  | .punycode => (Punycode.decode bs).map fun cs => cs.map Glyph.ofCode
  | .idna => HostName.decode bs
  | .undefined => .error (.unicode "undefined encoding")
  | .multibyte name => decodeMultibyte name bs
  | .binary => .error (.lookup "not a text encoding")

/-- A failure of an encoding named `name` as the caller sees it: a failure with a single reason
says which encoding failed. -/
def reported (name : String) (f : Failure) : Failure :=
  match f with
  | .unicode m => .unicode ("decoding with '" ++ name ++ "' codec failed (UnicodeError: " ++ m ++ ")")
  | .runtime m => .runtime ("decoding with '" ++ name ++ "' codec failed (RuntimeError: " ++ m ++ ")")
  | f => f

/-- Decode bytes with the encoding a caller names. -/
def decodeNamed (encoding : Value) (bs : List UInt8) : Except Failure Text := do
  let name ← match encoding with
    | .str t => (t.utf8?.mapError Failure.surrogates).map fun _ => t.chars
    | v => throw (.typeError ("decode() argument 'encoding' must be str, not " ++ v.typeName))
  if name.contains (Char.ofNat 0) then throw (.valueError "embedded null character")
  match lookup (normalize name) with
  | none => throw (.lookup ("unknown encoding: " ++ name))
  | some .binary =>
    throw (.lookup ("'" ++ name ++
      "' is not a text encoding; use codecs.decode() to handle arbitrary codecs"))
  | some c => (decodeWith c bs).mapError (reported name)

end Codec

end Sockets
