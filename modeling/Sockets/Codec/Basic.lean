/-!
# Text encodings

Received bytes become text through a named encoding. `Codec` lists the kinds of encoding there
are: the Unicode transformation formats, ASCII and Latin-1, the single-byte code pages (each
with its table), the escape formats, Punycode and the IDNA form of host names, the multibyte
encodings of East Asian scripts, and the encodings that turn bytes into bytes and so cannot
make text.
-/

namespace Sockets

/-- The order of the bytes of a code unit. -/
inductive ByteOrder where
  /-- Least significant byte first. -/
  | little
  /-- Most significant byte first. -/
  | big
  deriving DecidableEq, Inhabited, Repr

/-- A text encoding. -/
inductive Codec where
  /-- UTF-8. -/
  | utf8
  /-- UTF-8 after an optional byte order mark. -/
  | utf8Sig
  /-- UTF-16 in the given order, or in the order its byte order mark gives (little endian
  without one). -/
  | utf16 (order : Option ByteOrder)
  /-- UTF-32, its order given as for UTF-16. -/
  | utf32 (order : Option ByteOrder)
  /-- UTF-7. -/
  | utf7
  /-- Seven-bit ASCII. -/
  | ascii
  /-- Latin-1: each byte is the code point of its value. -/
  | latin1
  /-- A single-byte code page, by module name. -/
  | charmap (name : String)
  /-- The table-less single-byte encoding: each byte is the code point of its value. -/
  | plainCharmap
  /-- Backslash escapes over Latin-1. -/
  | unicodeEscape
  /-- Only `\u` and `\U` escapes over Latin-1. -/
  | rawUnicodeEscape
  /-- Punycode (RFC 3492). -/
  | punycode
  /-- Internationalized host names: labels in Punycode after `xn--`. -/
  | idna
  /-- The encoding that refuses every use. -/
  | undefined
  /-- A multibyte encoding of East Asian scripts, by module name. -/
  | multibyte (name : String)
  /-- An encoding of bytes to bytes, which cannot decode to text. -/
  | binary
  deriving DecidableEq, Inhabited, Repr

end Sockets
