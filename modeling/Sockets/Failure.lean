import Sockets.ErrorCode
import Sockets.Errno
import Sockets.Text
import Sockets.Value

/-!
# Failures

`SocketError` is the failure of a socket operation: an error code, an optional reason (most often
the text of the OS error behind it) and, for a read into a buffer that is too small, the size that
would have been needed. Its text (`SocketError.message`) is
`Error code: <code>(0x<hex>), <reason>`, where the hexadecimal form of a negative code keeps its
sign (`-9981` is `0x-26FD`) and a missing reason reads `Reason: Unavailable`.

`DelegateError` is a failure reported by a secure-transport delegate; the retry request is the one
with code `-1`.

`Failure` gathers every failure the library can report, each with its kind's name and its text.
-/

namespace Sockets

/-- The uppercase hexadecimal digits of `n`. -/
def upperHex (n : Nat) : String :=
  String.ofList ((Nat.toDigits 16 n).map Char.toUpper)

/-- The hexadecimal form of an integer with its sign in front of the digits. -/
def signedHex (n : Int) : String :=
  if n < 0 then "-" ++ upperHex n.natAbs else upperHex n.natAbs

/-- The failure of a socket operation. -/
structure SocketError where
  /-- The error code: a member of `ErrorCode` or a code passed on from a delegate. -/
  code : Int
  /-- Why the operation failed, when known. -/
  reason : Option String := none
  /-- The buffer size a read would have needed; zero unless the buffer was too small. -/
  bufferSizeNeeded : Int := 0
  deriving Inhabited

namespace SocketError

/-- The failure with a named code. -/
def ofCode (c : ErrorCode) (reason : Option String := none) : SocketError :=
  { code := c.value, reason := reason }

/-- The failure of a read whose buffer cannot hold the `needed` bytes already read. -/
def bufferTooSmall (needed : Int) : SocketError :=
  { code := ErrorCode.recvBufferTooSmall.value, bufferSizeNeeded := needed }

/-- The name of the code, when it is one of the library's own. -/
def name? (e : SocketError) : Option String := (ErrorCode.ofInt? e.code).map ErrorCode.name

/-- The reason as it prints. -/
def reasonText (e : SocketError) : String := e.reason.getD "Reason: Unavailable"

/-- The text of the failure. -/
def message (e : SocketError) : String :=
  "Error code: " ++ toString e.code ++ "(0x" ++ signedHex e.code ++ "), " ++ e.reasonText

end SocketError

/-- A failure reported by a secure-transport delegate. -/
structure DelegateError where
  /-- A code of the delegate's own. -/
  code : Int
  /-- The delegate's explanation. -/
  reason : String
  /-- Whether this is the request to wait for the descriptor and call again. -/
  isRetry : Bool := false
  deriving Inhabited

namespace DelegateError

/-- The request to wait until the descriptor is ready and call the delegate again. -/
def retry : DelegateError := { code := -1, reason := "Retry operation", isRetry := true }

/-- The kind's name of a delegate failure. -/
def kindName (e : DelegateError) : String :=
  if e.isRetry then "DelegateRetryNeeded" else "DelegateError"

/-- A delegate failure seen as a socket failure: the same code and reason. -/
def toSocketError (e : DelegateError) : SocketError := { code := e.code, reason := some e.reason }

end DelegateError

/-- The text of an OS error with a number: `[Errno <n>] <text>`. -/
def osErrorText (errno : Int) (strerror : String) : String :=
  "[Errno " ++ toString errno ++ "] " ++ strerror

/-- Where and why bytes did not decode: the encoding's name, the stretch of bytes from `start`
up to `stop` (exclusive), the first byte of the stretch and the reason. -/
structure BadBytes where
  /-- The name of the encoding. -/
  codec : String
  /-- The offset of the first bad byte. -/
  start : Nat
  /-- The offset after the last bad byte. -/
  stop : Nat
  /-- The byte at `start`. -/
  byte : UInt8
  /-- Why the stretch does not decode. -/
  reason : String
  deriving Inhabited

/-- The bad stretch of a strict UTF-8 decoding. -/
def BadBytes.ofUtf8 (codec : String) (e : Utf8.DecodeError) : BadBytes :=
  { codec, start := e.start, stop := e.start + e.length, byte := e.byte, reason := e.fault.text }

/-- Every failure the library can report. -/
inductive Failure where
  /-- A socket operation failed. -/
  | socket (e : SocketError)
  /-- A system call failed with error number `errno` and the text `strerror`. -/
  | os (errno : Int) (strerror : String)
  /-- A file call failed on `path` (written quoted) with error number `errno` and the text
  `strerror`. -/
  | osPath (errno : Int) (strerror : String) (path : String)
  /-- An OS-level failure that carries no error number, only a text. -/
  | osText (message : String)
  /-- An OS error raised with a caller's value as its number (a flag is a number too). -/
  | osValue (errno : Value) (strerror : String)
  /-- Name resolution failed with the resolver's code and text. -/
  | resolve (code : Int) (text : String)
  /-- An argument has the wrong type. -/
  | typeError (message : String)
  /-- An argument has a value out of its domain. -/
  | valueError (message : String)
  /-- A value does not fit its native layout. -/
  | structError (message : String)
  /-- A value lacks an attribute. -/
  | attributeError (message : String)
  /-- A number does not fit the machine integer it must become. -/
  | overflow (message : String)
  /-- An optional capability is missing. -/
  | notImplemented (message : String)
  /-- A component reached a state it has no rule for. -/
  | runtime (message : String)
  /-- Memory for a value could not be had. -/
  | memory
  /-- Bytes did not decode. -/
  | decode (e : BadBytes)
  /-- Text could not be encoded or a host name could not be prepared for lookup. -/
  | unicode (message : String)
  /-- A text encoding failure raised with several arguments; its text is their tuple. -/
  | unicodeArgs (message : String)
  /-- Text holds a character that its encoding cannot write. -/
  | encode (message : String)
  /-- An unknown text encoding was named. -/
  | lookup (message : String)
  /-- A delegate's failure reached the caller unchanged. -/
  | delegate (e : DelegateError)
  deriving Inhabited

namespace Failure

/-- The failure of a socket operation with a named code. -/
def code (c : ErrorCode) (reason : Option String := none) : Failure :=
  .socket (SocketError.ofCode c reason)

/-- The failure of a system call, its text from the error number. -/
def errno (n : Int) : Failure := .os n (Errno.text n)

/-- `n` as exactly `width` lowercase hexadecimal digits. -/
def hexDigits (width n : Nat) : String :=
  String.ofList ((List.range width).reverse.map fun i =>
    let d := n / Nat.pow 16 i % 16
    if d < 10 then Char.ofNat (48 + d) else Char.ofNat (87 + d))

/-- A code point as an encode error writes it: `\xNN`, `\uNNNN` or `\UNNNNNNNN`. -/
def codeEscape (n : Nat) : String :=
  if n < 0x100 then "\\x" ++ hexDigits 2 n
  else if n < 0x10000 then "\\u" ++ hexDigits 4 n
  else "\\U" ++ hexDigits 8 n

/-- The failure of an encoder `codec` on a run of code points, with its reason. -/
def encodeRun (codec : String) (e : Text.EncodeError) (why : String) : Failure :=
  if e.stop == e.start + 1 then
    .encode ("'" ++ codec ++ "' codec can't encode character '" ++ codeEscape e.code ++
      "' in position " ++ toString e.start ++ ": " ++ why)
  else
    .encode ("'" ++ codec ++ "' codec can't encode characters in position " ++ toString e.start ++
      "-" ++ toString (e.stop - 1) ++ ": " ++ why)

/-- The failure of UTF-8 encoding on surrogates. -/
def surrogates (e : Text.EncodeError) : Failure := encodeRun "utf-8" e "surrogates not allowed"

/-- The text of a decode failure: one byte is named by its value, a longer stretch by its
first and last offsets. -/
def decodeText (e : BadBytes) : String :=
  let pos := if e.stop ≤ e.start + 1 then "byte 0x" ++ hexDigits 2 e.byte.toNat ++ " in position " ++ toString e.start
    else "bytes in position " ++ toString e.start ++ "-" ++ toString (e.stop - 1)
  "'" ++ e.codec ++ "' codec can't decode " ++ pos ++ ": " ++ e.reason

/-- The name of the failure's kind. -/
def kindName : Failure → String
  | .socket _ => "SocketError"
  | .os n _ => Errno.kind n
  | .osPath n _ _ => Errno.kind n
  | .osText _ => "OSError"
  | .osValue v _ => (v.asInt?.map Errno.kind).getD "OSError"
  | .resolve _ _ => "socket.gaierror"
  | .typeError _ => "TypeError"
  | .valueError _ => "ValueError"
  | .structError _ => "struct.error"
  | .attributeError _ => "AttributeError"
  | .overflow _ => "OverflowError"
  | .notImplemented _ => "NotImplementedError"
  | .runtime _ => "RuntimeError"
  | .memory => "MemoryError"
  | .decode _ => "UnicodeDecodeError"
  | .unicode _ => "UnicodeError"
  | .unicodeArgs _ => "UnicodeError"
  | .encode _ => "UnicodeEncodeError"
  | .lookup _ => "LookupError"
  | .delegate e => e.kindName

/-- The text of the failure. -/
def message : Failure → String
  | .socket e => e.message
  | .os n s => osErrorText n s
  | .osPath n s p => osErrorText n s ++ ": " ++ p
  | .osText m => m
  | .osValue v s => "[Errno " ++ v.quote ++ "] " ++ s
  | .resolve n s => osErrorText n s
  | .typeError m => m
  | .valueError m => m
  | .structError m => m
  | .attributeError m => m
  | .overflow m => m
  | .notImplemented m => m
  | .runtime m => m
  | .memory => ""
  | .decode e => decodeText e
  | .unicode m => m
  | .unicodeArgs m => m
  | .encode m => m
  | .lookup m => m
  | .delegate e => e.reason

/-- Whether the failure is an OS error (a system call's, a resolver's, or one with a text only). -/
def isOsError : Failure → Bool
  | .os _ _ | .osPath _ _ _ | .osText _ | .osValue _ _ | .resolve _ _ => true
  | _ => false

/-- Whether the failure is a text encoding or decoding error. -/
def isUnicodeError : Failure → Bool
  | .unicode _ | .unicodeArgs _ | .encode _ | .decode _ => true
  | _ => false

/-- Whether the failure is a value error: a plain one, or a text encoding or decoding error,
which is a value error too. -/
def isValueError : Failure → Bool
  | .valueError _ => true
  | f => f.isUnicodeError

/-- Whether the failure is an overflow. -/
def isOverflow : Failure → Bool
  | .overflow _ => true
  | _ => false

/-- The error number of an OS error, if it has one. -/
def errno? : Failure → Option Int
  | .os n _ => some n
  | .osPath n _ _ => some n
  | .resolve n _ => some n
  | _ => none

/-- The reason a socket failure gives for this failure: an OS error's text (its number's text
when the text is empty), else the failure's message, else its kind. -/
def reason (f : Failure) : String :=
  match f with
  | .os n s => if !s.isEmpty then s else if n != 0 then Errno.text n else f.message
  | .osPath _ s _ => s
  | .resolve n s => if !s.isEmpty then s else if n != 0 then Errno.text n else f.message
  | _ => if f.message.isEmpty then f.kindName else f.message

/-- Whether the failure is an OS error of the exception kind `kind`. -/
def ofKind (kind : String) (f : Failure) : Bool :=
  match f with
  | .os n _ | .osPath n _ _ => Errno.kind n == kind
  | _ => false

/-- Whether the failure is a call that would have to wait: an OS error of kind
`BlockingIOError`. -/
def isBlocking (f : Failure) : Bool := f.ofKind "BlockingIOError"

/-- Whether the failure is a call that a signal interrupted: an OS error of kind
`InterruptedError`. -/
def isInterrupted (f : Failure) : Bool := f.ofKind "InterruptedError"

end Failure

end Sockets
