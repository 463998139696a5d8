import Sockets.Failure
import Sockets.Value.Order
import Sockets.Address

/-!
# Argument checks and fixed numbers

The checks that socket operations apply to their arguments, and the numbers they rely on.

* `validatePort` accepts integers only (flags count as integers); zero passes only when allowed,
  other ports must lie in `1..65535`. It answers rather than failing on range.
* `validateTimeout` accepts non-negative integers and returns the value unchanged.
* `validateBufferSize` accepts positive integers and returns the value unchanged.
* `packTimeout` writes a timeout in milliseconds as the native `timeval`: two little-endian
  64-bit signed words, whole seconds and the remaining microseconds.
-/

namespace Sockets

namespace Checks

/-- The refusal of a value that is not an integer. -/
def notInteger (what : String) (v : Value) : Failure :=
  .typeError ("Expected " ++ what ++ ", got " ++ v.quote)

/-- Whether a port is acceptable: for zero the answer is `allowZero` itself, for any other port
whether it lies in `1..65535`. -/
def validatePort (port : Value) (allowZero : Value) : Except Failure Value :=
  match port.asInt? with
  | none => .error (notInteger "an integer" port)
  | some n => .ok (if n == 0 then allowZero else .bool (0 < n && n ≤ 65535))

/-- Whether a port is acceptable, as a flag. -/
def portOk (port : Value) (allowZero : Bool) : Except Failure Bool :=
  (validatePort port (.bool allowZero)).map Value.truthy

/-- A timeout in milliseconds: a non-negative integer, returned as given. -/
def validateTimeout (timeout : Value) : Except Failure Value :=
  match timeout.asInt? with
  | none => .error (notInteger "an integer number of milliseconds" timeout)
  | some n => if n < 0 then .error (.valueError "Invalid timeout: negative value") else .ok timeout

/-- A buffer size: a positive integer, returned as given. -/
def validateBufferSize (size : Value) : Except Failure Value :=
  match size.asInt? with
  | none => .error (notInteger "an integer" size)
  | some n =>
    if n ≤ 0 then .error (.valueError "buffer size must be a positive integer") else .ok size

/-- The eight little-endian bytes of a signed 64-bit word. -/
def packLong (n : Int) : Except Failure (List UInt8) :=
  if n < -Int.pow 2 63 || n ≥ Int.pow 2 63 then .error (.structError "argument out of range")
  else
    let u : Nat := if n < 0 then (n + Int.pow 2 64).toNat else n.toNat
    .ok ((List.range 8).map fun i => (u / Nat.pow 256 i % 256).toUInt8)

/-- The native `timeval` of a timeout in milliseconds: a negative number is refused, and a
float cannot be packed. -/
def packTimeout (ms : Value) : Except Failure (List UInt8) := do
  if ← ms.lt (.int 0) then throw (.valueError "Invalid timeout: negative value")
  match ms.asInt? with
  | some n =>
    let secs ← packLong (n / 1000)
    let micros ← packLong (n % 1000 * 1000)
    pure (secs ++ micros)
  | none => throw (.structError "required argument is not an integer")

/-- The layout of the native `timeval`: its format letters and size in bytes. -/
def timevalFormat : String × Nat := ("@ll", 16)

end Checks

/-! ## Fixed numbers -/

namespace Limits

/-- The descriptor of a closed socket. -/
def invalidDescriptor : Int := -1

/-- The port of a socket that is neither bound nor connected. -/
def invalidPort : Int := -1

/-- The host name of a socket that is neither bound nor connected. -/
def noHostname : String := ""

/-- The size of the buffer handed to a receive call. -/
def defaultReadBufferSize : Nat := 4096

/-- The smallest read buffer. -/
def minimumReadBufferSize : Nat := 1024

/-- The read buffer size when a secure-transport delegate serves the socket. -/
def secureReadBufferSize : Nat := 32768

/-- The default length of the queue of pending connections. -/
def defaultBacklog : Nat := 50

/-- The number of descriptors a native descriptor set holds. -/
def fdSetSize : Nat := 1024

/-- The flags of every send call: no signal on a broken pipe. -/
def sendFlags : Nat := 16384

/-- Error numbers that mean the socket is closed. -/
def closedSocketErrnos : List Int := [Errno.ebadf, Errno.enotsock]

/-- Error numbers that mean the socket is not connected. -/
def notConnectedErrnos : List Int := [Errno.einval, Errno.enotconn]

/-- Error numbers that mean the peer reset or closed the connection. -/
def connectionResetErrnos : List Int := [Errno.epipe, Errno.econnreset]

/-- Error numbers of a kernel that knows the port-reuse option but does not implement it. -/
def reuseportUnsupportedErrnos : List Int := [Errno.einval, Errno.enoprotoopt, Errno.eopnotsupp]

end Limits

end Sockets
