import Sockets.Resolver
import Sockets.Kernel.Endpoint

/-!
# The system a socket runs on

A socket of this library drives a native socket of the system and, optionally, a secure-transport
delegate. `Host σ` gathers every call the library makes, over a system state `σ`: the native
socket calls, readiness selection, file removal, name resolution and the delegate hooks. Each
call may change the state and may fail; a change made before a failure stays.

Everything the library does is stated over an arbitrary `Host`, so a property of the library is a
property for every behaviour of the system and of the delegates; `Sockets.Machine` gives the one
host that the sessions run on.

Native arguments and results are values as the native interface takes and gives them: an address
is a tuple or a path, a backlog or option value is whatever the caller passed.
-/

namespace Sockets

/-- A native socket as the library holds it. -/
structure Handle where
  /-- The number that tells native sockets apart. -/
  id : Nat
  deriving DecidableEq, Inhabited, Repr

/-- The hooks of secure-transport delegates, by the delegate's name. A hook that is handed a
socket receives its native socket, if the socket still has one. A delegate asks to retry a send
or a receive only so many times in a row: `sendRetries` and `recvRetries` say how many more it
may ask for, and the library tries that many times and one more before it gives up. -/
structure Delegates (σ : Type) where
  /-- Prepare for a connection, as server (`true`) or client. -/
  setUp : String → Bool → EStateM Failure σ Unit
  /-- Undo the preparation. -/
  tearDown : String → EStateM Failure σ Unit
  /-- Secure an accepted connection. -/
  onAccept : String → Option Handle → EStateM Failure σ Unit
  /-- Secure a connection made by the client. -/
  onConnect : String → Option Handle → EStateM Failure σ Unit
  /-- Send bytes; the number of bytes taken. -/
  send : String → Option Handle → List UInt8 → EStateM Failure σ Nat
  /-- Receive at most the given number of bytes. -/
  recv : String → Option Handle → Nat → EStateM Failure σ (List UInt8)
  /-- How many sends in a row the delegate may still ask to retry. -/
  sendRetries : String → σ → Nat
  /-- How many receives in a row the delegate may still ask to retry. -/
  recvRetries : String → σ → Nat

/-- The system a socket runs on. -/
structure Host (σ : Type) where
  /-- The descriptor of a native socket, or -1 once it is closed. -/
  fileno : Handle → σ → Int
  /-- The family number of a native socket. -/
  family : Handle → σ → Int
  /-- The type number of a native socket. -/
  socketType : Handle → σ → Int
  /-- Whether a native socket blocks. -/
  blocking : Handle → σ → Bool
  /-- How many accepts in a row on a native socket the system may still interrupt. -/
  interruptions : Handle → σ → Nat
  /-- Make a native socket of a family, type and protocol. -/
  create : Int → Int → Int → EStateM Failure σ Handle
  /-- Take over the native socket of a descriptor. -/
  adopt : Int → EStateM Failure σ Handle
  /-- Close a native socket. -/
  close : Handle → EStateM Failure σ Unit
  /-- Shut down reading (0), writing (1) or both (2). -/
  shutdown : Handle → Nat → EStateM Failure σ Unit
  /-- Make a native socket block or not. -/
  setBlocking : Handle → Bool → EStateM Failure σ Unit
  /-- Set an option to a value. -/
  setOption : Handle → SockOpt → Value → EStateM Failure σ Unit
  /-- Bind to an address. -/
  bind : Handle → Value → EStateM Failure σ Unit
  /-- Listen with a backlog. -/
  listen : Handle → Value → EStateM Failure σ Unit
  /-- Accept a connection: the new native socket and the peer's raw address. A signal may
  interrupt the call. -/
  accept : Handle → EStateM Failure σ (Handle × Value)
  /-- Connect to an address. -/
  connect : Handle → Value → EStateM Failure σ Unit
  /-- The bound address. -/
  sockName : Handle → EStateM Failure σ Value
  /-- Read and clear the pending error number. -/
  pendingError : Handle → EStateM Failure σ Nat
  /-- Receive at most the given number of bytes; `true` asks not to wait. -/
  recv : Handle → Nat → Bool → EStateM Failure σ (List UInt8)
  /-- Receive one datagram, cut to the given size, with the sender's raw address. -/
  recvFrom : Handle → Nat → EStateM Failure σ (List UInt8 × Value)
  /-- Send bytes; the number of bytes taken. -/
  send : Handle → List UInt8 → EStateM Failure σ Nat
  /-- Send one datagram to an address. -/
  sendTo : Handle → List UInt8 → Value → EStateM Failure σ Nat
  /-- The descriptors of each list that are ready for reading, and for writing; `none` waits
  without limit, `some ms` at most that many milliseconds. -/
  select : List Int → List Int → Option Nat → EStateM Failure σ (List Int × List Int)
  /-- Remove a file-system node. -/
  unlink : Value → EStateM Failure σ Unit
  /-- Resolve a host and port. -/
  resolve : Value → Value → Hints → EStateM Failure σ (List Resolved)
  /-- The delegate hooks. -/
  delegates : Delegates σ

end Sockets
