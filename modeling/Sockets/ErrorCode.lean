/-!
# Error codes

Every failure of a socket operation carries a code. The library's own codes form the dense
negative range from `-9999` (`unableToCreateSocket`) to `-9965` (`missingSignature`), in the order
of declaration below; codes outside that range come from a secure-transport delegate and are kept
as given, with no name.

`ErrorCode.ofInt?` finds the member of a code, and `ErrorCode.value_ofInt?` says that it finds
exactly the members' values.
-/

namespace Sockets

/-- The named failure codes of socket operations. -/
inductive ErrorCode where
  /-- The native socket could not be created. -/
  | unableToCreateSocket
  /-- The socket has no open descriptor. -/
  | badDescriptor
  /-- The socket is already connected or listening. -/
  | alreadyConnected
  /-- The operation needs a connected socket. -/
  | notConnected
  /-- The operation needs a listening socket. -/
  | notListening
  /-- Accepting a connection failed. -/
  | acceptFailed
  /-- Setting a socket option failed. -/
  | setsockoptFailed
  /-- Binding to a local address failed. -/
  | bindFailed
  /-- The host name is empty or unusable. -/
  | invalidHostname
  /-- The port is out of range. -/
  | invalidPort
  /-- Resolving a host name failed. -/
  | getaddrinfoFailed
  /-- Connecting failed. -/
  | connectFailed
  /-- The signature holds neither a path nor a host and port. -/
  | missingConnectionData
  /-- Waiting for readiness failed. -/
  | selectFailed
  /-- Listening failed. -/
  | listenFailed
  /-- The caller's buffer is empty. -/
  | invalidBuffer
  /-- The requested buffer size is too small. -/
  | invalidBufferSize
  /-- Receiving failed. -/
  | recvFailed
  /-- The caller's buffer cannot hold the bytes already read. -/
  | recvBufferTooSmall
  /-- Sending failed. -/
  | writeFailed
  /-- Reading the descriptor flags failed. -/
  | getFcntlFailed
  /-- Writing the descriptor flags failed. -/
  | setFcntlFailed
  /-- The operation is not implemented. -/
  | notImplemented
  /-- The operation is not supported yet. -/
  | notSupportedYet
  /-- The signature's parameters do not fit together. -/
  | badSignatureParameters
  /-- An internal failure. -/
  | internal
  /-- The operation does not fit the socket's family or type. -/
  | wrongProtocol
  /-- The socket is neither connected nor listening. -/
  | notActive
  /-- The peer closed or reset the connection. -/
  | connectionReset
  /-- Setting the receive timeout failed. -/
  | setRecvTimeoutFailed
  /-- Setting the send timeout failed. -/
  | setWriteTimeoutFailed
  /-- Connecting took longer than allowed. -/
  | connectTimeout
  /-- Reading a socket option failed. -/
  | getsockoptFailed
  /-- A delegate hook was called out of turn. -/
  | invalidDelegateCall
  /-- The socket has no signature. -/
  | missingSignature
  deriving DecidableEq, Inhabited, Repr

namespace ErrorCode

/-- Every code, in declaration order. -/
def all : List ErrorCode :=
  [.unableToCreateSocket, .badDescriptor, .alreadyConnected, .notConnected, .notListening,
  .acceptFailed, .setsockoptFailed, .bindFailed, .invalidHostname, .invalidPort,
  .getaddrinfoFailed, .connectFailed, .missingConnectionData, .selectFailed, .listenFailed,
  .invalidBuffer, .invalidBufferSize, .recvFailed, .recvBufferTooSmall, .writeFailed,
  .getFcntlFailed, .setFcntlFailed, .notImplemented, .notSupportedYet, .badSignatureParameters,
  .internal, .wrongProtocol, .notActive, .connectionReset, .setRecvTimeoutFailed,
  .setWriteTimeoutFailed, .connectTimeout, .getsockoptFailed, .invalidDelegateCall,
  .missingSignature]

/-- The position of a code in declaration order. -/
def index : ErrorCode → Nat
  | .unableToCreateSocket => 0
  | .badDescriptor => 1
  | .alreadyConnected => 2
  | .notConnected => 3
  | .notListening => 4
  | .acceptFailed => 5
  | .setsockoptFailed => 6
  | .bindFailed => 7
  | .invalidHostname => 8
  | .invalidPort => 9
  | .getaddrinfoFailed => 10
  | .connectFailed => 11
  | .missingConnectionData => 12
  | .selectFailed => 13
  | .listenFailed => 14
  | .invalidBuffer => 15
  | .invalidBufferSize => 16
  | .recvFailed => 17
  | .recvBufferTooSmall => 18
  | .writeFailed => 19
  | .getFcntlFailed => 20
  | .setFcntlFailed => 21
  | .notImplemented => 22
  | .notSupportedYet => 23
  | .badSignatureParameters => 24
  | .internal => 25
  | .wrongProtocol => 26
  | .notActive => 27
  | .connectionReset => 28
  | .setRecvTimeoutFailed => 29
  | .setWriteTimeoutFailed => 30
  | .connectTimeout => 31
  | .getsockoptFailed => 32
  | .invalidDelegateCall => 33
  | .missingSignature => 34

/-- The numeric value of a code: `-9999` plus its position. -/
def value (c : ErrorCode) : Int := -9999 + c.index

/-- The name of a code as it prints. -/
def name : ErrorCode → String
  | .unableToCreateSocket => "UNABLE_TO_CREATE_SOCKET"
  | .badDescriptor => "BAD_DESCRIPTOR"
  | .alreadyConnected => "ALREADY_CONNECTED"
  | .notConnected => "NOT_CONNECTED"
  | .notListening => "NOT_LISTENING"
  | .acceptFailed => "ACCEPT_FAILED"
  | .setsockoptFailed => "SETSOCKOPT_FAILED"
  | .bindFailed => "BIND_FAILED"
  | .invalidHostname => "INVALID_HOSTNAME"
  | .invalidPort => "INVALID_PORT"
  | .getaddrinfoFailed => "GETADDRINFO_FAILED"
  | .connectFailed => "CONNECT_FAILED"
  | .missingConnectionData => "MISSING_CONNECTION_DATA"
  | .selectFailed => "SELECT_FAILED"
  | .listenFailed => "LISTEN_FAILED"
  | .invalidBuffer => "INVALID_BUFFER"
  | .invalidBufferSize => "INVALID_BUFFER_SIZE"
  | .recvFailed => "RECV_FAILED"
  | .recvBufferTooSmall => "RECV_BUFFER_TOO_SMALL"
  | .writeFailed => "WRITE_FAILED"
  | .getFcntlFailed => "GET_FCNTL_FAILED"
  | .setFcntlFailed => "SET_FCNTL_FAILED"
  | .notImplemented => "NOT_IMPLEMENTED"
  | .notSupportedYet => "NOT_SUPPORTED_YET"
  | .badSignatureParameters => "BAD_SIGNATURE_PARAMETERS"
  | .internal => "INTERNAL"
  | .wrongProtocol => "WRONG_PROTOCOL"
  | .notActive => "NOT_ACTIVE"
  | .connectionReset => "CONNECTION_RESET"
  | .setRecvTimeoutFailed => "SET_RECV_TIMEOUT_FAILED"
  | .setWriteTimeoutFailed => "SET_WRITE_TIMEOUT_FAILED"
  | .connectTimeout => "CONNECT_TIMEOUT"
  | .getsockoptFailed => "GETSOCKOPT_FAILED"
  | .invalidDelegateCall => "INVALID_DELEGATE_CALL"
  | .missingSignature => "MISSING_SIGNATURE"

/-- The code with value `n`, if there is one. -/
def ofInt? (n : Int) : Option ErrorCode := all.find? (·.value == n)

/-- Every code is listed in `all`. -/
theorem mem_all (c : ErrorCode) : c ∈ all := by
  cases c <;> decide

/-- Codes with the same value are the same code. -/
theorem value_injective {a b : ErrorCode} (h : a.value = b.value) : a = b := by
  cases a <;> cases b <;> simp_all [value, index]

/-- Looking a code up by its own value finds it. -/
@[simp]
theorem ofInt?_value (c : ErrorCode) : ofInt? c.value = some c := by
  cases c <;> decide

/-- A value found by `ofInt?` is the value of the code found. -/
theorem value_ofInt? {n : Int} {c : ErrorCode} (h : ofInt? n = some c) : c.value = n := by
  unfold ofInt? at h
  have := List.find?_some h
  simpa using this

end ErrorCode

end Sockets
