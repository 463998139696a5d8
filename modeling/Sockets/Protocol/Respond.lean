import Sockets.Protocol.Static
import Sockets.Protocol.Json
import Sockets.Protocol.Session.Run

/-!
# Answering requests

`respond` answers one request document with one answer document: it dispatches on the request's
`op` field, and a request the library cannot read is answered with a malformed-request error.
`respondLine` does the same for one line of JSON text.
-/

namespace Sockets

namespace Protocol

/-- The answer to a request, or the problem in its place. -/
def answer (req : Doc) : Except Problem Doc :=
  let dec : Decoder := {}
  match (req.string? "op").getD "" with
  | "from_value" => Static.fromValue dec req
  | "error_codes" => .ok Static.errorCodes
  | "socket_error" => Static.socketError dec req
  | "buffer_too_small" => Static.bufferTooSmall dec req
  | "delegate_error" => Static.delegateError dec req
  | "delegate_defaults" => .ok Static.delegateDefaults
  | "address" => Static.address dec req
  | "new_socket_address" => Static.newSocketAddress dec req
  | "decode_raw_address" => Static.decodeRawAddress req
  | "from_syscall" => Static.fromSyscall dec req
  | "hostname_and_port" => Static.hostnameAndPort dec req
  | "create_address" => Static.createAddress dec req
  | "signature" => Static.signature dec req
  | "fdset" => Static.fdset dec req
  | "utils" => Static.utils dec req
  | "session" => .ok (Session.run req)
  | other => .error (.malformed ("unknown op " ++ Value.quoteText (Text.ofString other)))

/-- The answer document of a request. -/
def respond (req : Doc) : Doc :=
  match answer req with
  | .ok d => d
  | .error p => Wire.ofProblem p

/-- The answer line to a request line: the request is read as JSON text, and a line that is not
JSON text is answered with a malformed-request error. -/
def respondLine (line : String) : String :=
  match Doc.parse? line with
  | .ok req => (respond req).render
  | .error e => (Wire.ofProblem (.malformed e)).render

end Protocol

end Sockets
