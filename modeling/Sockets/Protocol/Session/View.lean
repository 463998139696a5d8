import Sockets.Protocol.Session.Arguments

/-!
# What a session shows of a socket

`stateDoc` is the view of a socket after a step: whether it is open, its flags, its buffers, the
name of its delegate and its signature; the backlog and the delegate's name are written as they
were given. `tokenize` then writes each port of an answer as `Session.token` says: the ports
of states and signatures, the ports of addresses, and the fields a step names as ports, in the
order the answer lists its keys.
-/

namespace Sockets

namespace Session

open Wire

/-- The view of a socket. -/
def stateDoc (s : Session) (k : Socket) : Doc :=
  let open_ := Socket.descriptor H k s.world ≥ 0
  let g := k.signature
  .obj [
    ("open", .bool open_), ("fileno_valid", .bool open_),
    ("is_connected", .bool k.connected), ("is_listening", .bool k.listening),
    ("is_server", .bool k.listening), ("is_active", .bool (k.connected || k.listening)),
    ("is_blocking", .bool k.blocking), ("is_secure", .bool g.isSecure),
    ("is_bound", .bool g.isBound), ("remote_connection_closed", .bool k.remoteClosed),
    ("needs_accept_delegate_call", .bool k.awaitingAccept),
    ("read_buffer_size", .int k.readBufferSize), ("buffered_bytes", .int k.storage.length),
    ("max_backlog_size", plainValue k.backlog),
    ("remote_hostname", if g.hostname.truthy then ofValue g.hostname else .str Limits.noHostname),
    ("remote_port", ofValue g.port),
    ("listening_port", if k.listening then ofValue g.port else .int Limits.invalidPort),
    ("remote_path", ofValue g.path), ("native_socket", .bool k.native.isSome),
    ("delegate", match k.delegate with
      | some key => plainValue (s.delegateName key)
      | none => .null),
    ("signature", .obj (Static.signatureDoc g))]

/-- The keys whose number is a port. -/
def portKeys : List String := ["remote_port", "listening_port", "port"]

/-- A field list sorted by key. -/
def sorted (fields : List (String × Doc)) : List (String × Doc) :=
  fields.mergeSort fun a b => a.1 ≤ b.1

/-- A port document with its token. -/
def portToken (s : Session) : Doc → Doc × Session
  | .int n => s.token n
  | d => (d, s)

mutual
/-- A document with the fields of every object sorted by key. -/
def sortKeys : Doc → Doc
  | .obj fields => .obj (sorted (sortFieldKeys fields))
  | .arr items => .arr (sortItemKeys items)
  | d => d

/-- Fields whose documents have their keys sorted. -/
def sortFieldKeys : List (String × Doc) → List (String × Doc)
  | [] => []
  | (k, d) :: rest => (k, sortKeys d) :: sortFieldKeys rest

/-- Documents with their keys sorted. -/
def sortItemKeys : List Doc → List Doc
  | [] => []
  | d :: rest => sortKeys d :: sortItemKeys rest
end

mutual
/-- Write the ports of a document as tokens, in the order of its fields. -/
def tokenize (s : Session) : Doc → Doc × Session
  | .obj fields =>
    let (fs, s) := tokenizeFields s fields
    (.obj fs, s)
  | .arr items =>
    let (ds, s) := tokenizeItems s items
    (.arr ds, s)
  | d => (d, s)

/-- Write the ports of fields as tokens. -/
def tokenizeFields (s : Session) : List (String × Doc) → List (String × Doc) × Session
  | [] => ([], s)
  | (k, d) :: rest =>
    let (d', s) :=
      if portKeys.contains k then portToken s d
      else if k == "ipv4" || k == "ipv6" then
        match d with
        | .arr (h :: p :: more) =>
          let (h', s) := tokenize s h
          let (p', s) := portToken s p
          let (more', s) := tokenizeItems s more
          (.arr (h' :: p' :: more'), s)
        | other => tokenize s other
      else tokenize s d
    let (rest', s) := tokenizeFields s rest
    ((k, d') :: rest', s)

/-- Write the ports of documents as tokens. -/
def tokenizeItems (s : Session) : List Doc → List Doc × Session
  | [] => ([], s)
  | d :: rest =>
    let (d', s) := tokenize s d
    let (rest', s) := tokenizeItems s rest
    (d' :: rest', s)
end

/-- The document of an address, or null. -/
def addressDoc : Option (Address Value) → Doc
  | some a => ofValue (.addr a)
  | none => .null

end Session

end Sockets
