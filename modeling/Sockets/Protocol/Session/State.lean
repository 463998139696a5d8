import Sockets.Protocol.Static
import Sockets.Socket.Options
import Sockets.Socket.Client
import Sockets.Machine.Host

/-!
# Sessions: the sockets and the machine

A session runs a list of steps on sockets of the library, over the machine of
`Machine.host`. It keeps the sockets by id, the ports saved by name, the scripted delegates by
name, which sockets have a read timeout (a read on them never waits forever), and the machine
itself.

Ids and names are values, as a request writes them, and two of them are the same key when they
are equal (so `1` and `1.0` are one key); a list or a dictionary cannot be a key. The id `None`
stands for no socket at all: a step on it fails as soon as it uses the socket.

Ports chosen by the system are not written as numbers: each port of 1024 or more that the
session's requests do not name literally is written as a token `port#N`, numbered in order of
first appearance (`Session.token`).
-/

namespace Sockets

/-- The state of a session. -/
structure Session where
  /-- The machine. -/
  world : World := {}
  /-- The sockets, by id. -/
  sockets : List (Value × Socket) := []
  /-- Ports saved by name. -/
  saved : List (Value × Value) := []
  /-- The names of the scripted delegates, in order of creation; the key of a delegate is its
  position. -/
  delegates : List Value := []
  /-- The sockets given a read timeout. -/
  quickReads : List Value := []
  /-- The ports the requests name literally. -/
  literals : List Int := []
  /-- The ports written as tokens, in order of first appearance. -/
  tokens : List Int := []
  deriving Inhabited

namespace Session

/-- The host the sessions run on. -/
abbrev H : Host World := Machine.host

/-- The entry of a key in a table of values. -/
def entry? {α : Type} (table : List (Value × α)) (key : Value) : Option α :=
  (table.find? fun (k, _) => k.equals key).map (·.2)

/-- Set the entry of a key in a table of values, keeping the place of an entry it replaces. -/
def setEntry {α : Type} (table : List (Value × α)) (key : Value) (a : α) : List (Value × α) :=
  if table.any (·.1.equals key) then table.map fun (k, b) => if k.equals key then (k, a) else (k, b)
  else table ++ [(key, a)]

/-- The refusal of a key that cannot be one. -/
def unhashable (key : Value) : Failure :=
  .typeError ("unhashable type: '" ++ (key.unhashablePart?.getD key.typeName) ++ "'")

/-- The refusal of an unknown socket id. -/
def unknown {α : Type} (id : Value) : Except Problem α :=
  .error (.malformed ("unknown socket id " ++ id.quote))

/-- The socket of an id, if it is known. -/
def socket? (s : Session) (id : Value) : Option Socket :=
  if id.hashable then entry? s.sockets id else none

/-- The socket of an id, which must be known; none for the id `None`, which names no socket
even when a socket was made under it. -/
def find (s : Session) (id : Value) : Except Problem (Option Socket) :=
  if id matches .none then .ok none
  else if !id.hashable then .error (.failure (unhashable id))
  else match s.socket? id with
    | some k => .ok (some k)
    | none => unknown id

/-- The failure of using the missing socket of the id `None`. -/
def noSocket (attr : String) : Failure :=
  .attributeError ("'NoneType' object has no attribute '" ++ attr ++ "'")

/-- The socket of an id, which must be known and not `None`; `attr` is what the step uses
first. -/
def socket (s : Session) (id : Value) (attr : String) : Except Problem Socket := do
  match ← s.find id with
  | some k => pure k
  | none => .error (.failure (noSocket attr))

/-- Let go of a socket that nothing holds any more. -/
def release (s : Session) (k : Socket) : Session :=
  match Socket.discard H (k, s.world) with
  | .ok _ (_, w) => { s with world := w }
  | .error _ (_, w) => { s with world := w }

/-- Close a native socket that nothing holds any more. -/
def closeHandle (s : Session) (h : Handle) : Session :=
  match Native.close h s.world with
  | .ok _ w => { s with world := w }
  | .error _ w => { s with world := w }

/-- Give a socket an id; a socket it replaces is let go. -/
def put (s : Session) (id : Value) (k : Socket) : Except Failure Session :=
  if !id.hashable then .error (unhashable id)
  else
    let placed := { s with sockets := setEntry s.sockets id k }
    match s.socket? id with
    | some old => .ok (placed.release old)
    | none => .ok placed

/-- Put a socket back under an id it is known by. -/
def keep (s : Session) (id : Value) (k : Socket) : Session :=
  { s with sockets := setEntry s.sockets id k }

/-- The port a reference names: a saved port, else the port of a socket. -/
def portOf (s : Session) (name : Value) : Option Value :=
  if !name.hashable then none
  else match entry? s.saved name with
    | some p => some p
    | none => (s.socket? name).map (·.signature.port)

/-- The decoder of this session's requests: arrays stay lists. -/
def decoder (s : Session) : Decoder := { portOf := s.portOf, lists := true }

/-- Give a new socket an id: the session afterwards, or the failure of an id that cannot be one,
with the socket let go. -/
def register (s : Session) (id : Value) (k : Socket) : Except Failure Session × Session :=
  match s.put id k with
  | .ok s => (.ok s, s)
  | .error f => (.error f, s.release k)

/-- Run an operation on a known socket: its result or failure, with the session as the
operation left it. -/
def runOn {α : Type} (s : Session) (id : Value) (k : Socket) (op : SocketM World α) :
    Except Failure α × Session :=
  match op (k, s.world) with
  | .ok a (k', w) => (.ok a, { (s.keep id k') with world := w })
  | .error f (k', w) => (.error f, { (s.keep id k') with world := w })

/-- Run a call on the machine: its result or failure, with the session as the call left it. -/
def runWorld {α : Type} (s : Session) (act : EStateM Failure World α) :
    Except Failure α × Session :=
  match act s.world with
  | .ok a w => (.ok a, { s with world := w })
  | .error f w => (.error f, { s with world := w })

/-- The token of a port: a port below 1024 or named by the requests is written as it is,
any other as `port#N`. -/
def token (s : Session) (port : Int) : Doc × Session :=
  if port < 1024 || s.literals.contains port then (.int port, s)
  else match s.tokens.idxOf? port with
    | some i => (.str ("port#" ++ toString (i + 1)), s)
    | none => (.str ("port#" ++ toString (s.tokens.length + 1)), { s with tokens := s.tokens ++ [port] })

/-- Whether a native socket is readable now. -/
def readable (s : Session) (k : Socket) : Bool :=
  match k.native with
  | some h =>
    match Native.readable h s.world with
    | .ok r _ => r
    | .error _ _ => false
  | none => false

/-- The name of the delegate a socket knows by a key. -/
def delegateName (s : Session) (key : String) : Value :=
  match key.toNat? with
  | some i => s.delegates.getD i .none
  | none => .none

end Session

end Sockets
