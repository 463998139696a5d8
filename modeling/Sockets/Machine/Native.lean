import Sockets.Machine.Addressing
import Sockets.Kernel.Syscall
import Sockets.Kernel.Files

/-!
# Native socket calls

The native calls as a caller makes them with values: each reads its arguments the way the
system's socket interface does, then makes the system call. Argument errors come first, then
the kernel's errors, each as the OS failure of its number.

* Addresses are read for the socket's family (`Addressing.ofValue`), even on a closed socket.
* A listen backlog is a machine integer; a negative one counts as 0.
* An option value is a machine integer or a buffer of bytes; anything else is refused as not
  being a buffer.
* A descriptor number handed in must be non-negative and name an open socket.
-/

namespace Sockets

namespace Native

/-- The endpoint behind a native socket, open or closed. -/
def anyEndpoint (h : Handle) : Native Endpoint := kernel (Call.anyEndpoint h.id)

/-- The family of a native socket. -/
def familyOf (h : Handle) (w : World) : Family :=
  ((w.kernel.get? h.id).map (·.family)).getD .unix

/-- Make a native socket. -/
def create (family type proto : Int) : Native Handle := do
  pure ⟨← kernel (Syscall.socket family type proto)⟩

/-- Make two connected Unix-domain sockets of a type. -/
def socketPair (type : SocketType) : Native (Handle × Handle) := do
  let (a, b) ← kernel (Syscall.socketPair type)
  pure (⟨a⟩, ⟨b⟩)

/-- Take over the socket of a descriptor number. -/
def adopt (fd : Int) : Native Handle := do
  if fd < 0 then throw (.valueError "negative file descriptor")
  pure ⟨← kernel (Syscall.byDescriptor fd.toNat)⟩

/-- Close a native socket. -/
def close (h : Handle) : Native Unit := kernel (Syscall.close h.id)

/-- Shut a native socket down. -/
def shutdown (h : Handle) (how : Nat) : Native Unit := kernel (Syscall.shutdown h.id how)

/-- Make a native socket block or not. -/
def setBlocking (h : Handle) (b : Bool) : Native Unit := kernel (Syscall.setBlocking h.id b)

/-- The refusal of an option value that is not a buffer. -/
def notABuffer (v : Value) : Failure :=
  .typeError ("a bytes-like object is required, not '" ++ v.typeName ++ "'")

/-- An option value as the system receives it. -/
def optionValue (v : Value) : Except Failure OptionValue :=
  match v with
  | .float _ => .error (notABuffer v)
  | _ =>
    match v.asInt? with
    | some n => if n > Addressing.intMax || n < -Addressing.intMax - 1 then .error (notABuffer v)
        else .ok (.flag n)
    | none =>
      match v.asBytes? with
      | some b => .ok (.buffer b)
      | none => .error (notABuffer v)

/-- Set an option. -/
def setOption (h : Handle) (opt : SockOpt) (v : Value) : Native Unit := do
  let ov ← check (optionValue v)
  kernel (Syscall.setOption h.id opt ov)

/-- The kernel address a value gives for a native socket, read for a call. -/
def sockAddr (caller : String) (h : Handle) (v : Value) : Native SockAddr := do
  check (Addressing.ofValue caller (familyOf h (← get)) v)

/-- Bind to an address. -/
def bind (h : Handle) (v : Value) : Native Unit := do
  let a ← sockAddr "bind" h v
  kernel (Syscall.bind h.id a)

/-- Listen with a backlog. -/
def listen (h : Handle) (backlog : Value) : Native Unit := do
  let n ← check (Addressing.cInt backlog)
  kernel (Syscall.listen h.id (if n < 0 then 0 else n.toNat))

/-- Accept a connection: the new native socket and the peer's address. -/
def accept (h : Handle) : Native (Handle × Value) := do
  let (child, peer) ← kernel (Syscall.accept h.id)
  pure (⟨child⟩, Addressing.nameValue (familyOf h (← get)) peer)

/-- Connect to an address. -/
def connect (h : Handle) (v : Value) : Native Unit := do
  let a ← sockAddr "connect" h v
  kernel (Syscall.connect h.id a)

/-- The bound address. -/
def sockName (h : Handle) : Native Value := do
  let name ← kernel (Syscall.sockName h.id)
  pure (Addressing.nameValue (familyOf h (← get)) name)

/-- Read and clear the pending error number. -/
def pendingError (h : Handle) : Native Nat := kernel (Syscall.pendingError h.id)

/-- Receive at most `size` bytes; `dontWait` asks not to wait. -/
def recv (h : Handle) (size : Nat) (dontWait : Bool) : Native (List UInt8) := do
  pure (← kernel (Syscall.recvFrom h.id size dontWait)).1

/-- Receive one datagram cut to `size` bytes, with the sender's address (none if it has no
name). -/
def recvFrom (h : Handle) (size : Nat) : Native (List UInt8 × Value) := do
  let (data, sender) ← kernel (Syscall.recvFrom h.id size false)
  pure (data, (sender.map Addressing.toValue).getD .none)

/-- Send bytes. -/
def send (h : Handle) (data : List UInt8) : Native Nat := kernel (Syscall.send h.id data)

/-- Send bytes to an address. -/
def sendTo (h : Handle) (data : List UInt8) (v : Value) : Native Nat := do
  let a ← sockAddr "sendto" h v
  kernel (Syscall.sendTo h.id data a)

/-- The descriptors of each list that are ready for reading, and for writing; the machine does
not wait, so the limit is of no account. -/
def select (readers writers : List Int) (_limit : Option Nat) : Native (List Int × List Int) := do
  if let some fd := (readers ++ writers).find? (· < 0) then
    throw (.valueError ("file descriptor cannot be a negative integer (" ++ toString fd ++ ")"))
  let (rs, ws) ← kernel (Syscall.select (readers.map Int.toNat) (writers.map Int.toNat))
  pure (rs.map Int.ofNat, ws.map Int.ofNat)

/-- Whether a native socket is readable now. -/
def readable (h : Handle) : Native Bool := do
  let fd := fileno h (← get)
  if fd < 0 then return false
  let (rs, _) ← select [fd] [] (some 0)
  pure !rs.isEmpty

/-- The bytes of a path argument of a file call named `fn`. -/
def pathArgument (fn : String) (v : Value) : Except Failure (List UInt8) := do
  match v with
    | .str t =>
      let bytes ← fsBytes t
      if bytes.contains 0 then throw (.valueError "embedded null byte")
      pure bytes
    | .bytes b =>
      if b.contains 0 then throw (.valueError (fn ++ ": embedded null character in path"))
      pure b
    | other => throw (.typeError (fn ++ ": path should be string, bytes or os.PathLike, not " ++
        other.typeName))

/-- Lift a file-system change on the path `v` that may fail with an error number; the failure
names the path. -/
def files (v : Value) (f : Kernel → Except Nat Kernel) : Native Unit := do
  let w ← get
  match f w.kernel with
  | .ok k => set { w with kernel := k }
  | .error n => throw (.osPath n (Errno.text n) v.quote)

/-- Remove the file-system node at a path. -/
def unlink (v : Value) : Native Unit := do
  let path ← check (pathArgument "unlink" v)
  files v fun k => k.unlink path

/-- Make a directory. -/
def makeDirectory (v : Value) : Native Unit := do
  let path ← check (pathArgument "mkdir" v)
  files v fun k => k.makeDirectory path

/-- Whether a path names a node. -/
def pathExists (v : Value) (w : World) : Bool :=
  match pathArgument "stat" v with
  | .ok path => w.kernel.pathExists path
  | .error _ => false

/-- Whether a native socket allows broadcast datagrams. -/
def broadcasts (h : Handle) : Native Bool := do
  pure (← endpoint h).broadcast

/-- Resolve a host and port. -/
def resolve (host port : Value) (hints : Hints) : Native (List Resolved) :=
  check (Resolver.resolve host port hints)

end Native

end Sockets
