import Sockets.Machine.Native

/-!
# Scripted delegates

A scripted delegate plays a secure-transport delegate by a script, and every call it receives
is recorded as `label.hook`, in order, where the label is the delegate's name as it prints.

* The hooks `initialize` (recorded with `(server)` or `(client)`), `teardown`, `on_accept` and
  `on_connect` are recorded, then fail if the script lists them among its failures.
* A send counts itself. It asks to retry when its count is listed for retrying (striking the
  count from the list), or else while retries are left (using one up), so the retries left and
  the counts listed bound the retries to come; it fails if the script says so; it takes nothing
  on a transport shut down by the script; otherwise it sends on the native socket and records
  the number of bytes.
* A receive counts itself. It asks to retry, in the same way, but only while the socket is
  readable; it fails if the script says so; otherwise it receives without waiting and records
  the number of bytes, or records that it would have to wait and fails so.
-/

namespace Sockets

namespace Script

/-- The script of a delegate. -/
def get (name : String) : Native Script := do
  pure (((← EStateM.get).scripts.lookup name).getD {})

/-- Change the script of a delegate. -/
def change (name : String) (f : Script → Script) : Native Unit :=
  modify fun w => { w with
    scripts := w.scripts.map fun (n, s) => if n == name then (n, f s) else (n, s) }

/-- Install a delegate's script, unless a delegate of that name is known already. -/
def install (name : String) (s : Script) : Native Unit :=
  modify fun w => if (w.scripts.lookup name).isSome then w
    else { w with scripts := w.scripts ++ [(name, s)] }

/-- Fail as the script says for a hook, if it lists the hook. -/
def failIfListed (name hook : String) : Native Unit := do
  if let some e := (← get name).fail.lookup hook then throw (.delegate e)

/-- Record a call of a delegate. -/
def note (name entry : String) : Native Unit := do
  Native.record ((← get name).label ++ "." ++ entry)

/-- Whether a count is listed. -/
def listed (counts : List Value) (n : Nat) : Bool := counts.any fun v => v.equals (.int n)

/-- A hook that is recorded and may fail. -/
def hook (name entry key : String) : Native Unit := do
  note name entry
  failIfListed name key

/-- The listed counts but `n`: a count that asked to retry is struck from the list. -/
def unlisted (counts : List Value) (n : Nat) : List Value :=
  counts.filter fun v => !v.equals (.int n)

/-- Whether the current call asks to retry, and the retries left after it: a call whose number
is `listed` retries without using one up; any other retries while `left` is positive, using one. -/
def retries (listed : Bool) (left : Nat) : Bool × Nat :=
  if listed then (true, left) else if left > 0 then (true, left - 1) else (false, left)

/-- The failure a native socket that is gone gives when used. -/
def noNative (call : String) : Failure :=
  .attributeError ("'NoneType' object has no attribute '" ++ call ++ "'")

/-- Send through a scripted delegate. -/
def send (name : String) (h : Option Handle) (data : List UInt8) : Native Nat := do
  change name fun s => { s with sends := s.sends + 1 }
  let s ← get name
  let (retry, left) := retries (listed s.retrySendOn s.sends) s.retrySend
  if retry then
    change name fun s =>
      { s with retrySend := left, retrySendOn := unlisted s.retrySendOn s.sends }
    note name "send:retry"
    throw (.delegate DelegateError.retry)
  failIfListed name "send"
  if s.shutdownSend then
    note name "send:0"
    return 0
  let some h := h | throw (noNative "send")
  let n ← Native.send h data
  note name ("send:" ++ toString n)
  pure n

/-- Receive through a scripted delegate, at most `size` bytes. -/
def recv (name : String) (h : Option Handle) (size : Nat) : Native (List UInt8) := do
  change name fun s => { s with recvs := s.recvs + 1 }
  let s ← get name
  let readable ← match h with
    | some h => Native.readable h
    | none => pure false
  let (retry, left) :=
    if readable then retries (listed s.retryRecvOn s.recvs) s.retryRecv else (false, s.retryRecv)
  if retry then
    change name fun s =>
      { s with retryRecv := left, retryRecvOn := unlisted s.retryRecvOn s.recvs }
    note name "recv:retry"
    throw (.delegate DelegateError.retry)
  failIfListed name "recv"
  let some h := h | throw (noNative "recv_into")
  match ← tryCatch (Except.ok <$> Native.recv h size true) (fun f => pure (.error f)) with
  | .ok data =>
    note name ("recv:" ++ toString data.length)
    pure data
  | .error f =>
    if f.isBlocking then note name "recv:wouldblock"
    throw f

/-- The hooks of the scripted delegates. -/
def delegates : Delegates World where
  setUp name asServer :=
    hook name ("initialize(" ++ (if asServer then "server" else "client") ++ ")") "initialize"
  tearDown name := hook name "teardown" "teardown"
  onAccept name _ := hook name "on_accept" "on_accept"
  onConnect name _ := hook name "on_connect" "on_connect"
  send := send
  recv := recv
  sendRetries name w :=
    let s := (w.scripts.lookup name).getD {}
    s.retrySend + s.retrySendOn.length
  recvRetries name w :=
    let s := (w.scripts.lookup name).getD {}
    s.retryRecv + s.retryRecvOn.length

end Script

end Sockets
