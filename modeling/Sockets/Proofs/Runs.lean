import Mathlib.Logic.Relation
import Sockets.Proofs.Outcome
import Sockets.Socket.Client
import Sockets.Socket.Options

/-!
# Runs of a socket

A socket lives through a run of the library's operations. `Op` names each operation with its
arguments and `Op.perform` runs it on the socket. A stream read hands bytes to its caller:
`read_into` the first bytes of its buffer, as many as it says it read, and `read_data` the bytes
it returns; these are what `perform` returns, and nothing for any other operation. `read_string`
is `read_data` followed by a decoding that touches neither the socket nor the system
(`readString_eq_perform_bind`), so it performs as `read_data` does.

Two operations stand for what another socket does with this one: `acceptedBy` runs a
listener's accept hook with this socket as its target, and the socket that comes back takes this
one's place; `invokeOnAccept` runs this socket's own accept hook on another socket, which
changes only that other socket.

*Steps.*  `Step H s op t` says that `op`, from the socket `s` in some state of the system, ends
with the socket `t`, whether it returns or fails. The state of the system before a step is any
at all, so what other sockets and programs do between two steps is part of it. `Reaches H
allowed s t` is the reflexive-transitive closure of the steps that `allowed` lets through, and
`Reaches.invariant` the induction that makes a property kept by every allowed step a property of
every socket reached.

*Where runs start.*  Every socket the library hands out is `Fresh`: not listening, its delegate
not prepared, nothing stored. All of them are made by `wrap`, which cannot fail; a socket made
by `createConnected` is a fresh one after one step, `connectUsing`.
-/

namespace Sockets

/-- An operation of the library on one socket, with its arguments. -/
inductive Op where
  /-- Bind an internet socket to a port on every interface and, for a stream, listen. -/
  | listen (port backlog reuse dualStack : Value)
  /-- Bind a Unix-domain socket to a path and, for a stream, listen. -/
  | listenUnix (path backlog : Value)
  /-- Connect to a host and port. -/
  | connect (host port timeout : Value)
  /-- Connect a Unix-domain socket to a path. -/
  | connectUnix (path : Value)
  /-- Connect to what a signature describes. -/
  | connectUsing (g : Signature)
  /-- Hand a waiting connection out as a new socket. -/
  | acceptClient (invoke : Bool)
  /-- Become the waiting connection in place of listening. -/
  | acceptConnection
  /-- Run this socket's accept hook on another socket. -/
  | invokeOnAccept (target : Socket)
  /-- Be the target of a listener's accept hook. -/
  | acceptedBy (listener : Socket)
  /-- Send all of a value on the connection. -/
  | write (data : Value)
  /-- Send a datagram to an address. -/
  | writeTo (data address : Value)
  /-- Read into a buffer. -/
  | readInto (buffer : List UInt8) (nbytes : Value) (truncate : Bool)
  /-- Read everything available. -/
  | readData
  /-- Read everything available and decode it. -/
  | readString (encoding : Value)
  /-- Receive one datagram into a buffer. -/
  | readDatagramInto (buffer : List UInt8)
  /-- Receive one datagram. -/
  | readDatagram
  /-- Receive one datagram, binding the socket first if it is not bound. -/
  | listenForMessage (buffer : List UInt8) (port backlog : Value)
  /-- Make the socket block or not. -/
  | setBlocking (v : Value)
  /-- Set the receive timeout. -/
  | setReadTimeout (ms : Value)
  /-- Set the send timeout. -/
  | setWriteTimeout (ms : Value)
  /-- Allow or forbid broadcast datagrams. -/
  | udpBroadcast (enable : Value)
  /-- Change the size of the read buffer. -/
  | resizeReadBuffer (size : Value)
  /-- Install a delegate, or remove it. -/
  | setDelegate (d : Option String)
  /-- Ask whether the connection is readable and writable. -/
  | readiness (waitForever : Bool) (timeout : Value)
  /-- Close the socket. -/
  | close

namespace Op

variable {σ : Type}

/-- Run an operation on the socket; the bytes a stream read hands to its caller. -/
def perform (H : Host σ) : Op → SocketM σ (List UInt8)
  | .listen port backlog reuse dualStack => do
    Socket.listen H port backlog reuse dualStack
    pure []
  | .listenUnix path backlog => do
    Socket.listenUnix H path backlog
    pure []
  | .connect host port timeout => do
    Socket.connect H host port timeout
    pure []
  | .connectUnix path => do
    Socket.connectUnix H path
    pure []
  | .connectUsing g => do
    Socket.connectUsing H g
    pure []
  | .acceptClient invoke => do
    let _ ← Socket.acceptClient H invoke
    pure []
  | .acceptConnection => do
    Socket.acceptConnection H
    pure []
  | .invokeOnAccept target => do
    let _ ← Socket.invokeOnAccept H target
    pure []
  | .acceptedBy listener => do
    let (r, _) ← Socket.within listener (Socket.invokeOnAccept H (← Socket.current))
    let t ← Socket.rethrow r
    Socket.change fun _ => t
    pure []
  | .write data => do
    let _ ← Socket.write H data
    pure []
  | .writeTo data address => do
    let _ ← Socket.writeTo H data address
    pure []
  | .readInto buffer nbytes truncate => do
    let (n, view) ← Socket.readInto H buffer nbytes truncate
    pure (view.take n)
  | .readData => Socket.readData H
  | .readString _ => Socket.readData H
  | .readDatagramInto buffer => do
    let _ ← Socket.readDatagramInto H buffer
    pure []
  | .readDatagram => do
    let _ ← Socket.readDatagram H
    pure []
  | .listenForMessage buffer port backlog => do
    let _ ← Socket.listenForMessage H buffer port backlog
    pure []
  | .setBlocking v => do
    Socket.setBlocking H v
    pure []
  | .setReadTimeout ms => do
    Socket.setReadTimeout H ms
    pure []
  | .setWriteTimeout ms => do
    Socket.setWriteTimeout H ms
    pure []
  | .udpBroadcast enable => do
    Socket.udpBroadcast H enable
    pure []
  | .resizeReadBuffer size => do
    let _ ← Socket.resizeReadBuffer size
    pure []
  | .setDelegate d => do
    Socket.setDelegate d
    pure []
  | .readiness waitForever timeout => do
    let _ ← Socket.readiness H waitForever timeout
    pure []
  | .close => do
    Socket.close H
    pure []

/-- Reading a string is performing `read_string` and then decoding, which changes nothing. -/
theorem readString_eq_perform_bind (H : Host σ) (encoding : Value) :
    Socket.readString H encoding = (do
      let data ← (Op.readString encoding).perform H
      if data.isEmpty then return none
      some <$> Socket.rethrow (Codec.decodeNamed encoding data)) :=
  rfl

end Op

/-! ## Steps and reachable sockets -/

section Steps

variable {σ : Type} (H : Host σ)

/-- `op`, from the socket `s` in some state of the system, ends with the socket `t`. -/
def Step (s : Socket) (op : Op) (t : Socket) : Prop :=
  ∃ w, Ends (op.perform H) (s, w) (fun _ st => st.1 = t) (fun _ st => st.1 = t)

/-- The sockets reachable from a socket by steps that `allowed` lets through. -/
def Reaches (allowed : Socket → Op → Prop) : Socket → Socket → Prop :=
  Relation.ReflTransGen fun s t => ∃ op, allowed s op ∧ Step H s op t

variable {H}

/-- A property that every run of `op` from `s` ends in, returning or failing, holds of every
socket a step of `op` from `s` ends with. -/
theorem Step.invariant {P : Socket → Prop} {s t : Socket} {op : Op}
    (hkeep : ∀ w, Ends (op.perform H) (s, w) (fun _ st => P st.1) (fun _ st => P st.1))
    (hstep : Step H s op t) : P t := by
  obtain ⟨w, hw⟩ := hstep
  have hboth := ends_and (hkeep w) hw
  have hconst : Ends (op.perform H) (s, w) (fun _ _ => P t) (fun _ _ => P t) :=
    ends_mono hboth (fun _ _ h => h.2 ▸ h.1) (fun _ _ h => h.2 ▸ h.1)
  simpa using hconst

/-- A property that every allowed step keeps holds of every socket reached. -/
theorem Reaches.invariant {allowed : Socket → Op → Prop} {P : Socket → Prop} {s t : Socket}
    (hkeep : ∀ s op t, P s → allowed s op → Step H s op t → P t)
    (hreach : Reaches H allowed s t) (hs : P s) : P t := by
  induction hreach with
  | refl => exact hs
  | tail _ hlast ih =>
    obtain ⟨op, hallowed, hstep⟩ := hlast
    exact hkeep _ op _ ih hallowed hstep

end Steps

/-! ## Where runs start -/

/-- A socket as the library hands it out: not listening, its delegate not prepared, nothing
stored. -/
structure Fresh (s : Socket) : Prop where
  notListening : s.listening = false
  unprepared : s.delegateReady = false
  nothingStored : s.storage = []

@[simp] theorem fresh_iff (s : Socket) :
    Fresh s ↔ s.listening = false ∧ s.delegateReady = false ∧ s.storage = [] :=
  ⟨fun h => ⟨h.1, h.2, h.3⟩, fun h => ⟨h.1, h.2.1, h.2.2⟩⟩

namespace Socket

variable {σ : Type} (H : Host σ) {ε α : Type} {w : σ} {ok : Socket → σ → Prop}
  {err : Failure → σ → Prop}

/-- `wrap` cannot fail: it makes the socket around the native socket, with the delegate
installed and the read buffer its presence asks for. -/
theorem wrap_eq (h : Handle) (sig : Signature) (connected : Bool) (d : Option String) (w : σ) :
    wrap H h sig connected d w =
      .ok
        { native := some h, signature := sig, connected := connected, blocking := H.blocking h w,
          delegate := d,
          readBufferSize :=
            if d.isSome then Limits.secureReadBufferSize else Limits.defaultReadBufferSize } w := by
  cases d <;> rfl

theorem ends_wrap (h : Handle) (sig : Signature) (connected : Bool) (d : Option String) :
    Ends (wrap H h sig connected d) w ok err =
      ok
        { native := some h, signature := sig, connected := connected, blocking := H.blocking h w,
          delegate := d,
          readBufferSize :=
            if d.isSome then Limits.secureReadBufferSize else Limits.defaultReadBufferSize } w := by
  simp only [Ends, wrap_eq]

theorem ends_liftExcept (r : Except Failure α) {ok : α → σ → Prop} :
    Ends (create.liftExcept r) w ok err =
      ((∀ a, r = .ok a → ok a w) ∧ ∀ e, r = .error e → err e w) := by
  cases r <;> simp [create.liftExcept, ends_pure, ends_throw]

/-- A fresh unconnected socket. -/
theorem create_fresh (family type proto : Value) (d : Option String) :
    Ends (create H family type proto d) w (fun s _ => Fresh s ∧ s.connected = false)
      (fun _ _ => True) := by
  simp only [create, ↓ends_bind, ↓ends_liftExcept, ↓ends_tryCatch, ends_eq (H.create _ _ _),
    ↓ends_ite, ↓ends_throw, ↓ends_wrap]
  simp

/-- A connected socket around a native socket; it is fresh. -/
theorem fromNative_fresh (h : Handle) (address path : Value) (d : Option String) :
    Ends (fromNative H h address path d) w (fun s _ => Fresh s ∧ s.connected = true)
      (fun _ _ => True) := by
  simp only [fromNative, ↓ends_bind, ↓ends_get]
  split
  · simp [ends_wrap]
  · simp [ends_bind, ends_eq (H.close _), ends_throw]

/-- A socket made by `createConnected` is a fresh unconnected socket after a step of
`connectUsing` that returned. -/
theorem createConnected_after_step (g : Signature) (d : Option String) :
    Ends (createConnected H g d) w
      (fun t w' => ∃ s w₀, Fresh s ∧ s.connected = false ∧
        Ends ((Op.connectUsing g).perform H) (s, w₀) (fun _ st => st = (t, w')) (fun _ _ => False))
      (fun _ _ => True) := by
  unfold createConnected Ends
  simp only [bind, EStateM.bind]
  rcases hc : create H _ _ _ d w with ⟨s, w₁⟩ | ⟨f, w₁⟩
  · have hs := ok_of_ends (create_fresh H _ _ _ d) hc
    simp only []
    rcases h : connectUsing H g (s, w₁) with ⟨_, ⟨t, w'⟩⟩ | ⟨f, ⟨t, w'⟩⟩
    · exact ⟨s, w₁, hs.1, hs.2, by simp [Op.perform, bind, EStateM.bind, h, pure, EStateM.pure]⟩
    · -- a failed connection is closed and the failure reported
      rcases hcl : close H (t, w') with ⟨_, ⟨_, w''⟩⟩ | ⟨f', ⟨_, w''⟩⟩ <;> simp [hcl]
  · trivial
end Socket

/-! ## A system that grants every call

Runs that exercise the theorems need a system on which the steps go through. `grantingHost`
answers every call at once: its native sockets stay open, a lookup answers the internet loopback
address at the port asked for, and a receive returns the bytes it is given. A fresh internet
stream on it listens, connects and closes as `freshInet`, `listenedInet`, `connectedInet` and
`closedInet` say. -/

/-- A system that grants every call: native socket `n` has descriptor `n`, a made native
socket is native socket 2, an accepted one native socket 3 from 127.0.0.1:80, a lookup answers
127.0.0.1 at the port asked for, every receive returns `incoming`, and the delegate's calls
return at once. -/
def grantingHost (incoming : List UInt8) : Host Unit where
  fileno h _ := h.id
  family _ _ := Family.inet.value
  socketType _ _ := SocketType.stream.value
  blocking _ _ := true
  interruptions _ _ := 0
  create _ _ _ := pure ⟨2⟩
  adopt _ := pure ⟨2⟩
  close _ := pure ()
  shutdown _ _ := pure ()
  setBlocking _ _ := pure ()
  setOption _ _ _ := pure ()
  bind _ _ := pure ()
  listen _ _ := pure ()
  accept _ := pure (⟨3⟩, .tuple [.ofString "127.0.0.1", .int 80])
  connect _ _ := pure ()
  sockName _ := pure (.tuple [.ofString "127.0.0.1", .int 80])
  pendingError _ := pure 0
  recv _ _ _ := pure incoming
  recvFrom _ _ := pure (incoming, .tuple [.ofString "127.0.0.1", .int 80])
  send _ data := pure data.length
  sendTo _ data _ := pure data.length
  select readable writable _ := pure (readable, writable)
  unlink _ := pure ()
  resolve _ port hints := pure
    [{ family := Family.inet.value, socketType := hints.socketType, protocol := 0,
       host := [127, 0, 0, 1], port := (port.asInt?.getD 0).toNat }]
  delegates :=
    { setUp := fun _ _ => pure ()
      tearDown := fun _ => pure ()
      onAccept := fun _ _ => pure ()
      onConnect := fun _ _ => pure ()
      send := fun _ _ data => pure data.length
      recv := fun _ _ _ => pure incoming
      sendRetries := fun _ _ => 0
      recvRetries := fun _ _ => 0 }

/-- The signature of an internet stream socket of which nothing is known yet. -/
def inetStream : Signature := { family := .inet, type := .stream, protocol := .tcp }

/-- The internet loopback address at port 80. -/
def loopbackAt80 : Value := .addr (.inet (.ofString "127.0.0.1") (.int 80))

/-- An internet stream socket as the library makes it on native socket 1, with the delegate
`d`. -/
def freshInet (d : Option String) : Socket :=
  { native := some ⟨1⟩, signature := inetStream, delegate := d,
    readBufferSize :=
      if d.isSome then Limits.secureReadBufferSize else Limits.defaultReadBufferSize }

/-- `freshInet d` listening at port 80: bound, its delegate prepared, marked secure when it has
one. -/
def listenedInet (d : Option String) : Socket :=
  { freshInet d with
    delegateReady := d.isSome
    listening := true
    signature :=
      { inetStream with hostname := .ofString "127.0.0.1", port := .int 80,
                        address := loopbackAt80, isSecure := d.isSome, isBound := true } }

/-- The socket `listenedInet (some "tls")` leaves when it closes: no native socket, its delegate
no longer prepared, bound to the address it had. -/
def closedInet : Socket :=
  { freshInet (some "tls") with
    native := none
    signature := { inetStream with address := loopbackAt80, isBound := true } }

/-- The socket `listenedInet none` becomes when it connects to port 80 of `localhost`: the
native socket of the trial, connected, its endpoint the address the lookup answered. -/
def connectedInet : Socket :=
  { freshInet none with
    native := some ⟨2⟩
    connected := true
    signature :=
      { inetStream with hostname := .ofString "localhost", port := .int 80,
                        address := loopbackAt80 } }

end Sockets
