import Sockets.Proofs.Frames
import Sockets.Machine.Host

/-!
# Closed sockets

`close` ends a socket whatever fails on the way (`closeWith_closed`): the socket is `Closed`, with
no native socket, neither connected nor listening, nothing stored, and a signature without host,
port, path or security.

*Refusing.*  A socket without a native socket refuses every operation that needs one
(`Op.NeedsNative`): the operation fails at once, and leaves the socket and the system as they
were (`Op.refuses_of_native_none`). The operations that need none keep a closed socket closed:
an empty write, installing a delegate, resizing the read buffer, closing again, and running the
socket's own accept hook on another socket.

*Secured from outside.*  The accept hook of a listener takes its target from outside, and checks
only that the target still waits for it, which closing does not undo. A socket accepted without
its hook and closed before the hook ran is such a target; when the listener has a delegate, the
hook marks it secure (`Op.SecuresFromOutside`). Nothing else of it changes, so a socket once
closed stays `Shut` along every run, and stays `Closed` along every run without that step
(`closed_after_close`).
-/

namespace Sockets

/-- What closing leaves of a socket, its security apart: no native socket, neither connected
nor listening, nothing stored, and a signature without host, port or path. -/
structure Shut (s : Socket) : Prop where
  noNative : s.native = none
  disconnected : s.connected = false
  notListening : s.listening = false
  nothingStored : s.storage = []
  noHostname : s.signature.hostname = .none
  noPort : s.signature.port = .int Limits.invalidPort
  noPath : s.signature.path = .none

/-- A closed socket: shut, and not secure. -/
structure Closed (s : Socket) : Prop extends Shut s where
  insecure : s.signature.isSecure = false

@[simp] theorem shut_iff (s : Socket) :
    Shut s ↔ s.native = none ∧ s.connected = false ∧ s.listening = false ∧ s.storage = [] ∧
      s.signature.hostname = .none ∧ s.signature.port = .int Limits.invalidPort ∧
      s.signature.path = .none :=
  ⟨fun ⟨a, b, c, d, e, f, g⟩ => ⟨a, b, c, d, e, f, g⟩,
    fun ⟨a, b, c, d, e, f, g⟩ => ⟨a, b, c, d, e, f, g⟩⟩

@[simp] theorem closed_iff (s : Socket) : Closed s ↔ Shut s ∧ s.signature.isSecure = false :=
  ⟨fun h => ⟨h.toShut, h.insecure⟩, fun h => ⟨h.1, h.2⟩⟩

/-- The operations that need the socket's native socket: all but writing (an empty write is
done without one), the two accept-hook operations, installing a delegate, resizing the read
buffer and closing. -/
def Op.NeedsNative : Op → Prop
  | .write _ | .invokeOnAccept _ | .acceptedBy _ | .resizeReadBuffer _ | .setDelegate _
  | .close => False
  | _ => True

/-- The step that secures a socket from outside: a listener with a delegate runs its accept
hook on the socket, which still waits for it. -/
def Op.SecuresFromOutside : Op → Socket → Prop
  | .acceptedBy listener, s => listener.delegate.isSome = true ∧ s.awaitingAccept = true
  | _, _ => False

namespace Socket

variable {σ α β : Type} (H : Host σ) {st : Socket × σ}

/-! ## Refusing -/

/-- `prog`, run from `st`, fails and leaves the socket and the system as they were. -/
def Refuses (prog : SocketM σ α) (st : Socket × σ) : Prop :=
  Ends prog st (fun _ _ => False) (fun _ st' => st' = st)

variable {H}

theorem Refuses.ends {prog : SocketM σ α} (h : Refuses prog st) (ok : α → Socket × σ → Prop) :
    Ends prog st ok (fun _ st' => st' = st) :=
  ends_mono h (fun _ _ h => h.elim) (fun _ _ h => h)

/-- A program that starts with a refused step is refused. -/
theorem Refuses.bind {x : SocketM σ α} {f : α → SocketM σ β} (h : Refuses x st) :
    Refuses (x >>= f) st := by
  unfold Refuses
  rw [ends_bind]
  exact h.ends _

/-- A refused program keeps every property of the socket. -/
theorem Refuses.keeps {prog : SocketM σ α} (h : Refuses prog st) (P : Socket → Prop)
    (hs : P st.1) : Ends prog st (fun _ st' => P st'.1) (fun _ st' => P st'.1) :=
  ends_mono h (fun _ _ h => h.elim) (fun _ _ h => h ▸ hs)

variable (H)

theorem checkDescriptor_refuses (hn : st.1.native = none) : Refuses (checkDescriptor H) st := by
  simp [Refuses, ends_checkDescriptor, hn]

theorem fill_refuses (hn : st.1.native = none) : Refuses (fill H) st :=
  (checkDescriptor_refuses H hn).bind

theorem readData_refuses (hn : st.1.native = none) : Refuses (readData H) st :=
  (fill_refuses H hn).bind

theorem readInto_refuses (buffer : List UInt8) (nbytes : Value) (truncate : Bool)
    (hn : st.1.native = none) : Refuses (readInto H buffer nbytes truncate) st := by
  -- the checks of the arguments change nothing, and then the storage is filled
  have hfill := (fill_refuses H hn).ends
  simp only [Refuses, readInto, ↓ends_bind, ↓ends_rethrow, ↓ends_ite, ↓ends_throw, ↓ends_pure,
    ↓ends_map]
  simp
  split <;> simp [hfill]

theorem recvDatagram_refuses (hn : st.1.native = none) : Refuses (recvDatagram H) st :=
  (checkDescriptor_refuses H hn).bind

theorem readDatagramInto_refuses (buffer : List UInt8) (hn : st.1.native = none) :
    Refuses (readDatagramInto H buffer) st := by
  simp only [Refuses, readDatagramInto, ↓ends_bind, ↓ends_ite, ↓ends_throw, ↓ends_pure]
  split
  · trivial
  · exact (recvDatagram_refuses H hn).ends _

theorem listenForMessage_refuses (buffer : List UInt8) (port backlog : Value)
    (hn : st.1.native = none) : Refuses (listenForMessage H buffer port backlog) st := by
  simp only [Refuses, listenForMessage, ↓ends_bind, ↓ends_ite, ↓ends_throw]
  split
  · trivial
  · exact (checkDescriptor_refuses H hn).ends _

theorem setTimeout_refuses (opt : SockOpt) (code : ErrorCode) (ms : Value)
    (hn : st.1.native = none) : Refuses (setTimeout H opt code ms) st := by
  simp only [Refuses, setTimeout, ↓ends_bind, ↓ends_rethrow]
  exact ⟨fun _ _ => (checkDescriptor_refuses H hn).ends _, fun _ _ => trivial⟩

theorem writeTo_refuses (data address : Value) (hn : st.1.native = none) :
    Refuses (writeTo H data address) st := by
  -- text is encoded, and then the descriptor is checked
  simp only [Refuses, writeTo, ↓ends_bind, ↓ends_rethrow]
  exact ⟨fun _ _ => (checkDescriptor_refuses H hn).ends _, fun _ _ => trivial⟩

/-! ## Closing -/

/-- Closing leaves the socket closed, whatever fails on the way. -/
theorem closeWith_closed (teardown : Bool) :
    Ends (closeWith H teardown) st (fun _ st' => Closed st'.1) (fun _ st' => Closed st'.1) := by
  -- what closing does depends on the delegate, the native socket and the node the socket owns
  cases hd : st.1.delegate <;> cases hn : st.1.native <;> cases ho : st.1.ownedPath <;>
    simp [closeWith, closeNative, removeOwnedPath, hd, hn, ho, ends_bind, ends_current,
      ends_change, ends_attempt, ends_ite, ends_pure, ends_throw, ends_callDelegate, ends_sys,
      ends_tryCatch]

end Socket

/-! ## What the operations that need no native socket change -/

@[simp] theorem shut_apartFromSettings (s : Socket) : Shut s.apartFromSettings ↔ Shut s := by
  simp [Socket.apartFromSettings]

@[simp] theorem closed_apartFromSettings (s : Socket) :
    Closed s.apartFromSettings ↔ Closed s := by
  simp [Socket.apartFromSettings]

theorem Shut.of_apartFromSettings {s s' : Socket}
    (h : s'.apartFromSettings = s.apartFromSettings) (hs : Shut s) : Shut s' := by
  rw [← shut_apartFromSettings, h, shut_apartFromSettings]
  exact hs

theorem Closed.of_apartFromSettings {s s' : Socket}
    (h : s'.apartFromSettings = s.apartFromSettings) (hs : Closed s) : Closed s' := by
  rw [← closed_apartFromSettings, h, closed_apartFromSettings]
  exact hs

/-- The accept hook changes whether a socket waits for it and whether it is secure, and so keeps
it shut. -/
theorem Shut.hooked {s : Socket} (hs : Shut s) (secured : Bool) : Shut (s.hooked secured) := by
  simp only [shut_iff] at hs
  cases secured <;> simp [Socket.hooked, hs]

namespace Op

open Socket

variable {σ : Type} (H : Host σ) {st : Socket × σ}

/-- Without a native socket, every operation that needs one fails at once, and leaves the
socket and the system as they were. -/
theorem refuses_of_native_none {op : Op} (hop : op.NeedsNative) (hn : st.1.native = none) :
    Refuses (op.perform H) st := by
  cases op <;> simp only [NeedsNative] at hop
  case readInto buffer nbytes truncate => exact (readInto_refuses H buffer nbytes truncate hn).bind
  case readData => exact readData_refuses H hn
  case readString => exact readData_refuses H hn
  case readDatagramInto buffer => exact (readDatagramInto_refuses H buffer hn).bind
  case readDatagram => exact (recvDatagram_refuses H hn).bind
  case listenForMessage buffer port backlog =>
    exact (listenForMessage_refuses H buffer port backlog hn).bind
  case writeTo data address => exact (writeTo_refuses H data address hn).bind
  case setReadTimeout ms => exact (setTimeout_refuses H _ _ ms hn).bind
  case setWriteTimeout ms => exact (setTimeout_refuses H _ _ ms hn).bind
  -- the others check the descriptor first
  all_goals exact (checkDescriptor_refuses H hn).bind.bind

/-- Closing, as an operation, leaves the socket closed. -/
theorem close_closed :
    Ends (Op.close.perform H) st (fun _ st' => Closed st'.1) (fun _ st' => Closed st'.1) := by
  simp only [perform, ↓ends_bind, ↓ends_pure]
  exact closeWith_closed H true

/-- A property of a socket without a native socket is kept by every step, if closing ends in
it, the settings do not bear on it, and the accept hook keeps it when the step runs the hook. -/
theorem step_of_native_none {P : Socket → Prop} (op : Op) (hn : st.1.native = none)
    (hs : P st.1) (hsettings : ∀ s, s.apartFromSettings = st.1.apartFromSettings → P s)
    (hclose : ∀ s, Closed s → P s)
    (hhook : ∀ listener, op = .acceptedBy listener → st.1.awaitingAccept = true →
      P (st.1.hooked listener.delegate.isSome)) :
    Ends (op.perform H) st (fun _ st' => P st'.1) (fun _ st' => P st'.1) := by
  by_cases hneed : op.NeedsNative
  · exact (refuses_of_native_none H hneed hn).keeps P hs
  cases op <;> simp only [NeedsNative, not_true_eq_false] at hneed
  case write data =>
    exact ((perform_fixes H (show (Op.write data).LeavesSocket from trivial)).keeps P).2 hs
  case invokeOnAccept target =>
    exact ((perform_fixes H
      (show (Op.invokeOnAccept target).LeavesSocket from trivial)).keeps P).2 hs
  case acceptedBy listener =>
    exact ends_mono (acceptedBy_hooked H listener) (fun _ _ h => h.2 ▸ hhook listener rfl h.1)
      (fun _ _ h => h ▸ hs)
  all_goals simp only [perform, ↓ends_bind, ↓ends_pure]
  case resizeReadBuffer size =>
    exact (resizeReadBuffer_keeps size).ends (fun _ _ h => hsettings _ h)
      (fun _ _ h => hsettings _ h)
  case setDelegate d =>
    exact (setDelegate_keeps d).ends (fun _ _ h => hsettings _ h) (fun _ _ h => hsettings _ h)
  case close =>
    exact ends_mono (closeWith_closed H true) (fun _ _ h => hclose _ h) (fun _ _ h => hclose _ h)

/-- Every step keeps a socket shut. -/
theorem shut_step (op : Op) (hs : Shut st.1) :
    Ends (op.perform H) st (fun _ st' => Shut st'.1) (fun _ st' => Shut st'.1) :=
  step_of_native_none H op hs.noNative hs (fun _ h => hs.of_apartFromSettings h)
    (fun _ h => h.toShut) (fun _ _ _ => hs.hooked _)

/-- Every step but the accept hook of a listener with a delegate keeps a socket closed. -/
theorem closed_step (op : Op) (hs : Closed st.1) (hop : ¬op.SecuresFromOutside st.1) :
    Ends (op.perform H) st (fun _ st' => Closed st'.1) (fun _ st' => Closed st'.1) := by
  refine step_of_native_none H op hs.noNative hs (fun _ h => hs.of_apartFromSettings h)
    (fun _ h => h) (fun listener hlistener hwait => ?_)
  -- the hook ran on a socket that waits for it, so the listener has no delegate
  subst hlistener
  have hd : listener.delegate.isSome = false := by simpa [SecuresFromOutside, hwait] using hop
  simpa [hd, hooked] using hs

end Op

variable {σ : Type} (H : Host σ)

/-- A socket once closed stays shut along every run, and closed along every run in which no
listener with a delegate runs its accept hook on it. -/
theorem closed_after_close {s u t : Socket} (hclose : Step H s .close u) :
    (Reaches H (fun _ _ => True) u t → Shut t) ∧
      (Reaches H (fun s op => ¬op.SecuresFromOutside s) u t → Closed t) := by
  have hu : Closed u := hclose.invariant fun _ => Op.close_closed H
  refine ⟨fun hreach => ?_, fun hreach => ?_⟩
  · exact hreach.invariant (fun _ op _ hs _ hstep => hstep.invariant fun _ => op.shut_step H hs)
      hu.toShut
  · exact hreach.invariant
      (fun _ op _ hs hop hstep => hstep.invariant fun _ => op.closed_step H hs hop) hu

/-- On a system that grants every call, a listener with a delegate closes; a write, a read, a
listen and a connect that follow are refused, and it stays closed. -/
theorem closed_listener_stays_closed :
    Step (grantingHost []) (listenedInet (some "tls")) .close closedInet ∧
      Step (grantingHost []) closedInet (.write (.bytes [1])) closedInet ∧
      Step (grantingHost []) closedInet .readData closedInet ∧
      Step (grantingHost []) closedInet (.listen (.int 80) .none (.bool false) (.bool false))
        closedInet ∧
      Step (grantingHost []) closedInet (.connect (.ofString "localhost") (.int 80) (.int 0))
        closedInet ∧
      Shut closedInet ∧ Closed closedInet :=
  have hclose : Step (grantingHost []) (listenedInet (some "tls")) .close closedInet :=
    ⟨(), by with_unfolding_all rfl⟩
  have hwrite : Step (grantingHost []) closedInet (.write (.bytes [1])) closedInet :=
    ⟨(), by with_unfolding_all rfl⟩
  have hread : Step (grantingHost []) closedInet .readData closedInet :=
    ⟨(), by with_unfolding_all rfl⟩
  have hlisten : Step (grantingHost []) closedInet
      (.listen (.int 80) .none (.bool false) (.bool false)) closedInet :=
    ⟨(), by with_unfolding_all rfl⟩
  have hconnect : Step (grantingHost []) closedInet
      (.connect (.ofString "localhost") (.int 80) (.int 0)) closedInet :=
    ⟨(), by with_unfolding_all rfl⟩
  -- the same four steps, first among all steps, then among those no hook takes from outside
  have hall : Reaches (grantingHost []) (fun _ _ => True) closedInet closedInet :=
    .tail (.tail (.tail (.single ⟨_, trivial, hwrite⟩) ⟨_, trivial, hread⟩)
      ⟨_, trivial, hlisten⟩) ⟨_, trivial, hconnect⟩
  have hunhooked : Reaches (grantingHost []) (fun s op => ¬op.SecuresFromOutside s) closedInet
      closedInet :=
    .tail (.tail (.tail (.single ⟨_, id, hwrite⟩) ⟨_, id, hread⟩) ⟨_, id, hlisten⟩)
      ⟨_, id, hconnect⟩
  ⟨hclose, hwrite, hread, hlisten, hconnect,
    (closed_after_close (grantingHost []) hclose).1 hall,
    (closed_after_close (grantingHost []) hclose).2 hunhooked⟩

/-- A Unix-domain stream socket accepted without its hook and closed before the hook ran: it
still waits for the hook. -/
def closedAwaitingHook : Socket :=
  { native := none, signature := { family := .unix, type := .stream, protocol := .unix },
    awaitingAccept := true }

/-- A Unix-domain stream listener with a delegate. -/
def delegatedListener : Socket :=
  { native := none, signature := { family := .unix, type := .stream, protocol := .unix },
    delegate := some "srv" }

/-- The listener's accept hook secures a closed socket that waits for it. -/
theorem hook_secures_closed_socket :
    Closed closedAwaitingHook ∧
      Step Machine.host closedAwaitingHook (.acceptedBy delegatedListener)
        (closedAwaitingHook.hooked true) ∧
      ¬Closed (closedAwaitingHook.hooked true) :=
  ⟨⟨⟨rfl, rfl, rfl, rfl, rfl, rfl, rfl⟩, rfl⟩, ⟨default, rfl⟩,
    fun h => absurd h.insecure (by decide)⟩

end Sockets
