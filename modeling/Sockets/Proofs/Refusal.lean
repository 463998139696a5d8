import Sockets.Proofs.Closed

/-!
# Refused calls

An operation checks its arguments and the socket before it does anything. `Op.Admits H st op`
says that the call passes those checks: the native socket is open, the socket is or is not
connected, listening or of the family and type the operation needs, and every argument has the
type and the range the operation takes. A call that does not pass them `Rejects`: it fails with
a refusal (`Failure.isRefusal`: a socket failure with one of the codes of `ErrorCode.refusals`,
or an argument of the wrong type or out of its domain), and leaves the socket and the system as
they were. The system is left as it was, so no delegate hook ran and no socket option was set.

*Refusing.*  Every operation but `listenUnix` rejects a call it does not admit
(`Op.rejects_of_not_admits`). The proofs follow each operation's checks in the order it makes
them: the first that fails throws before any step that changes something.

*The exception.*  `listenUnix` stores the backlog and allows the address to be reused before it
makes a signature of its path, so a path it refuses leaves the new backlog behind
(`listenUnix_path_refused`).
-/

namespace Sockets

/-- The codes by which an operation refuses a call: the socket is closed, connected or not,
listening or not, or of the wrong kind, or an argument is missing or out of its range. -/
def ErrorCode.refusals : List ErrorCode :=
  [.badDescriptor, .alreadyConnected, .notConnected, .notListening, .invalidHostname, .invalidPort,
    .wrongProtocol, .invalidBuffer, .missingConnectionData, .invalidDelegateCall,
    .badSignatureParameters]

/-- Whether a failure refuses a call: a socket failure with a refusal code, or an argument of
the wrong type or out of its domain (text that cannot be encoded is a value out of its domain). -/
def Failure.isRefusal : Failure → Bool
  | .socket e => ErrorCode.refusals.any fun c => c.value == e.code
  | .typeError _ | .valueError _ | .encode _ => true
  | _ => false

/-- A result that, if it fails, fails with a failure that `P` holds of. -/
def Failure.FailsWith {α : Type} (P : Failure → Prop) (r : Except Failure α) : Prop :=
  ∀ f, r = .error f → P f

/-- A result that, if it fails, fails with a refusal. -/
abbrev Failure.OnlyRefuses {α : Type} (r : Except Failure α) : Prop :=
  Failure.FailsWith (fun f => f.isRefusal) r

namespace Failure.FailsWith

variable {α β : Type} {P : Failure → Prop}

theorem ok (a : α) : FailsWith P (.ok a : Except Failure α) := by
  intro f h
  cases h

theorem error {f : Failure} (hf : P f) : FailsWith P (.error f : Except Failure α) := by
  intro f' h
  cases h
  exact hf

theorem bind {x : Except Failure α} {k : α → Except Failure β} (hx : FailsWith P x)
    (hk : ∀ a, x = .ok a → FailsWith P (k a)) : FailsWith P (x >>= k) := by
  intro f h
  cases hxa : x with
  | error e =>
    rw [hxa] at h
    cases h
    exact hx _ hxa
  | ok a =>
    rw [hxa] at h
    exact hk a hxa f h

theorem ite {c : Prop} [Decidable c] {x y : Except Failure α} (hx : FailsWith P x)
    (hy : FailsWith P y) : FailsWith P (if c then x else y) := by
  split
  · exact hx
  · exact hy

theorem mono {r : Except Failure α} {Q : Failure → Prop} (h : FailsWith P r)
    (hPQ : ∀ f, P f → Q f) : FailsWith Q r :=
  fun f hf => hPQ f (h f hf)

end Failure.FailsWith

open Failure (OnlyRefuses FailsWith)

/-! ## What the argument checks refuse with -/

theorem Checks.portOk_onlyRefuses (port : Value) (allowZero : Bool) :
    OnlyRefuses (Checks.portOk port allowZero) := by
  intro f h
  simp only [Checks.portOk, Checks.validatePort] at h
  split at h <;> simp [Except.map] at h
  rw [← h]
  rfl

theorem Checks.validateTimeout_onlyRefuses (timeout : Value) :
    OnlyRefuses (Checks.validateTimeout timeout) := by
  intro f h
  simp only [Checks.validateTimeout] at h
  split at h
  · cases h
    rfl
  · split at h <;> cases h
    rfl

theorem Checks.validateBufferSize_onlyRefuses (size : Value) :
    OnlyRefuses (Checks.validateBufferSize size) := by
  intro f h
  simp only [Checks.validateBufferSize] at h
  split at h
  · cases h
    rfl
  · split at h <;> cases h
    rfl

theorem Value.index_onlyRefuses (v : Value) : OnlyRefuses v.index := by
  intro f h
  simp only [Value.index] at h
  split at h <;> cases h
  rfl

theorem Value.sliceEnd_onlyRefuses (v : Value) : OnlyRefuses (Value.sliceEnd v) := by
  intro f h
  simp only [Value.sliceEnd] at h
  split at h <;> cases h
  rfl

/-- Compared with an integer, a value either has an order with it or is refused as a type. -/
theorem Value.compareWith_int_onlyRefuses (c : Comparison) (v : Value) (n : Int) :
    OnlyRefuses (Value.compareWith c v (.int n)) := by
  intro f h
  -- only a number has an order with an integer; anything else is refused as a type
  cases v <;> simp [Value.compareWith, Value.tupleItems?, Value.compareBy, Value.asBytes?,
    Value.number?] at h <;>
    (rw [← h]; rfl)

theorem Failure.surrogates_isRefusal (e : Text.EncodeError) : (Failure.surrogates e).isRefusal := by
  unfold Failure.surrogates Failure.encodeRun
  split <;> rfl

theorem strictUtf8_onlyRefuses (t : Text) : OnlyRefuses (strictUtf8 t) := by
  intro f h
  unfold strictUtf8 at h
  cases hu : t.utf8? <;> rw [hu] at h <;> cases h
  exact Failure.surrogates_isRefusal _

theorem Socket.payload_onlyRefuses (data : Value) : OnlyRefuses (Socket.payload data) := by
  intro f h
  cases data
  case str t => exact strictUtf8_onlyRefuses t f h
  all_goals
    simp only [Socket.payload] at h
    cases h
  all_goals rfl

theorem Socket.encodeText_onlyRefuses (data : Value) : OnlyRefuses (Socket.encodeText data) := by
  intro f h
  cases data
  case str t =>
    cases hu : strictUtf8 t with
    | ok bytes => simp [Socket.encodeText, hu, Except.map] at h
    | error e =>
      simp only [Socket.encodeText, hu, Except.map, Except.error.injEq] at h
      exact h ▸ strictUtf8_onlyRefuses t e hu
  all_goals simp [Socket.encodeText] at h

theorem Socket.sendBuffer_onlyRefuses (data : Value) : OnlyRefuses (Socket.sendBuffer data) := by
  intro f h
  cases data <;> simp only [Socket.sendBuffer, reduceCtorEq, Except.error.injEq] at h <;>
    (rw [← h]; rfl)

theorem Socket.waitLimit_onlyRefuses (waitForever : Bool) (timeout : Value) :
    OnlyRefuses (Socket.waitLimit waitForever timeout) := by
  intro f h
  unfold Socket.waitLimit at h
  split at h
  · cases h
  · cases hv : Checks.validateTimeout timeout with
    | ok v => simp [hv, Except.map] at h
    | error e =>
      simp only [hv, Except.map, Except.error.injEq] at h
      exact h ▸ Checks.validateTimeout_onlyRefuses _ e hv

/-- An index that is not an integer is refused before its range is looked at. -/
theorem Value.toMachineInt_of_index_error {v : Value} {f : Failure} (h : v.index = .error f) :
    v.toMachineInt = .error f := by
  simp [Value.toMachineInt, h, bind, Except.bind]

theorem memberOf_onlyRefuses (v : Value) (values : List Int) : OnlyRefuses (memberOf v values) := by
  intro f h
  simp only [memberOf] at h
  split at h <;> cases h
  rfl

theorem requireMember_onlyRefuses {α : Type} (enum : String) (find : Value → Option α)
    (v : Value) : OnlyRefuses (requireMember enum find v) := by
  intro f h
  simp only [requireMember] at h
  split at h <;> cases h
  rfl

theorem pathBytes_onlyRefuses (v : Value) : OnlyRefuses (pathBytes v) := by
  intro f h
  cases v
  case str t =>
    simp only [pathBytes, fsBytes] at h
    cases hb : t.fsBytes? <;> rw [hb] at h <;> cases h
    exact Failure.surrogates_isRefusal _
  all_goals
    simp only [pathBytes] at h
    cases h
  all_goals rfl

theorem Signature.checkTypeAndProtocol_onlyRefuses (type proto : Value) :
    OnlyRefuses (Signature.checkTypeAndProtocol type proto) := by
  unfold Signature.checkTypeAndProtocol
  split
  · refine FailsWith.bind (memberOf_onlyRefuses _ _) fun _ _ => ?_
    split
    · exact FailsWith.error (by decide)
    · exact FailsWith.ok _
  split
  · refine FailsWith.bind (memberOf_onlyRefuses _ _) fun _ _ => ?_
    split
    · exact FailsWith.error (by decide)
    · exact FailsWith.ok _
  exact FailsWith.ok _

/-- A path makes a Unix-domain signature, or is refused: missing, empty, too long, of the wrong
type, or text without file-system bytes. -/
theorem Signature.forPath_onlyRefuses (type proto path : Value) :
    OnlyRefuses (Signature.forPath type proto path) := by
  -- a path that is neither text nor bytes is refused before anything else is looked at
  cases path <;> simp only [Signature.forPath]
  case str t | bytes t =>
    refine FailsWith.bind (FailsWith.ok _) fun _ _ => ?_
    split
    · exact FailsWith.bind (FailsWith.error (by decide)) fun _ h => by cases h
    refine FailsWith.bind (Signature.checkTypeAndProtocol_onlyRefuses _ _) fun _ _ => ?_
    refine FailsWith.bind (pathBytes_onlyRefuses _) fun _ _ => ?_
    split
    · exact FailsWith.bind (FailsWith.error (by decide)) fun _ h => by cases h
    refine FailsWith.bind (requireMember_onlyRefuses _ _ _) fun _ _ => ?_
    exact FailsWith.bind (requireMember_onlyRefuses _ _ _) fun _ _ => FailsWith.ok _
  all_goals exact FailsWith.error rfl

/-! ## Refused programs -/

namespace Socket

variable {σ α β : Type} (H : Host σ)

/-- The socket has an open native socket. -/
def IsOpen (st : Socket × σ) : Prop := 0 ≤ descriptor H st.1 st.2

/-- The checks of listening on a port: an open native socket, not connected, a port in range
(zero included) and a family other than Unix-domain. -/
def AdmitsListen (st : Socket × σ) (port : Value) : Prop :=
  IsOpen H st ∧ st.1.connected = false ∧ Checks.portOk port true = .ok true ∧
    st.1.signature.family ≠ .unix

/-- The checks of connecting to a host and port: an open native socket, not connected, a host,
a port in range (zero excluded) and a timeout that is a number of milliseconds. -/
def AdmitsConnect (st : Socket × σ) (host port timeout : Value) : Prop :=
  IsOpen H st ∧ st.1.connected = false ∧ host.truthy = true ∧
    Checks.portOk port false = .ok true ∧ ∃ v, Checks.validateTimeout timeout = .ok v

/-- The checks of connecting to, or listening on, a Unix-domain path: an open Unix-domain
socket, not connected, and a path that makes a signature of the socket's type. -/
def AdmitsPath (st : Socket × σ) (path : Value) : Prop :=
  IsOpen H st ∧ st.1.signature.family = .unix ∧ st.1.connected = false ∧
    ∃ g, Signature.forPath (.int st.1.signature.type.value) (.int Protocol.unix.value) path = .ok g

end Socket

namespace Op

open Socket

variable {σ : Type} (H : Host σ)

/-- Whether a call passes the checks the operation makes of its arguments and of the socket
before it does anything. -/
def Admits (st : Socket × σ) : Op → Prop
  | .listen port _ _ _ => AdmitsListen H st port
  | .listenUnix path _ => AdmitsPath H st path
  | .connect host port timeout => AdmitsConnect H st host port timeout
  | .connectUnix path => AdmitsPath H st path
  | .connectUsing g =>
    IsOpen H st ∧ (g.path ≠ .none → AdmitsPath H st g.path) ∧
      (g.path = .none → g.hostname ≠ .none → g.port.equals (.int Limits.invalidPort) = false →
        AdmitsConnect H st g.hostname g.port (.int 0)) ∧
      (g.path = .none → (g.hostname = .none ∨ g.port.equals (.int Limits.invalidPort) = true) →
        g.address ≠ .none ∧ st.1.connected = false)
  | .acceptClient _ | .acceptConnection =>
    IsOpen H st ∧ st.1.connected = false ∧ st.1.listening = true
  | .invokeOnAccept target => target.awaitingAccept = true
  | .acceptedBy _ => st.1.awaitingAccept = true
  | .write data =>
    ∃ bytes, payload data = .ok bytes ∧ (bytes ≠ [] → IsOpen H st ∧ st.1.connected = true)
  | .writeTo data address =>
    ∃ v, encodeText data = .ok v ∧ IsOpen H st ∧ st.1.signature.type = .datagram ∧
      ∀ a, address = .addr a → ∃ bytes, sendBuffer v = .ok bytes
  | .readInto buffer nbytes _ =>
    nbytes.lt (.int 0) = .ok false ∧ nbytes.gt (.int buffer.length) = .ok false ∧
      (if nbytes.truthy then ∃ n, Value.sliceEnd nbytes = .ok n ∧ n.toNat ≠ 0 else buffer ≠ []) ∧
      IsOpen H st ∧ st.1.connected = true
  | .readData | .readString _ => IsOpen H st ∧ st.1.connected = true
  | .readDatagramInto buffer => buffer ≠ [] ∧ IsOpen H st ∧ st.1.signature.type = .datagram
  | .readDatagram | .udpBroadcast _ => IsOpen H st ∧ st.1.signature.type = .datagram
  | .listenForMessage buffer port _ =>
    buffer ≠ [] ∧ IsOpen H st ∧ st.1.signature.type = .datagram ∧
      (st.1.signature.isBound = false → AdmitsListen H st port)
  | .setBlocking v => IsOpen H st ∧ ∃ n, v.index = .ok n
  | .setReadTimeout ms | .setWriteTimeout ms =>
    (∃ v, Checks.validateTimeout ms = .ok v) ∧ IsOpen H st
  | .resizeReadBuffer size => ∃ v, Checks.validateBufferSize size = .ok v
  | .readiness waitForever timeout =>
    IsOpen H st ∧ st.1.connected = true ∧ ∃ limit, waitLimit waitForever timeout = .ok limit
  | .setDelegate _ | .close => True

end Op

namespace Socket

variable {σ α β : Type} (H : Host σ)

/-- `prog`, run from `st`, is refused: it fails with a refusal, and leaves the socket and the
system as they were. -/
def Rejects (prog : SocketM σ α) (st : Socket × σ) : Prop :=
  Ends prog st (fun _ _ => False) (fun f st' => f.isRefusal ∧ st' = st)

variable {H} {st : Socket × σ}

/-- A program that starts with a refused step is refused. -/
theorem Rejects.bind {x : SocketM σ α} {f : α → SocketM σ β} (h : Rejects x st) :
    Rejects (x >>= f) st := by
  unfold Rejects at *
  rw [ends_bind]
  exact ends_mono h (fun _ _ h => h.elim) (fun _ _ h => h)

theorem Rejects.ends {x : SocketM σ α} (h : Rejects x st) (ok : α → Socket × σ → Prop) :
    Ends x st ok (fun f st' => f.isRefusal ∧ st' = st) :=
  ends_mono h (fun _ _ h => h.elim) (fun _ _ h => h)

theorem rejects_throw {f : Failure} (hf : f.isRefusal) : Rejects (throw f : SocketM σ α) st :=
  ⟨hf, rfl⟩

theorem rejects_rethrow {r : Except Failure α} {f : Failure} (hr : r = .error f)
    (hf : f.isRefusal) : Rejects (rethrow r) st := by
  subst hr
  exact rejects_throw hf

/-- A step that returns without changing anything is passed over. -/
theorem ends_bind_of_run {x : SocketM σ α} {f : α → SocketM σ β} {a : α}
    {ok : β → Socket × σ → Prop} {err : Failure → Socket × σ → Prop} (hx : x st = .ok a st) :
    Ends (x >>= f) st ok err = Ends (f a) st ok err := by
  rw [ends_bind]
  simp only [Ends, hx]

theorem bind_run {x : SocketM σ α} {f : α → SocketM σ β} {a : α} {st' : Socket × σ}
    (hx : x st = .ok a st') : (x >>= f) st = f a st' := by
  simp only [bind, EStateM.bind, hx]

theorem throw_bind (f : Failure) (k : α → SocketM σ β) :
    (throw f >>= k : SocketM σ β) = throw f := rfl

theorem current_run : (current : SocketM σ Socket) st = .ok st.1 st := rfl

/-- An open native socket passes the descriptor check. -/
theorem checkDescriptor_run (hopen : IsOpen H st) :
    ∃ h, st.1.native = some h ∧ checkDescriptor H st = .ok h st := by
  obtain ⟨s, w⟩ := st
  unfold IsOpen descriptor at hopen
  cases hn : s.native with
  | none =>
    simp only [hn] at hopen
    exact absurd hopen (by decide)
  | some h =>
    simp only [hn] at hopen
    refine ⟨h, rfl, ?_⟩
    simp [checkDescriptor, current, system, hn, bind, EStateM.bind, pure, EStateM.pure,
      show ¬H.fileno h w < 0 by omega]

theorem checkDescriptor_rejects (hopen : ¬IsOpen H st) : Rejects (checkDescriptor H) st := by
  unfold IsOpen descriptor at hopen
  simp only [Rejects, ends_checkDescriptor]
  refine ⟨fun h hn => ?_, fun _ => by decide⟩
  simp only [hn] at hopen
  simp only [show H.fileno h st.2 < 0 by omega, ↓reduceIte]
  decide

/-- A program that begins with the descriptor check rejects a call on a closed socket, and on an
open one whenever what follows the check rejects it. -/
theorem checkDescriptor_bind_rejects {k : Handle → SocketM σ α}
    (hk : IsOpen H st → ∀ h, Rejects (k h) st) : Rejects (checkDescriptor H >>= k) st := by
  by_cases hopen : IsOpen H st
  case neg => exact (checkDescriptor_rejects hopen).bind
  obtain ⟨h, -, hrun⟩ := checkDescriptor_run hopen
  unfold Rejects
  rw [ends_bind_of_run hrun]
  exact hk hopen h

theorem requireDatagram_run (ht : st.1.signature.type = .datagram) :
    (requireDatagram : SocketM σ Unit) st = .ok () st := by
  simp [requireDatagram, current, ht, bind, EStateM.bind, pure, EStateM.pure]

theorem requireDatagram_rejects (ht : st.1.signature.type ≠ .datagram) :
    Rejects (requireDatagram : SocketM σ Unit) st := by
  simp only [Rejects, requireDatagram, ends_bind, ends_current, bne_iff_ne, ne_eq, ht,
    not_false_eq_true, ↓reduceIte, ends_throw]
  decide

theorem requireListener_rejects (hno : ¬(st.1.connected = false ∧ st.1.listening = true)) :
    Rejects (requireListener : SocketM σ Unit) st := by
  cases hc : st.1.connected <;> cases hl : st.1.listening <;>
    simp only [hc, hl, true_and, and_true, not_true_eq_false] at hno <;>
    simp only [Rejects, requireListener, ends_bind, ends_current, hc, hl, ↓reduceIte,
      Bool.not_false, Bool.not_true, Bool.false_eq_true, ends_throw, ends_pure] <;>
    decide

variable (H)

theorem fill_rejects (hno : ¬(IsOpen H st ∧ st.1.connected = true)) : Rejects (fill H) st := by
  refine checkDescriptor_bind_rejects fun hopen _ => ?_
  have hc : st.1.connected = false := by simpa [hopen] using hno
  simp only [Rejects, ends_bind, ends_current, hc, Bool.not_false, ↓reduceIte, ends_throw]
  decide

/-- The descriptor check and then the datagram check refuse a socket that is closed or not a
datagram socket. -/
theorem datagram_rejects {k : Handle → Unit → SocketM σ α}
    (hno : ¬(IsOpen H st ∧ st.1.signature.type = .datagram)) :
    Rejects (checkDescriptor H >>= fun h => requireDatagram >>= k h) st := by
  refine checkDescriptor_bind_rejects fun hopen _ => ?_
  have ht : st.1.signature.type ≠ .datagram := by simpa [hopen] using hno
  exact (requireDatagram_rejects ht).bind

theorem recvDatagram_rejects (hno : ¬(IsOpen H st ∧ st.1.signature.type = .datagram)) :
    Rejects (recvDatagram H) st :=
  datagram_rejects H hno

theorem listen_rejects (port backlog reuse dualStack : Value) (hno : ¬AdmitsListen H st port) :
    Rejects (listen H port backlog reuse dualStack) st := by
  refine checkDescriptor_bind_rejects fun hopen _ => ?_
  -- then, in order: not connected, a port in range, not Unix-domain
  cases hc : st.1.connected
  case true =>
    simp only [Rejects, ends_bind, ends_current, hc, ↓reduceIte, ends_throw]
    decide
  cases hp : Checks.portOk port true with
  | error f =>
    simp only [Rejects, ends_bind, ends_current, hc, ↓reduceIte, Bool.false_eq_true, rethrow,
      ends_throw]
    simpa using Checks.portOk_onlyRefuses _ _ f hp
  | ok admitted =>
    cases admitted
    case false =>
      simp only [Rejects, ends_bind, ends_current, hc, ↓reduceIte, Bool.false_eq_true, rethrow,
        ends_pure, Bool.not_false, ends_throw]
      decide
    have hu : st.1.signature.family = .unix :=
      Decidable.byContradiction fun hu => hno ⟨hopen, hc, hp, hu⟩
    simp only [Rejects, ends_bind, ends_current, hc, ↓reduceIte, Bool.false_eq_true, rethrow,
      ends_pure, Bool.not_true, hu, beq_self_eq_true, ends_throw]
    decide

theorem connect_rejects (host port timeout : Value) (hno : ¬AdmitsConnect H st host port timeout) :
    Rejects (connect H host port timeout) st := by
  refine checkDescriptor_bind_rejects fun hopen _ => ?_
  -- then, in order: not connected, a host, a port in range, a timeout
  cases hc : st.1.connected
  case true =>
    simp only [Rejects, ends_bind, ends_current, hc, ↓reduceIte, ends_throw]
    decide
  cases hh : host.truthy
  case false =>
    simp only [Rejects, ends_bind, ends_current, hc, ↓reduceIte, Bool.false_eq_true,
      Bool.not_false, ends_throw]
    decide
  cases hp : Checks.portOk port false with
  | error f =>
    simp only [Rejects, ends_bind, ends_current, hc, ↓reduceIte, Bool.false_eq_true,
      Bool.not_true, rethrow, ends_throw]
    simpa using Checks.portOk_onlyRefuses _ _ f hp
  | ok admitted =>
    cases admitted
    case false =>
      simp only [Rejects, ends_bind, ends_current, hc, ↓reduceIte, Bool.false_eq_true,
        Bool.not_true, rethrow, ends_pure, Bool.not_false, ends_throw]
      decide
    cases ht : Checks.validateTimeout timeout with
    | ok v => exact absurd ⟨hopen, hc, hh, hp, v, ht⟩ hno
    | error f =>
      simp only [Rejects, ends_bind, ends_current, hc, ↓reduceIte, Bool.false_eq_true,
        Bool.not_true, rethrow, ends_pure, ends_throw]
      simpa using Checks.validateTimeout_onlyRefuses _ f ht

theorem connectUnix_rejects (path : Value) (hno : ¬AdmitsPath H st path) :
    Rejects (connectUnix H path) st := by
  refine checkDescriptor_bind_rejects fun hopen _ => ?_
  -- then, in order: Unix-domain, not connected, a path
  by_cases hu : st.1.signature.family = .unix
  case neg =>
    simp only [Rejects, ends_bind, ends_current, bne_iff_ne, ne_eq, hu, not_false_eq_true,
      ↓reduceIte, ends_throw]
    decide
  cases hc : st.1.connected
  case true =>
    simp only [Rejects, ends_bind, ends_current, hu, bne_self_eq_false, Bool.false_eq_true, hc,
      ↓reduceIte, ends_throw]
    decide
  cases hg : Signature.forPath (.int st.1.signature.type.value) (.int Protocol.unix.value) path with
  | ok g => exact absurd ⟨hopen, hu, hc, g, hg⟩ hno
  | error f =>
    simp only [Rejects, ends_bind, ends_current, hu, bne_self_eq_false, Bool.false_eq_true, hc,
      ↓reduceIte, hg, rethrow, ends_throw]
    simpa using Signature.forPath_onlyRefuses _ _ _ f hg

/-- `listenUnix` refuses a socket that is closed, of another family or connected. -/
theorem listenUnix_rejects (path backlog : Value)
    (hno : ¬(IsOpen H st ∧ st.1.signature.family = .unix ∧ st.1.connected = false)) :
    Rejects (listenUnix H path backlog) st := by
  refine checkDescriptor_bind_rejects fun hopen _ => ?_
  by_cases hu : st.1.signature.family = .unix
  case neg =>
    simp only [Rejects, ends_bind, ends_current, bne_iff_ne, ne_eq, hu, not_false_eq_true,
      ↓reduceIte, ends_throw]
    decide
  have hc : st.1.connected = true := by simpa [hopen, hu] using hno
  simp only [Rejects, ends_bind, ends_current, hu, bne_self_eq_false, Bool.false_eq_true, hc,
    ↓reduceIte, ends_throw]
  decide

/-- Past those checks, `listenUnix` stores the backlog and allows the address to be reused
before it looks at the path, so a path it refuses fails the call after both. -/
theorem listenUnix_path_refused (path backlog : Value) {h : Handle} {f : Failure}
    (hn : st.1.native = some h) (hopen : IsOpen H st) (hu : st.1.signature.family = .unix)
    (hc : st.1.connected = false)
    (hpath : Signature.forPath (.int st.1.signature.type.value) (.int Protocol.unix.value) path =
      .error f) :
    listenUnix H path backlog st =
      (do keepBacklog backlog; setOption H h .reuseAddr (.bool true); throw f) st := by
  obtain ⟨h', hn', hrun⟩ := checkDescriptor_run hopen
  obtain rfl : h' = h := Option.some.inj (hn'.symm.trans hn)
  unfold listenUnix
  rw [bind_run hrun, bind_run current_run]
  simp only [hu, hc, bne_self_eq_false, Bool.false_eq_true, ↓reduceIte, hpath, rethrow,
    throw_bind]

theorem readInto_rejects (buffer : List UInt8) (nbytes : Value) (truncate : Bool)
    (hno : ¬(Op.readInto buffer nbytes truncate).Admits H st) :
    Rejects (readInto H buffer nbytes truncate) st := by
  -- the count first: comparable with integers, not negative, within the buffer
  cases hlt : nbytes.lt (.int 0) with
  | error f =>
    simp only [Rejects, readInto, ends_bind, hlt, rethrow, ends_throw]
    simpa using Value.compareWith_int_onlyRefuses _ _ _ f hlt
  | ok negative =>
  cases negative
  case true =>
    simp only [Rejects, readInto, ends_bind, hlt, rethrow, ends_pure, ↓reduceIte, ends_throw]
    decide
  cases hgt : nbytes.gt (.int buffer.length) with
  | error f =>
    simp only [Rejects, readInto, ends_bind, hlt, hgt, rethrow, ends_pure, Bool.false_eq_true,
      ↓reduceIte, ends_throw]
    simpa using Value.compareWith_int_onlyRefuses _ _ _ f hgt
  | ok exceeds =>
  cases exceeds
  case true =>
    simp only [Rejects, readInto, ends_bind, hlt, hgt, rethrow, ends_pure, Bool.false_eq_true,
      ↓reduceIte, ends_throw]
    decide
  -- then the size it reads, which must not be zero, and then a connection to fill from
  cases htruthy : nbytes.truthy
  case true =>
    cases hend : Value.sliceEnd nbytes with
    | error f =>
      simp only [Rejects, readInto, ends_bind, hlt, hgt, htruthy, hend, rethrow, ends_pure,
        ends_map, Bool.false_eq_true, ↓reduceIte, ends_throw]
      simpa using Value.sliceEnd_onlyRefuses _ f hend
    | ok n =>
    by_cases hzero : n.toNat = 0
    case pos =>
      simp only [Rejects, readInto, ends_bind, hlt, hgt, htruthy, hend, rethrow, ends_pure,
        ends_map, Bool.false_eq_true, ↓reduceIte, hzero, beq_self_eq_true, ends_throw]
      decide
    have hfill : ¬(IsOpen H st ∧ st.1.connected = true) := fun hfill =>
      hno ⟨hlt, hgt, by simp only [htruthy, ↓reduceIte]; exact ⟨n, hend, hzero⟩, hfill⟩
    simp only [Rejects, readInto, ends_bind, hlt, hgt, htruthy, hend, rethrow, ends_pure,
      ends_map, Bool.false_eq_true, ↓reduceIte, hzero, beq_iff_eq]
    exact (fill_rejects H hfill).ends _
  case false =>
    by_cases hempty : buffer = []
    case pos =>
      subst hempty
      simp only [List.length_nil] at hgt
      simp only [Rejects, readInto, ends_bind, hlt, hgt, htruthy, rethrow, ends_pure,
        Bool.false_eq_true, ↓reduceIte, List.length_nil, beq_self_eq_true, ends_throw]
      decide
    have hfill : ¬(IsOpen H st ∧ st.1.connected = true) := fun hfill =>
      hno ⟨hlt, hgt, by simpa [htruthy] using hempty, hfill⟩
    simp only [Rejects, readInto, ends_bind, hlt, hgt, htruthy, rethrow, ends_pure,
      Bool.false_eq_true, ↓reduceIte, List.length_eq_zero_iff, hempty, beq_iff_eq]
    exact (fill_rejects H hfill).ends _

theorem write_rejects (data : Value) (hno : ¬(Op.write data).Admits H st) :
    Rejects (write H data) st := by
  cases hp : payload data with
  | error f =>
    simp only [Rejects, write, ends_bind, hp, rethrow, ends_throw]
    simpa using payload_onlyRefuses _ f hp
  | ok bytes =>
  -- something to send: a connection is needed
  have hbytes : bytes ≠ [] := fun hnil => hno ⟨bytes, hp, fun hne => absurd hnil hne⟩
  have hsend : ¬(IsOpen H st ∧ st.1.connected = true) := fun hsend => hno ⟨bytes, hp, fun _ => hsend⟩
  by_cases hopen : IsOpen H st
  case neg =>
    simp only [Rejects, write, ends_bind, hp, rethrow, ends_pure, List.isEmpty_iff, hbytes,
      ↓reduceIte]
    exact (checkDescriptor_rejects hopen).ends _
  obtain ⟨h, -, hrun⟩ := checkDescriptor_run hopen
  have hc : st.1.connected = false := by simpa [hopen] using hsend
  simp only [Rejects, write, ends_bind, hp, rethrow, ends_pure, List.isEmpty_iff, hbytes,
    ↓reduceIte, ends_bind_of_run hrun, ends_current, hc, Bool.not_false, ends_throw]
  decide

theorem writeTo_rejects (data address : Value) (hno : ¬(Op.writeTo data address).Admits H st) :
    Rejects (writeTo H data address) st := by
  -- text is encoded first, then the socket is checked, then the address, and last the payload
  cases he : encodeText data with
  | error f => exact (rejects_rethrow he (encodeText_onlyRefuses data f he)).bind
  | ok v =>
    unfold Rejects writeTo
    rw [ends_bind_of_run (show rethrow (encodeText data) st = .ok v st by rw [he]; rfl)]
    by_cases hdatagram : IsOpen H st ∧ st.1.signature.type = .datagram
    case neg => exact datagram_rejects H hdatagram
    obtain ⟨h, -, hrun⟩ := checkDescriptor_run hdatagram.1
    rw [ends_bind_of_run hrun, ends_bind_of_run (requireDatagram_run hdatagram.2)]
    -- past the socket's checks, only an address with a payload the send refuses is left
    have haddr : ¬∀ a, address = .addr a → ∃ bytes, sendBuffer v = .ok bytes :=
      fun hall => hno ⟨v, he, hdatagram.1, hdatagram.2, hall⟩
    cases address
    case addr a =>
      cases hb : sendBuffer v with
      | ok bytes => exact absurd (fun _ _ => ⟨bytes, hb⟩) haddr
      | error f =>
        simp only [ends_bind, ends_pure, rethrow, ends_throw]
        exact ⟨sendBuffer_onlyRefuses v f hb, trivial⟩
    all_goals exact absurd (fun _ h => by cases h) haddr

theorem readDatagramInto_rejects (buffer : List UInt8)
    (hno : ¬(Op.readDatagramInto buffer).Admits H st) :
    Rejects (readDatagramInto H buffer) st := by
  by_cases hempty : buffer = []
  case pos =>
    subst hempty
    simp only [Rejects, readDatagramInto, ends_bind, List.isEmpty_nil, ↓reduceIte, ends_throw]
    decide
  simp only [Rejects, readDatagramInto, List.isEmpty_iff, hempty, ↓reduceIte]
  exact (recvDatagram_rejects H fun h => hno ⟨hempty, h⟩).bind

theorem listenForMessage_rejects (buffer : List UInt8) (port backlog : Value)
    (hno : ¬(Op.listenForMessage buffer port backlog).Admits H st) :
    Rejects (listenForMessage H buffer port backlog) st := by
  by_cases hempty : buffer = []
  case pos =>
    subst hempty
    simp only [Rejects, listenForMessage, ends_bind, List.isEmpty_nil, ↓reduceIte, ends_throw]
    decide
  simp only [Rejects, listenForMessage, List.isEmpty_iff, hempty, ↓reduceIte]
  by_cases hdatagram : IsOpen H st ∧ st.1.signature.type = .datagram
  case neg => exact (datagram_rejects H hdatagram).ends _
  -- a datagram socket that is not bound yet is bound as `listen` binds
  obtain ⟨h, -, hrun⟩ := checkDescriptor_run hdatagram.1
  have hbound : st.1.signature.isBound = false := by
    cases hb : st.1.signature.isBound
    · rfl
    · exact absurd ⟨hempty, hdatagram.1, hdatagram.2, fun h => absurd hb (by simp [h])⟩ hno
  have hlisten : ¬AdmitsListen H st port := fun h => hno ⟨hempty, hdatagram.1, hdatagram.2, fun _ => h⟩
  rw [ends_bind_of_run hrun, ends_bind_of_run (requireDatagram_run hdatagram.2),
    ends_bind_of_run current_run]
  simp only [hbound, Bool.not_false, ↓reduceIte]
  exact (listen_rejects H port backlog _ _ hlisten).bind.ends _

theorem udpBroadcast_rejects (enable : Value) (hno : ¬(Op.udpBroadcast enable).Admits H st) :
    Rejects (udpBroadcast H enable) st :=
  datagram_rejects H hno

theorem setBlocking_rejects (v : Value) (hno : ¬(Op.setBlocking v).Admits H st) :
    Rejects (setBlocking H v) st := by
  refine checkDescriptor_bind_rejects fun hopen _ => ?_
  cases hi : v.index with
  | ok n => exact absurd ⟨hopen, n, hi⟩ hno
  | error f =>
    exact (rejects_rethrow (Value.toMachineInt_of_index_error hi)
      (Value.index_onlyRefuses _ f hi)).bind

theorem setTimeout_rejects (opt : SockOpt) (code : ErrorCode) (ms : Value)
    (hno : ¬((∃ v, Checks.validateTimeout ms = .ok v) ∧ IsOpen H st)) :
    Rejects (setTimeout H opt code ms) st := by
  cases hv : Checks.validateTimeout ms with
  | error f => exact (rejects_rethrow hv (Checks.validateTimeout_onlyRefuses _ f hv)).bind
  | ok v =>
    have hopen : ¬IsOpen H st := fun hopen => hno ⟨⟨v, hv⟩, hopen⟩
    unfold Rejects setTimeout
    rw [ends_bind_of_run (show rethrow (Checks.validateTimeout ms) st = .ok v st by rw [hv]; rfl)]
    exact (checkDescriptor_rejects hopen).bind

theorem resizeReadBuffer_rejects (size : Value)
    (hno : ¬(Op.resizeReadBuffer size).Admits H st) :
    Rejects (resizeReadBuffer size : SocketM σ Nat) st := by
  cases hv : Checks.validateBufferSize size with
  | ok v => exact absurd ⟨v, hv⟩ hno
  | error f => exact (rejects_rethrow hv (Checks.validateBufferSize_onlyRefuses _ f hv)).bind

theorem readiness_rejects (waitForever : Bool) (timeout : Value)
    (hno : ¬(Op.readiness waitForever timeout).Admits H st) :
    Rejects (readiness H waitForever timeout) st := by
  refine checkDescriptor_bind_rejects fun hopen _ => ?_
  cases hc : st.1.connected
  case false =>
    simp only [Rejects, ends_bind, ends_current, hc, Bool.not_false, ↓reduceIte, ends_throw]
    decide
  cases hl : waitLimit waitForever timeout with
  | ok limit => exact absurd ⟨hopen, hc, limit, hl⟩ hno
  | error f =>
    simp only [Rejects, pollDescriptor, ends_bind, ends_current, hc, Bool.not_true,
      Bool.false_eq_true, ↓reduceIte, ends_system, hl, rethrow, ends_throw]
    simpa using waitLimit_onlyRefuses _ _ f hl

theorem acceptClient_rejects (invoke : Bool) (hno : ¬(Op.acceptClient invoke).Admits H st) :
    Rejects (acceptClient H invoke) st := by
  refine checkDescriptor_bind_rejects fun hopen _ => ?_
  exact (requireListener_rejects fun h => hno ⟨hopen, h⟩).bind

theorem acceptConnection_rejects (hno : ¬Op.acceptConnection.Admits H st) :
    Rejects (acceptConnection H) st := by
  refine checkDescriptor_bind_rejects fun hopen _ => ?_
  exact (requireListener_rejects fun h => hno ⟨hopen, h⟩).bind

theorem invokeOnAccept_rejects (target : Socket) (hno : target.awaitingAccept = false) :
    Rejects (invokeOnAccept H target) st := by
  simp only [Rejects, invokeOnAccept, ends_bind, hno, Bool.not_false, ↓reduceIte, ends_throw]
  decide

theorem connectUsing_rejects (g : Signature) (hno : ¬(Op.connectUsing g).Admits H st) :
    Rejects (connectUsing H g) st := by
  refine checkDescriptor_bind_rejects fun hopen _ => ?_
  -- what is connected to: the path, else the host and port, else the resolved address
  simp only [Rejects]
  by_cases hp : g.path = .none
  case neg =>
    -- through the path
    have hunix : ¬AdmitsPath H st g.path := fun h => hno ⟨hopen, fun _ => h, fun hp' => absurd hp' hp,
      fun hp' => absurd hp' hp⟩
    split
    case h_1 hp' => exact absurd hp' hp
    simp only [Bool.not_false, ↓reduceIte]
    exact connectUnix_rejects H _ hunix
  by_cases hinet : g.hostname ≠ .none ∧ g.port.equals (.int Limits.invalidPort) = false
  case pos =>
    -- through the host and port
    have hconnect : ¬AdmitsConnect H st g.hostname g.port (.int 0) := fun h =>
      hno ⟨hopen, fun hp' => absurd hp hp', fun _ _ _ => h, fun _ hor => by simp_all⟩
    simp only [hp, Bool.not_true, Bool.false_eq_true, ↓reduceIte, hinet.2, Bool.not_false,
      Bool.and_true]
    split
    case h_1 hh => exact absurd hh hinet.1
    simp only [Bool.not_false, ↓reduceIte]
    exact connect_rejects H _ _ _ hconnect
  -- through the resolved address, which must be there, on a socket that is not connected
  have hlast : ¬(g.address ≠ .none ∧ st.1.connected = false) := fun h =>
    hno ⟨hopen, fun hp' => absurd hp hp', fun _ hh hport => absurd ⟨hh, hport⟩ hinet, fun _ _ => h⟩
  have hor : g.hostname = .none ∨ g.port.equals (.int Limits.invalidPort) = true := by
    cases hport : g.port.equals (.int Limits.invalidPort) <;> simp_all
  by_cases ha : g.address = .none
  case pos =>
    rcases hor with hfact | hfact <;>
      simp only [hp, hfact, ha, Bool.not_true, Bool.false_eq_true, Bool.false_and, Bool.and_false,
        ↓reduceIte, ends_bind, ends_throw] <;>
      decide
  have hc : st.1.connected = true := by
    cases hc : st.1.connected
    · exact absurd ⟨ha, hc⟩ hlast
    · rfl
  -- whatever the address holds, the connected socket is refused before it is looked at
  rcases hor with hfact | hfact <;>
    simp only [hp, hfact, Bool.not_true, Bool.false_eq_true, Bool.false_and, Bool.and_false,
      ↓reduceIte] <;>
    split <;>
    simp only [↓reduceIte, ends_bind, ends_current, hc, ends_throw] <;>
    decide

end Socket

namespace Op

open Socket

variable {σ : Type} (H : Host σ) {st : Socket × σ}

/-- A socket that does not wait for an accept hook refuses to be its target. -/
theorem acceptedBy_rejects (listener : Socket) (hno : st.1.awaitingAccept = false) :
    Rejects ((Op.acceptedBy listener).perform H) st := by
  simp only [Rejects, perform, ends_bind, ends_current, ends_within, Socket.invokeOnAccept, hno,
    Bool.not_false, ↓reduceIte, ends_throw, rethrow, Prod.eta]
  decide

/-- Every operation but `listenUnix` refuses a call it does not admit: it fails with a refusal
and leaves the socket and the system as they were. -/
theorem rejects_of_not_admits (op : Op) (hop : ∀ path backlog, op ≠ .listenUnix path backlog)
    (hno : ¬op.Admits H st) : Rejects (op.perform H) st := by
  cases op
  case listenUnix path backlog => exact absurd rfl (hop path backlog)
  case listen port backlog reuse dualStack =>
    exact (listen_rejects H port backlog reuse dualStack hno).bind
  case connect host port timeout => exact (connect_rejects H host port timeout hno).bind
  case connectUnix path => exact (connectUnix_rejects H path hno).bind
  case connectUsing g => exact (connectUsing_rejects H g hno).bind
  case acceptClient invoke => exact (acceptClient_rejects H invoke hno).bind
  case acceptConnection => exact (acceptConnection_rejects H hno).bind
  case invokeOnAccept target =>
    exact (invokeOnAccept_rejects H target (by simpa [Admits] using hno)).bind
  case acceptedBy listener => exact acceptedBy_rejects H listener (by simpa [Admits] using hno)
  case write data => exact (write_rejects H data hno).bind
  case writeTo data address => exact (writeTo_rejects H data address hno).bind
  case readInto buffer nbytes truncate =>
    exact (readInto_rejects H buffer nbytes truncate hno).bind
  case readData => exact (fill_rejects H hno).bind
  case readString => exact (fill_rejects H hno).bind
  case readDatagramInto buffer => exact (readDatagramInto_rejects H buffer hno).bind
  case readDatagram => exact (recvDatagram_rejects H hno).bind
  case listenForMessage buffer port backlog =>
    exact (listenForMessage_rejects H buffer port backlog hno).bind
  case setBlocking v => exact (setBlocking_rejects H v hno).bind
  case setReadTimeout ms => exact (setTimeout_rejects H _ _ ms hno).bind
  case setWriteTimeout ms => exact (setTimeout_rejects H _ _ ms hno).bind
  case udpBroadcast enable => exact (udpBroadcast_rejects H enable hno).bind
  case resizeReadBuffer size => exact (resizeReadBuffer_rejects H size hno).bind
  case readiness waitForever timeout => exact (readiness_rejects H waitForever timeout hno).bind
  case setDelegate => exact absurd trivial hno
  case close => exact absurd trivial hno

end Op

/-- A call an operation does not admit is refused and changes nothing; the one exception is
`listenUnix`, which refuses a closed, connected or other socket at once, but, once the socket
passes, stores the backlog and allows the address to be reused before it refuses the path. -/
theorem refused_call_changes_nothing {σ : Type} (H : Host σ) :
    (∀ (op : Op) (st : Socket × σ), (∀ path backlog, op ≠ .listenUnix path backlog) →
      ¬op.Admits H st → Socket.Rejects (op.perform H) st) ∧
    (∀ (path backlog : Value) (st : Socket × σ),
      ¬(Socket.IsOpen H st ∧ st.1.signature.family = .unix ∧ st.1.connected = false) →
      Socket.Rejects ((Op.listenUnix path backlog).perform H) st) ∧
    (∀ (path backlog : Value) (st : Socket × σ) (h : Handle) (f : Failure),
      st.1.native = some h → Socket.IsOpen H st → st.1.signature.family = .unix →
      st.1.connected = false →
      Signature.forPath (.int st.1.signature.type.value) (.int Protocol.unix.value) path =
        .error f →
      Socket.listenUnix H path backlog st =
        (do Socket.keepBacklog backlog; Socket.setOption H h .reuseAddr (.bool true); throw f) st) :=
  ⟨fun op _ hop hno => op.rejects_of_not_admits H hop hno,
    fun path backlog _ hno => (Socket.listenUnix_rejects H path backlog hno).bind,
    fun path backlog _ _ _ hn hopen hu hc hpath =>
      Socket.listenUnix_path_refused H path backlog hn hopen hu hc hpath⟩

/-- A fresh Unix-domain stream socket of the machine. -/
def freshUnixSocket : Socket × World :=
  match Socket.create Machine.host (.int Family.unix.value) (.int SocketType.stream.value) (.int 0)
      none {} with
  | .ok s w => (s, w)
  | .error _ w => (default, w)

/-- A fresh Unix-domain socket told to listen without a path stores the backlog and allows its
address to be reused before it refuses the missing path. -/
theorem missing_path_after_backlog :
    Socket.listenUnix Machine.host .none (.int 7) freshUnixSocket =
      (do
        Socket.keepBacklog (.int 7)
        Socket.setOption Machine.host ⟨1⟩ .reuseAddr (.bool true)
        throw (Signature.bad "Missing pathname.")) freshUnixSocket :=
  (refused_call_changes_nothing Machine.host).2.2 .none (.int 7) freshUnixSocket ⟨1⟩ _
    (by decide +kernel) (by unfold Socket.IsOpen; decide +kernel) (by decide +kernel)
    (by decide +kernel) rfl

end Sockets
