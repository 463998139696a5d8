import Sockets.Proofs.Closing
import Sockets.Proofs.Accept

/-!
# Handing a connection out

`acceptClient` takes a waiting connection from a listener and hands it out as a new socket.
Between the system's accept and the new socket lie three steps that can each fail: reading the
peer's address, where a family the library does not know is refused; making the new socket's
signature from that address; and, when the listener has a delegate and the hook is to run at
once, the delegate's accept hook. Each of them, when it fails, closes the native socket the
system handed over before the failure is raised.

On a tracing host every call is written down, so what accepting leaves behind is read off the
trace. For a listener that passes the checks (`Serving`) and for every answer of the system,
`accept_client_leaks_nothing` states (`AcceptsClient`):

* the listener is left as it was, whatever happens;
* a refused accept is raised as "accept failed", and nothing else is called;
* a connection of an unknown family is closed, then refused as "wrong protocol";
* a connection from a peer is handed out as a socket that holds it (`HandedOut`), with the
  accept hook as the only delegate call, made on that socket's native socket; or else the
  connection is closed and the failure of its signature or of the hook is raised;
* the signature is made for every peer with a host and a port, and for Unix-domain peers of a
  listener that serves a path a Unix-domain signature takes, as listening on a path requires
  (`connectedSignature_made`).

When closing the native socket fails on the way out, closing's failure is raised instead
(`afterClosing`).

An accept a signal interrupts is called again, as often as the system says it may still be
interrupted, and each call is written down (`acceptRetrying_traced`): what the contract reads off
the system is the answer of that loop, after the calls it made. On a system that keeps to its
count, the loop never raises the interruption (`acceptRetrying_uninterrupted`).
-/

namespace Sockets

namespace Signature

/-- A type goes with the Unix-domain protocol, and with the internet protocol of its kind: TCP
for a stream, UDP for datagrams. -/
theorem checkTypeAndProtocol_of_pair (t : SocketType) {p : Protocol}
    (hp : p = .unix ∨ p = if t = .stream then .tcp else .udp) :
    checkTypeAndProtocol (.int t.value) (.int p.value) = .ok () := by
  cases t <;> rcases hp with rfl | rfl <;>
    simp [checkTypeAndProtocol, memberOf, SocketType.value, Protocol.value, Value.equals,
      Value.equalsScalar, Value.tupleItems?, Value.asBytes?, Value.asInt?, Value.unhashablePart?,
      bind, Except.bind, pure, Except.pure]

/-- A path a Unix-domain signature takes is a true value: a text or bytes, not empty. -/
theorem truthy_of_forPath {type proto path : Value} {g : Signature}
    (h : forPath type proto path = .ok g) : path.truthy = true := by
  unfold forPath at h
  simp only [bind, Except.bind, pure, Except.pure, throw, throwThe, MonadExceptOf.throw] at h
  cases path <;> simp_all [Value.truthy]
  -- an empty text or byte string is refused as a missing path
  all_goals
    by_contra hempty
    simp_all

/-- Whether a Unix-domain signature takes a path does not depend on the type it is made for. -/
theorem forPath_retype {t t' : SocketType} {path : Value} {g : Signature}
    (h : forPath (.int t.value) (.int Protocol.unix.value) path = .ok g) :
    ∃ g', forPath (.int t'.value) (.int Protocol.unix.value) path = .ok g' := by
  cases path <;> simp [forPath, checkTypeAndProtocol_of_pair _ (.inl rfl), requireMember,
    SocketType.ofValue?_value, Protocol.ofValue?_value, bind, Except.bind, pure, Except.pure,
    throw, throwThe, MonadExceptOf.throw] at h ⊢
  -- only a text or bytes path is left, and only its own checks can refuse it
  all_goals
    rcases hb : pathBytes _ with e | bs <;> simp only [hb] at h ⊢ <;> split_ifs at h ⊢
    exact ⟨_, rfl⟩

end Signature

namespace Host

variable {σ : Type}

/-- The system interrupts the accepts on a native socket no more often than it says: an
interrupted accept leaves fewer interruptions to come. -/
def InterruptionsBounded (H : Host σ) : Prop :=
  ∀ h w e w', H.accept h w = .error e w' → e.isInterrupted = true →
    H.interruptions h w' < H.interruptions h w

end Host

namespace Socket

variable {σ : Type} (H : Host σ)

/-! ## The signature of a connection -/

/-- The type of socket the system reports for the native socket `nh`: a stream when the number
it reports is no type of the library. -/
def reportedType (nh : Handle) (w : σ) : SocketType :=
  (SocketType.ofValue? (.int (H.socketType nh w))).getD .stream

/-- A connection from an internet peer whose address has a host and a port gets a signature,
and so does one from a Unix-domain peer when the listener serves a path that a Unix-domain
signature takes, for any type. -/
theorem connectedSignature_made {type t : SocketType} {peer : Address Value} {path : Value}
    (hunix : peer.family = .unix →
      ∃ g, Signature.forPath (.int t.value) (.int Protocol.unix.value) path = .ok g)
    (hfull : ∀ host port, peer.hostAndPort? = some (host, port) → host ≠ .none ∧ port ≠ .none) :
    ∃ g, connectedSignature type (.addr peer) path = .ok g := by
  cases peer with
  | unix p =>
    obtain ⟨g, hg⟩ := hunix rfl
    simp only [connectedSignature, Signature.truthy_of_forPath hg, if_true]
    exact Signature.forPath_retype hg
  | inet host port | inet6 host port _ _ =>
    -- the host and the port make the endpoint complete
    obtain ⟨hh, hp⟩ := hfull host port rfl
    cases type <;> simp [connectedSignature, Signature.forEndpoint, Family.ofValue?_value,
      SocketType.ofValue?_value, Protocol.ofValue?_value, Address.family, Address.hostAndPort?,
      @Signature.checkTypeAndProtocol_of_pair .stream .tcp (.inr rfl),
      @Signature.checkTypeAndProtocol_of_pair .datagram .udp (.inr rfl), bind, Except.bind]

/-- A Unix-domain connection accepted by a listener that serves a path takes that path. -/
theorem connectedSignature_path {type : SocketType} {peer : Address Value} {path : Value}
    {g : Signature} (hg : connectedSignature type (.addr peer) path = .ok g)
    (hunix : peer.family = .unix) (hpath : path.truthy = true) : g.path = path := by
  cases peer with
  | unix p =>
    simp only [connectedSignature, hpath, if_true] at hg
    obtain ⟨t, pr, rfl⟩ := Signature.forPath_eq hg
    rfl
  | inet => cases hunix
  | inet6 => cases hunix

/-- Listening on a path leaves the socket serving a path that a Unix-domain signature of its
type takes, the one it was given. -/
theorem listenUnix_path_signs (path backlog : Value) {st : Socket × σ} :
    Ends (listenUnix H path backlog) st
      (fun _ st' => st'.1.signature.path = path ∧ ∃ g, Signature.forPath
        (.int st'.1.signature.type.value) (.int Protocol.unix.value) st'.1.signature.path = .ok g)
      (fun _ _ => True) := by
  simp only [listenUnix, ↓ends_checkDescriptor, ↓ends_bind, ↓ends_current, ↓ends_throw,
    ↓ends_ite, ↓ends_rethrow, ↓ends_keepBacklog,
    ↓ends_of_fixes (setOption_fixes _ _ _ _), ↓ends_of_fixes (clearNode_fixes _ _), ↓ends_orCode,
    ↓ends_sys, ↓ends_change, ↓ends_changeSignature]
  simp +contextual
  intro h _ _ _ _
  -- whatever the system answers, the path kept is the one the signature was made for
  refine ends_of_forall (fun _ w ns hns => ?_) (fun _ _ => trivial)
  obtain ⟨t, p, rfl⟩ := Signature.forPath_eq hns
  refine ends_of_forall (fun _ _ _ _ _ => ?_) (fun _ _ => trivial)
  by_cases hdatagram : st.1.signature.type = .datagram
  · rw [if_pos hdatagram]
    exact ⟨rfl, _, hdatagram ▸ hns⟩
  · rw [if_neg hdatagram]
    exact fun _ _ _ => ⟨rfl, _, hns⟩

/-! ## What is handed out -/

/-- The failure raised once the native socket of a connection was closed on the way out:
`f`, the failure it was closed for, unless closing failed, whose failure takes its place. -/
def afterClosing (closed : Except Failure Unit) (f : Failure) : Failure :=
  match closed with
  | .error e => e
  | .ok _ => f

/-- The refusal of a connection of a family the library does not know. -/
def unknownFamily : Failure :=
  Failure.code .wrongProtocol "Unable to determine incoming socket protocol family."

/-- The delegate calls of a client handed out by a listener with the delegate `d`: its accept
hook, when the hook runs at once. -/
def hookCalls (d : Option String) (invoke : Bool) : List HostCall :=
  if invoke then d.toList.map .onAccept else []

/-- A listener that passes the checks of accepting on the system `w`: open on the native socket
`h`, listening and not connected. -/
structure Serving (L : Socket) (h : Handle) (w : σ) : Prop where
  native : L.native = some h
  isOpen : 0 ≤ H.fileno h w
  notConnected : L.connected = false
  listening : L.listening = true

/-- A socket the listener `L` hands out for the connection from `peer` over the native socket
`nh`: connected over it and fresh, sharing the listener's delegate, waiting for the accept hook
exactly when the hook is deferred and secured exactly when it ran; the host and port are the
peer's, and a Unix-domain connection takes the path the listener serves. -/
structure HandedOut (L : Socket) (invoke : Bool) (nh : Handle) (peer : Address Value)
    (C : Socket) : Prop extends Fresh C where
  native : C.native = some nh
  connected : C.connected = true
  delegate : C.delegate = L.delegate
  awaiting : C.awaitingAccept = (L.delegate.isSome && !invoke)
  secure : C.signature.isSecure = (L.delegate.isSome && invoke)
  endpoint : (C.signature.hostname, C.signature.port) =
    peer.hostAndPort?.getD (.none, .int Limits.invalidPort)
  servedPath : peer.family = .unix → L.signature.path.truthy = true →
    C.signature.path = L.signature.path

/-- The socket made around the native socket `nh` of a connection, with the signature `g` made
for it, served by the delegate `d`. -/
def connectedOver (nh : Handle) (g : Signature) (blocking : Bool) (d : Option String) : Socket :=
  { native := some nh, signature := g, connected := true, blocking := blocking, delegate := d,
    readBufferSize :=
      if d.isSome then Limits.secureReadBufferSize else Limits.defaultReadBufferSize }

section Handed

variable {L : Socket} {invoke : Bool} {nh : Handle} {peer : Address Value} {g : Signature}
  {type : SocketType}

/-- A socket that is the one made for a connection, but for waiting for the hook and being
secured, is handed out when those two are as `invoke` asks. -/
theorem handedOut_of_base (hg : connectedSignature type (.addr peer) L.signature.path = .ok g)
    {C : Socket}
    (hbase :
      { C with awaitingAccept := false, signature := { C.signature with isSecure := g.isSecure } } =
        connectedOver nh g C.blocking L.delegate)
    (hawait : C.awaitingAccept = (L.delegate.isSome && !invoke))
    (hsecure : C.signature.isSecure = (L.delegate.isSome && invoke)) :
    HandedOut L invoke nh peer C := by
  obtain ⟨-, -, -, hend, -⟩ := connectedSignature_addr hg
  -- every field but the two flags is read off the socket made for the connection
  obtain ⟨hn, hsig, hd, hr, -, hc, hl, -, -, -, hs, -, -⟩ := Socket.mk.inj hbase
  obtain ⟨-, -, -, hhost, hport, hpath, -, -, -⟩ := Signature.mk.inj hsig
  exact
    { notListening := hl, unprepared := hr, nothingStored := hs, native := hn, connected := hc,
      delegate := hd, awaiting := hawait, secure := hsecure,
      endpoint := by rw [hhost, hport]; exact hend,
      servedPath := fun hu hp => hpath.trans (connectedSignature_path hg hu hp) }

end Handed

/-! ## Accepting on a tracing host -/

variable {L : Socket} {h : Handle} {w : σ} {trace : List HostCall}

theorem Serving.tracing {H : Host σ} (hL : Serving H L h w) (trace : List HostCall) :
    Serving H.tracing L h (w, trace) :=
  ⟨hL.native, hL.isOpen, hL.notConnected, hL.listening⟩

/-- For a listener that passes the checks, accepting ends as the native accept and what follows
it end. -/
theorem ends_accepting_run {α : Type} (k : Handle → Handle × Address Value → SocketM σ α)
    (hL : Serving H L h w) {ok : α → Socket × σ → Prop} {err : Failure → Socket × σ → Prop} :
    Ends (do
        let h ← checkDescriptor H
        requireListener
        let x ← acceptNative H h
        k h x) (L, w) ok err =
      Ends (acceptNative H h) (L, w) (fun x st₁ => Ends (k h x) st₁ ok err) err := by
  have hopen : ¬H.fileno h w < 0 := not_lt.2 hL.isOpen
  simp [↓ends_bind, ends_checkDescriptor, hL.native, hopen, requireListener, ends_current,
    hL.notConnected, hL.listening, ends_pure]

/-- The traced accept loop answers as the loop does, having written down one accept for each call
it made: the `k` a signal interrupted, then the last. -/
theorem acceptRetrying_traced (h : Handle) (retries : Nat) (w : σ) (trace : List HostCall) :
    Ends (acceptRetrying H.tracing h retries) (w, trace)
      (fun r st' => ∃ k ≤ retries, acceptRetrying H h retries w = .ok r st'.1 ∧
        st'.2 = trace ++ List.replicate k (.accept h) ++ [.accept h])
      (fun e st' => ∃ k ≤ retries, acceptRetrying H h retries w = .error e st'.1 ∧
        st'.2 = trace ++ List.replicate k (.accept h) ++ [.accept h]) := by
  induction retries generalizing w trace with
  | zero =>
    rcases hacc : H.accept h w with ⟨r, w'⟩ | ⟨e, w'⟩ <;>
      simp [acceptRetrying, Ends, Host.traced, hacc]
  | succ n ih =>
    rw [acceptRetrying_succ H h n w, acceptRetrying, ends_tryCatch, Host.tracing_accept]
    rcases hacc : H.accept h w with ⟨r, w'⟩ | ⟨e, w'⟩
    · rw [ends_of_ok (Host.traced_of_ok hacc trace)]
      exact ⟨0, by omega, rfl, by simp⟩
    · rw [ends_of_error (Host.traced_of_error hacc trace)]
      by_cases hi : e.isInterrupted = true
      · -- the retry writes down its own calls after the interrupted one
        simp only [hi, if_true]
        refine ends_mono (ih w' (trace ++ [.accept h])) ?_ ?_ <;>
        · rintro _ _ ⟨k, hk, hrun, htr⟩
          exact ⟨k + 1, by omega, hrun, by simp [htr, List.replicate_succ]⟩
      · simp only [hi, Bool.false_eq_true, if_false, ends_throw]
        exact ⟨0, by omega, trivial, by simp⟩

section Traced

variable {retries : Nat} {w₁ : σ}

/-- A loop that fails fails so on a tracing host, after the calls it made. -/
theorem acceptRetrying_traced_error {e : Failure}
    (hacc : acceptRetrying H h retries w = .error e w₁) (trace : List HostCall) :
    ∃ k ≤ retries, acceptRetrying H.tracing h retries (w, trace) =
      .error e (w₁, trace ++ List.replicate k (.accept h) ++ [.accept h]) := by
  have hT := acceptRetrying_traced H h retries w trace
  rcases hrun : acceptRetrying H.tracing h retries (w, trace) with ⟨r, st'⟩ | ⟨e', w', trace'⟩
  · obtain ⟨k, -, hok, -⟩ := ok_of_ends hT hrun
    rw [hacc] at hok
    cases hok
  · obtain ⟨k, hk, herr, htr : trace' = _⟩ := err_of_ends hT hrun
    rw [hacc] at herr
    cases herr
    exact ⟨k, hk, htr ▸ rfl⟩

/-- A loop that takes a connection takes it on a tracing host, after the calls it made. -/
theorem acceptRetrying_traced_ok {r : Handle × Value}
    (hacc : acceptRetrying H h retries w = .ok r w₁) (trace : List HostCall) :
    ∃ k ≤ retries, acceptRetrying H.tracing h retries (w, trace) =
      .ok r (w₁, trace ++ List.replicate k (.accept h) ++ [.accept h]) := by
  have hT := acceptRetrying_traced H h retries w trace
  rcases hrun : acceptRetrying H.tracing h retries (w, trace) with ⟨r', w', trace'⟩ | ⟨e, st'⟩
  · obtain ⟨k, hk, hok, htr : trace' = _⟩ := ok_of_ends hT hrun
    rw [hacc] at hok
    cases hok
    exact ⟨k, hk, htr ▸ rfl⟩
  · obtain ⟨k, -, herr, -⟩ := err_of_ends hT hrun
    rw [hacc] at herr
    cases herr

end Traced

/-- On such a system the accept loop never raises an interruption: each retry is paid for by
one the system had left, so the loop's budget runs out only after the interruptions do. -/
theorem acceptRetrying_uninterrupted (hI : H.InterruptionsBounded) (h : Handle) (retries : Nat)
    (w : σ) (hw : H.interruptions h w ≤ retries) :
    Ends (acceptRetrying H h retries) w (fun _ _ => True) (fun e _ => e.isInterrupted = false) := by
  induction retries generalizing w with
  | zero =>
    rcases hacc : H.accept h w with ⟨r, w'⟩ | ⟨e, w'⟩
    · simp [acceptRetrying, ends_of_ok hacc]
    · -- with no interruption left, the only call is not interrupted
      rw [acceptRetrying, ends_of_error hacc]
      cases hi : e.isInterrupted
      · rfl
      · exact absurd (hI h w e w' hacc hi) (by omega)
  | succ n ih =>
    rw [acceptRetrying, ends_tryCatch]
    rcases hacc : H.accept h w with ⟨r, w'⟩ | ⟨e, w'⟩
    · simp [ends_of_ok hacc]
    · rw [ends_of_error hacc]
      cases hi : e.isInterrupted
      · simp [ends_throw, hi]
      · -- the interrupted call used one of the interruptions the budget counts
        have hlt := hI h w e w' hacc hi
        simpa only [if_true] using ih w' (by omega)

/-- A refused accept is raised as "accept failed" when the system refused it, after the accepts
a signal interrupted. -/
theorem acceptNative_refused {e : Failure} {w₁ : σ}
    (hacc : acceptRetrying H h (H.interruptions h w) w = .error e w₁) :
    ∃ k ≤ H.interruptions h w, acceptNative H.tracing h (L, (w, trace)) =
      .error (coded .acceptFailed e)
        (L, (w₁, trace ++ List.replicate k (.accept h) ++ [.accept h])) := by
  obtain ⟨k, hk, hrun⟩ := acceptRetrying_traced_error H hacc trace
  refine ⟨k, hk, eq_error_of_ends ?_⟩
  simp [acceptNative, ends_bind, ends_orCode, ends_system, ends_sys_error hrun]

/-- A connection of a family the library does not know is closed, then refused. -/
theorem acceptNative_unknown {nh : Handle} {raw : Value} {w₁ : σ}
    (hacc : acceptRetrying H h (H.interruptions h w) w = .ok (nh, raw) w₁)
    (hfam : Address.ofSyscall (.int (H.family nh w₁)) raw = .ok none) :
    ∃ k ≤ H.interruptions h w, ∃ closed w₂, acceptNative H.tracing h (L, (w, trace)) =
      .error (afterClosing closed unknownFamily)
        (L, (w₂, trace ++ List.replicate k (.accept h) ++ [.accept h, .close nh closed])) := by
  obtain ⟨k, hk, hrun⟩ := acceptRetrying_traced_ok H hacc trace
  refine ⟨k, hk, ?_⟩
  rcases hc : H.close nh w₁ with ⟨⟨⟩, w₂⟩ | ⟨e, w₂⟩
  · refine ⟨.ok (), w₂, eq_error_of_ends ?_⟩
    simp [acceptNative, ends_bind, ends_orCode, ends_system, ends_sys_ok hrun, hfam,
      ends_rethrow, ends_sys_traced, hc, ends_throw, afterClosing, unknownFamily]
  · refine ⟨.error e, w₂, eq_error_of_ends ?_⟩
    simp [acceptNative, ends_bind, ends_orCode, ends_system, ends_sys_ok hrun, hfam,
      ends_rethrow, ends_sys_traced, hc, afterClosing]

/-- A connection from a peer is taken with the peer's address. -/
theorem acceptNative_peer {nh : Handle} {raw : Value} {w₁ : σ} {peer : Address Value}
    (hacc : acceptRetrying H h (H.interruptions h w) w = .ok (nh, raw) w₁)
    (hfam : Address.ofSyscall (.int (H.family nh w₁)) raw = .ok (some peer)) :
    ∃ k ≤ H.interruptions h w, acceptNative H.tracing h (L, (w, trace)) =
      .ok (nh, peer) (L, (w₁, trace ++ List.replicate k (.accept h) ++ [.accept h])) := by
  obtain ⟨k, hk, hrun⟩ := acceptRetrying_traced_ok H hacc trace
  refine ⟨k, hk, eq_ok_of_ends ?_⟩
  simp [acceptNative, ends_bind, ends_orCode, ends_system, ends_sys_ok hrun, hfam, ends_rethrow,
    ends_pure]

variable {nh : Handle} {address path : Value} {d : Option String} {g : Signature} {f : Failure}

/-- Wrapping a connection whose signature is made makes no call. -/
theorem fromNative_traced_made
    (hg : connectedSignature (reportedType H nh w) address path = .ok g) :
    fromNative H.tracing nh address path d (w, trace) =
      .ok (connectedOver nh g (H.blocking nh w) d) (w, trace) := by
  unfold reportedType at hg
  apply eq_ok_of_ends
  simp [fromNative, ends_bind, ends_get, hg, ends_wrap, connectedOver]

/-- Wrapping a connection whose signature is refused closes it, then raises the refusal. -/
theorem fromNative_traced_refused
    (hg : connectedSignature (reportedType H nh w) address path = .error f) :
    Ends (fromNative H.tracing nh address path d) (w, trace) (fun _ _ => False)
      (fun e st => ∃ closed, e = afterClosing closed f ∧ st.2 = trace ++ [.close nh closed]) := by
  unfold reportedType at hg
  simp only [fromNative, ↓ends_bind, ↓ends_get, Host.tracing_socketType]
  rw [hg]
  simp only [↓ends_bind, Host.tracing_close, ends_eq (Host.traced _ _)]
  rcases hc : H.close nh w with ⟨⟨⟩, w₂⟩ | ⟨c, w₂⟩ <;>
    simp [Host.traced, hc, ends_throw, afterClosing]

/-- The accept hook of the listener's delegate `d` on a socket waiting for it: one call, on the
socket's native socket; the socket comes back secured, or the delegate's failure is raised. -/
theorem invokeOnAccept_traced {t : Socket} {d : String} (hd : L.delegate = some d)
    (ht : t.awaitingAccept = true) (hn : t.native = some nh) :
    Ends (invokeOnAccept H.tracing t) (L, (w, trace))
      (fun r st' => r = t.hooked true ∧ st'.1 = L ∧
        H.delegates.onAccept d (some nh) w = .ok () st'.2.1 ∧ st'.2.2 = trace ++ [.onAccept d])
      (fun e st' => st'.1 = L ∧ (∃ eA, H.delegates.onAccept d (some nh) w = .error eA st'.2.1 ∧
        e = delegated eA) ∧ st'.2.2 = trace ++ [.onAccept d]) := by
  rcases hk : H.delegates.onAccept d (some nh) w with ⟨⟨⟩, w₂⟩ | ⟨eA, w₂⟩ <;>
    simp [invokeOnAccept, ht, hd, hn, ends_bind, ends_current, ends_callDelegate,
      ends_sys_traced, hk, ends_map, hooked]

/-- Closing a socket handed out for a connection, not listening, not prepared and owning no
node, makes one call: closing its native socket, whose failure it raises. -/
theorem close_accepted_traced {t : Socket} (hn : t.native = some nh)
    (hl : t.listening = false) (hr : t.delegateReady = false) (ho : t.ownedPath = none) :
    Ends (close H.tracing) (t, (w, trace)) (fun _ st' => st'.2.2 = trace ++ [.close nh (.ok ())])
      (fun e st' => st'.2.2 = trace ++ [.close nh (.error e)]) := by
  -- with nothing to undo and no node, the calls and the failure are those of the native close
  refine ends_mono (close_answered H t w trace) (fun _ st' h' => ?_) (fun _ st' h' => ?_) <;>
  · obtain ⟨undone, released, unlinked, htr, -, hraised⟩ := h'
    cases released <;>
      simp_all [closeCalls, undoCalls, releaseCalls, nativeCalls, nativeRefused, unlinkCalls,
        closeFailure, releaseResult, unlinkResult, undoResult]

/-! ## Accepting a client -/

/-- How accepting the connection from `peer` over the native socket `nh`, taken on `h` with the
system in `w₁` after the calls `trace`, returns the client `C`: handed out, after the calls of
the accept and of the hook, the hook answering for `C`'s native socket. -/
def ReturnsClient (L : Socket) (invoke : Bool) (h nh : Handle) (peer : Address Value) (w₁ : σ)
    (trace : List HostCall) (C : Socket) (st' : Socket × (σ × List HostCall)) : Prop :=
  HandedOut L invoke nh peer C ∧ st'.2.2 = trace ++ .accept h :: hookCalls L.delegate invoke ∧
    ∀ d, L.delegate = some d → invoke = true →
      H.delegates.onAccept d (some nh) w₁ = .ok () st'.2.1

/-- How accepting that connection fails with `e`: its native socket is closed last, after the
refusal of its signature or after the failed hook, and the failure is the one closing leaves. -/
def FailsClosed (L : Socket) (invoke : Bool) (h nh : Handle) (peer : Address Value) (w₁ : σ)
    (trace : List HostCall) (e : Failure) (st' : Socket × (σ × List HostCall)) : Prop :=
  ∃ closed,
    (st'.2.2 = trace ++ [.accept h, .close nh closed] ∧
      ∃ f, connectedSignature (reportedType H nh w₁) (.addr peer) L.signature.path = .error f ∧
        e = afterClosing closed f) ∨
    (∃ d eA w₂, L.delegate = some d ∧ invoke = true ∧
      H.delegates.onAccept d (some nh) w₁ = .error eA w₂ ∧
      st'.2.2 = trace ++ [.accept h, .onAccept d, .close nh closed] ∧
      e = afterClosing closed (delegated eA))

/-- A refused accept is raised, as "accept failed" for a refusal of the system, and nothing else
is called. -/
theorem acceptClient_refused (hL : Serving H L h w) (invoke : Bool) {e : Failure} {w₁ : σ}
    (hacc : acceptRetrying H h (H.interruptions h w) w = .error e w₁) :
    ∃ k ≤ H.interruptions h w, acceptClient H.tracing invoke (L, (w, trace)) =
      .error (coded .acceptFailed e)
        (L, (w₁, trace ++ List.replicate k (.accept h) ++ [.accept h])) := by
  obtain ⟨k, hk, hrun⟩ : ∃ k ≤ _, acceptNative H.tracing h (L, (w, trace)) = _ :=
    acceptNative_refused H hacc
  refine ⟨k, hk, eq_error_of_ends ?_⟩
  rw [acceptClient, ends_accepting_run _ _ (hL.tracing trace), ends_eq, hrun]
  simp

/-- A connection of a family the library does not know is closed, then refused. -/
theorem acceptClient_unknown (hL : Serving H L h w) (invoke : Bool) {raw : Value} {w₁ : σ}
    (hacc : acceptRetrying H h (H.interruptions h w) w = .ok (nh, raw) w₁)
    (hfam : Address.ofSyscall (.int (H.family nh w₁)) raw = .ok none) :
    ∃ k ≤ H.interruptions h w, ∃ closed w₂, acceptClient H.tracing invoke (L, (w, trace)) =
      .error (afterClosing closed unknownFamily)
        (L, (w₂, trace ++ List.replicate k (.accept h) ++ [.accept h, .close nh closed])) := by
  obtain ⟨k, hk, closed, w₂, hrun⟩ :
      ∃ k ≤ _, ∃ closed w₂, acceptNative H.tracing h (L, (w, trace)) = _ :=
    acceptNative_unknown H hacc hfam
  refine ⟨k, hk, closed, w₂, eq_error_of_ends ?_⟩
  rw [acceptClient, ends_accepting_run _ _ (hL.tracing trace), ends_eq, hrun]
  simp

/-- Accepting a connection from `peer` over the native socket `nh`: the client is handed out,
with the accept hook as its only delegate call; or the connection is closed, and the refusal of
its signature or the failure of the hook is raised. -/
theorem acceptClient_from_peer (hL : Serving H L h w) (invoke : Bool) {raw : Value} {w₁ : σ}
    {peer : Address Value} (hacc : acceptRetrying H h (H.interruptions h w) w = .ok (nh, raw) w₁)
    (hfam : Address.ofSyscall (.int (H.family nh w₁)) raw = .ok (some peer)) :
    ∃ k ≤ H.interruptions h w, Ends (acceptClient H.tracing invoke) (L, (w, trace))
      (ReturnsClient H L invoke h nh peer w₁ (trace ++ List.replicate k (.accept h)))
      (FailsClosed H L invoke h nh peer w₁ (trace ++ List.replicate k (.accept h))) := by
  obtain ⟨k, hk, hrun⟩ : ∃ k ≤ _, acceptNative H.tracing h (L, (w, trace)) = _ :=
    acceptNative_peer H hacc hfam
  refine ⟨k, hk, ?_⟩
  generalize trace ++ List.replicate k (.accept h) = trace' at hrun ⊢
  unfold ReturnsClient FailsClosed
  rw [acceptClient, ends_accepting_run _ _ (hL.tracing trace), ends_eq, hrun]
  refine ⟨?_, fun _ _ h => by cases h⟩
  rintro _ _ ⟨rfl, rfl⟩
  simp only [↓ends_bind, ↓ends_current, ↓ends_sys]
  rcases hg : connectedSignature (reportedType H nh w₁) (.addr peer) L.signature.path with f | g
  · -- the signature is refused: the connection is closed and nothing is handed out
    have hrun : Ends (fromNative H.tracing nh (.addr peer) L.signature.path L.delegate)
        (w₁, trace' ++ [.accept h]) _ _ := fromNative_traced_refused H hg
    refine ⟨fun C st' hC => (ok_of_ends hrun hC).elim, fun e st' he => ?_⟩
    obtain ⟨closed, rfl, htr⟩ := err_of_ends hrun he
    exact ⟨closed, .inl ⟨by simp [htr], f, rfl, rfl⟩⟩
  · have hrun : fromNative H.tracing nh (.addr peer) L.signature.path L.delegate
        (w₁, trace' ++ [.accept h]) = _ := fromNative_traced_made H hg
    refine ⟨fun C st' hC => ?_, fun e st' he => by rw [hrun] at he; cases he⟩
    rw [hrun] at hC
    cases hC
    have hins := connectedSignature_insecure hg
    rcases hd : L.delegate with _ | d
    · -- without a delegate the client is handed out as it was made
      simp only [Option.isNone_none, if_true, ends_pure]
      exact ⟨handedOut_of_base hg (by rw [hd]; rfl) (by simp [connectedOver, hd])
        (by simp [connectedOver, hins, hd]), by simp [hookCalls], by simp⟩
    · cases invoke
      · -- the hook is left for later
        simp only [Option.isNone_some, Bool.not_false, Bool.false_eq_true, if_false, if_true,
          ends_pure]
        exact ⟨handedOut_of_base hg (by rw [hd]; rfl) (by simp [hd])
          (by simp [connectedOver, hins, hd]), by simp [hookCalls], by simp⟩
      · -- the hook runs at once, on the client's native socket
        simp only [Option.isNone_some, Bool.not_true, Bool.false_eq_true, if_false, ↓ends_bind,
          ↓ends_attempt]
        refine ends_mono (invokeOnAccept_traced H hd rfl rfl) ?_ ?_
        · rintro r st' ⟨rfl, -, hhook, htr⟩
          simp only [ends_pure]
          exact ⟨handedOut_of_base hg (by rw [hd]; rfl) (by simp [hooked]) (by simp [hooked, hd]),
            by simp [htr, hookCalls], fun d' hd' _ => by cases hd'; exact hhook⟩
        · -- the hook failed: the client is closed before the failure is raised
          rintro e st' ⟨-, ⟨eA, hhook, rfl⟩, htr⟩
          simp only [↓ends_within]
          refine ends_mono (close_accepted_traced H rfl rfl rfl rfl) ?_ ?_
          · rintro - st'' htr'
            simp only [ends_rethrow, ends_throw]
            exact ⟨fun _ _ => ⟨.ok (), .inr ⟨d, eA, _, rfl, trivial, hhook, by simp [htr', htr], rfl⟩⟩,
              fun _ he => by cases he⟩
          · -- closing the client failed, and that failure is raised instead
            rintro c st'' htr'
            simp only [ends_rethrow, ends_throw]
            refine ⟨fun _ he => (by cases he), fun _ he => ?_⟩
            cases he
            exact ⟨.error c, .inr ⟨d, eA, _, rfl, trivial, hhook, by simp [htr', htr], rfl⟩⟩

/-! ## The contract -/

/-- What accepting a client on the listener `L`, open on the native socket `h`, does on a tracing
host from the system `w` after the calls `trace`, for each answer of the system and the delegate:

* `keeps`: the listener is left as it was, whatever happens;
* `refused`: a refused accept is raised, as "accept failed" for a refusal of the system, and
  nothing else is called; here and below, the accepts a signal interrupted come first, each
  called again (`acceptRetrying`);
* `unknown`: a connection of a family the library does not know is closed, then refused;
* `fromPeer`: a connection from a peer is handed out as a client that holds it, with the accept
  hook, made on the client's native socket, as its only delegate call (`ReturnsClient`); or it
  is closed, last, and the refusal of its signature or the failure of the hook is raised
  (`FailsClosed`);
* `signed`: the signature is made for internet peers with a host and a port, and for
  Unix-domain peers when the listener serves a path a Unix-domain signature takes. -/
structure AcceptsClient (L : Socket) (h : Handle) (invoke : Bool) (w : σ)
    (trace : List HostCall) : Prop where
  keeps : Ends (acceptClient H.tracing invoke) (L, (w, trace)) (fun _ st' => st'.1 = L)
    (fun _ st' => st'.1 = L)
  refused : ∀ e w₁, acceptRetrying H h (H.interruptions h w) w = .error e w₁ →
    ∃ k ≤ H.interruptions h w, acceptClient H.tracing invoke (L, (w, trace)) =
      .error (coded .acceptFailed e)
        (L, (w₁, trace ++ List.replicate k (.accept h) ++ [.accept h]))
  unknown : ∀ nh raw w₁, acceptRetrying H h (H.interruptions h w) w = .ok (nh, raw) w₁ →
    Address.ofSyscall (.int (H.family nh w₁)) raw = .ok none →
    ∃ k ≤ H.interruptions h w, ∃ closed w₂, acceptClient H.tracing invoke (L, (w, trace)) =
      .error (afterClosing closed unknownFamily)
        (L, (w₂, trace ++ List.replicate k (.accept h) ++ [.accept h, .close nh closed]))
  fromPeer : ∀ nh raw w₁ peer, acceptRetrying H h (H.interruptions h w) w = .ok (nh, raw) w₁ →
    Address.ofSyscall (.int (H.family nh w₁)) raw = .ok (some peer) →
    ∃ k ≤ H.interruptions h w, Ends (acceptClient H.tracing invoke) (L, (w, trace))
      (ReturnsClient H L invoke h nh peer w₁ (trace ++ List.replicate k (.accept h)))
      (FailsClosed H L invoke h nh peer w₁ (trace ++ List.replicate k (.accept h)))
  signed : ∀ type peer, (peer.family = .unix → ∃ g, Signature.forPath (.int L.signature.type.value)
      (.int Protocol.unix.value) L.signature.path = .ok g) →
    (∀ host port, peer.hostAndPort? = some (host, port) → host ≠ .none ∧ port ≠ .none) →
    ∃ g, connectedSignature type (.addr peer) L.signature.path = .ok g

/-- Accepting a client on a listener that passes the checks leaves the listener alone and leaks
no native socket: whatever the system and the delegate answer, it does what `AcceptsClient`
says. -/
theorem accept_client_leaks_nothing (hL : Serving H L h w) (invoke : Bool)
    (trace : List HostCall) : AcceptsClient H L h invoke w trace where
  keeps := acceptClient_fixes H.tracing invoke (L, (w, trace))
  refused _ _ hacc := acceptClient_refused H hL invoke hacc
  unknown _ _ _ hacc hfam := acceptClient_unknown H hL invoke hacc hfam
  fromPeer _ _ _ _ hacc hfam := acceptClient_from_peer H hL invoke hacc hfam
  signed _ _ hunix hfull := connectedSignature_made hunix hfull

/-- The Unix-domain listener of `waitingListener` passes the checks on its native socket, so
accepting its waiting client, hook or not, does what `AcceptsClient` says. -/
theorem waiting_listener_accepts_cleanly :
    Serving Machine.host waitingListener.1 ⟨1⟩ waitingListener.2 ∧
      AcceptsClient Machine.host waitingListener.1 ⟨1⟩ true waitingListener.2 [] :=
  have hL : Serving Machine.host waitingListener.1 ⟨1⟩ waitingListener.2 :=
    ⟨by decide +kernel, by decide +kernel, by decide +kernel, by decide +kernel⟩
  ⟨hL, accept_client_leaks_nothing Machine.host hL true []⟩

end Socket

end Sockets
