import Sockets.Proofs.Modes
import Sockets.Proofs.Handout

/-!
# Connecting to a host

Connecting resolves a host and a port and tries the candidates the lookup answers in turn, each
with a native socket of its own, a *trial*. This module follows one connect on a tracing host of a
host that keeps to the laws of modes, and to two more (`Host.DialLaws`): closing a native socket
lets it go whatever the close answers, and a lookup for a type of socket answers endpoints of
that type, of any family but the Unix domain's (`Resolved.Fits`).

* *In order.*  The trials made are those of the first candidates of a family the library knows,
  in the lookup's order, and they stop at the first that connects (`firstConnection_in_order`):
  a candidate of another family is passed over, and one is given up on an OS error only; any
  other failure, and a trial that cannot be let go, end the connect there.
* *Nothing leaks.*  A trial that does not connect is let go, so a connect that fails before a
  trial takes over leaves every native socket as it found it, and the socket as it was but for
  the delegate's preparation (`Undialed`).
* *Taking over.*  The trial that connects was closed before the connect began, and takes the
  place of the old native socket, which is let go without asking the delegate to undo its
  preparation (`releaseCalls`); the socket's signature is that of the endpoint reached
  (`Resolved.signature`), with nothing stored, and the trial has the socket's mode (`Dialed`).
* *Securing.*  The delegate's connect hook runs last; the socket is secure exactly when it
  returns, and a failure of the hook is raised as the delegate's (`HookRefused`).
-/

namespace Sockets

namespace Host

variable {σ α : Type} {H : Host σ}

/-! ## The laws on a tracing host -/

@[simp] theorem tracing_modes (w : σ) (trace : List HostCall) (h : Handle) :
    H.tracing.modes (w, trace) h = H.modes w h := rfl

@[simp] theorem tracing_agrees (h : Handle) (m : Bool) (w : σ) (trace : List HostCall) :
    H.tracing.Agrees h m (w, trace) = H.Agrees h m w := rfl

/-- A mode a native socket agrees with still holds where it has the mode it had. -/
theorem Agrees.of_modes_eq {h : Handle} {m : Bool} {w w' : σ} (ha : H.Agrees h m w)
    (heq : H.modes w' h = H.modes w h) : H.Agrees h m w' := by
  unfold Agrees
  rw [heq]
  exact ha

/-- A traced call ends as the call does, with its entry written after the trace. -/
theorem ends_traced {act : EStateM Failure σ α} {entry : Except Failure α → HostCall} {w : σ}
    {trace : List HostCall} {ok : α → σ × List HostCall → Prop}
    {err : Failure → σ × List HostCall → Prop} :
    Ends (traced act entry) (w, trace) ok err =
      Ends act w (fun a w' => ok a (w', trace ++ [entry (.ok a)]))
        (fun e w' => err e (w', trace ++ [entry (.error e)])) := by
  simp only [Ends, traced]
  cases act w <;> rfl

theorem KeepsModes.traced {act : EStateM Failure σ α} (hk : H.KeepsModes act)
    (entry : Except Failure α → HostCall) : H.tracing.KeepsModes (Host.traced act entry) := by
  intro w
  obtain ⟨w, trace⟩ := w
  rw [ends_traced]
  simpa using hk w

/-- Writing the calls down changes no mode, so a tracing host keeps to the laws its host keeps
to. -/
theorem ModeLaws.tracing (hL : H.ModeLaws) : H.tracing.ModeLaws where
  create family type proto w := by
    obtain ⟨w, trace⟩ := w
    rw [tracing_create, ends_traced]
    simpa using hL.create family type proto w
  accept h w := by
    obtain ⟨w, trace⟩ := w
    rw [tracing_accept, ends_traced]
    simpa using hL.accept h w
  close h w := by
    obtain ⟨w, trace⟩ := w
    rw [tracing_close, ends_traced]
    simpa using hL.close h w
  setBlocking h b w := by
    obtain ⟨w, trace⟩ := w
    rw [tracing_setBlocking, ends_traced]
    simpa using hL.setBlocking h b w
  shutdown h how := (hL.shutdown h how).traced fun _ => .shutdown h how
  setOption h opt v := (hL.setOption h opt v).traced fun _ => .setOption h opt
  bind h address := (hL.bind h address).traced fun _ => .bind h
  listen h backlog := (hL.listen h backlog).traced fun _ => .listen h
  connect h address := (hL.connect h address).traced fun _ => .connect h
  sockName h := (hL.sockName h).traced fun _ => .sockName h
  pendingError h := (hL.pendingError h).traced fun _ => .pendingError h
  recv h size nowait := (hL.recv h size nowait).traced fun _ => .recv h size nowait
  recvFrom h size := (hL.recvFrom h size).traced fun _ => .recvFrom h size
  send h data := (hL.send h data).traced (.send h data)
  sendTo h data address := (hL.sendTo h data address).traced fun _ => .sendTo h data
  select readable writable wait := (hL.select readable writable wait).traced
    (.select readable writable)
  unlink path := (hL.unlink path).traced (.unlink path)
  resolve host port hints := (hL.resolve host port hints).traced fun _ => .resolve
  setUp d asServer := (hL.setUp d asServer).traced fun _ => .setUp d asServer
  tearDown d := (hL.tearDown d).traced (.tearDown d)
  onAccept d h := (hL.onAccept d h).traced fun _ => .onAccept d
  onConnect d h := (hL.onConnect d h).traced fun _ => .onConnect d
  delegateSend d h data := (hL.delegateSend d h data).traced (.delegateSend d data)
  delegateRecv d h size := (hL.delegateRecv d h size).traced fun _ => .delegateRecv d size

end Host

/-! ## Candidates -/

namespace SocketType

/-- The internet protocol of a type of socket: streams run over TCP, datagrams over UDP. -/
def transport : SocketType → Protocol
  | .stream => .tcp
  | .datagram => .udp

end SocketType

namespace Resolved

/-- A candidate fit for a socket of type `t`: an endpoint of that type, of any family but the
Unix domain's, over the type's own protocol or over protocol 0, which leaves the protocol to the
type. -/
def Fits (t : SocketType) (r : Resolved) : Prop :=
  r.family ≠ Family.unix.value ∧ r.socketType = t.value ∧
    (r.protocol = 0 ∨ r.protocol = t.transport.value)

/-- The family, type and protocol numbers of the trial a candidate makes. -/
def kind (r : Resolved) : Int × Int × Int := (r.family, r.socketType, r.protocol)

/-- The family of the endpoint, for a candidate of an internet family. -/
def internetFamily (r : Resolved) : Family := if r.isInet6 then .inet6 else .inet

/-- The address of the endpoint. -/
def address (r : Resolved) : Address Value :=
  if r.isInet6 then .inet6 (.ofString r.hostText) (.int r.port) (.int 0) (.int r.scopeId)
  else .inet (.ofString r.hostText) (.int r.port)

/-- The signature of the endpoint a fitting candidate reaches, for the host and port asked for. -/
def signature (r : Resolved) (t : SocketType) (host port : Value) : Signature :=
  { family := r.internetFamily, type := t, protocol := t.transport, address := .addr r.address,
    hostname := host, port := port }

/-- The protocol number a connect gives the signature: the candidate's, or the type's own when the
candidate leaves it open. -/
def protocolFor (r : Resolved) (t : SocketType) : Int :=
  if r.protocol != 0 then r.protocol
  else if t == .stream then Protocol.tcp.value else Protocol.udp.value

/-- The protocol number as a connect writes it out. -/
theorem protocolFor_eq (r : Resolved) (t : SocketType) :
    (if (r.protocol != 0) = true then r.protocol
      else if (t == .stream) = true then Protocol.tcp.value else Protocol.udp.value) =
      r.protocolFor t := rfl

theorem protocolFor_fits {r : Resolved} {t : SocketType} (hr : r.Fits t) :
    r.protocolFor t = t.transport.value := by
  obtain ⟨-, -, hp | hp⟩ := hr <;> cases t <;> simp [protocolFor, hp, SocketType.transport]

/-- A family the library knows is one of its three. -/
theorem known_iff (r : Resolved) : r.known = true ↔ r.family = Family.inet.value ∨
    r.family = Family.inet6.value ∨ r.family = Family.unix.value := by
  simp [known, Family.ofValue?, Family.all, Family.value, Value.equals, Value.equalsScalar,
    Value.tupleItems?, Value.asBytes?, Value.asInt?]

/-- A known family other than the Unix domain's is an internet one, and the candidate is of
that family. -/
theorem family_of_known {r : Resolved} (hk : r.known = true) (hr : r.family ≠ Family.unix.value) :
    r.family = r.internetFamily.value := by
  rcases (known_iff r).1 hk with h | h | h
  · simp [internetFamily, isInet6, h, Family.value]
  · simp [internetFamily, isInet6, h]
  · exact absurd h hr

/-- The native tuple of an internet endpoint reads back as its address. -/
theorem ofNative_sockaddr {r : Resolved} (hk : r.known = true) (hr : r.family ≠ Family.unix.value) :
    Address.ofNative r.sockaddr (.int r.family) = .ok r.address := by
  rw [family_of_known hk hr]
  obtain ⟨family, type, proto, host, port, scope⟩ := r
  by_cases h6 : family = Family.inet6.value <;>
    simp_all [Address.ofNative, sockaddr, address, internetFamily, isInet6, Family.ofValue?_value,
      Address.sliceItems, Value.items?, Address.build, Address.fieldNames, Address.required, bind,
      Except.bind]

/-- The signature of the endpoint a fitting candidate of a known family reaches, for a host and a
port that are given. -/
theorem forEndpoint_fits {r : Resolved} {t : SocketType} {host port : Value} (hk : r.known = true)
    (hr : r.Fits t) (hhost : host ≠ .none) (hport : port ≠ .none) :
    Signature.forEndpoint (.int r.family) (.int r.socketType) (.int (r.protocolFor t))
      (.addr r.address) host port = .ok (r.signature t host port) := by
  rw [protocolFor_fits hr, hr.2.1, family_of_known hk hr.1]
  cases host <;> cases port <;> cases t <;>
    simp_all [Signature.forEndpoint, Family.ofValue?_value, SocketType.ofValue?_value,
      Protocol.ofValue?_value, SocketType.transport, signature,
      @Signature.checkTypeAndProtocol_of_pair .stream .tcp (.inr rfl),
      @Signature.checkTypeAndProtocol_of_pair .datagram .udp (.inr rfl), bind, Except.bind]

end Resolved

namespace Host

variable {σ : Type} (H : Host σ)

/-- The laws a connect relies on beyond those of modes: closing a native socket lets it go,
whatever the close answers, and a lookup for a type of socket answers candidates fit for it. -/
structure DialLaws : Prop where
  close : ∀ h w, Ends (H.close h) w (fun _ w' => H.modes w' h = none)
    (fun _ w' => H.modes w' h = none)
  resolve : ∀ host port (t : SocketType) w, Ends (H.resolve host port { socketType := t.value }) w
    (fun rs _ => ∀ r ∈ rs, r.Fits t) (fun _ _ => True)

variable {H}

theorem DialLaws.tracing (hD : H.DialLaws) : H.tracing.DialLaws where
  close h w := by
    obtain ⟨w, trace⟩ := w
    rw [tracing_close, ends_traced]
    simpa using hD.close h w
  resolve host port t w := by
    obtain ⟨w, trace⟩ := w
    rw [tracing_resolve, ends_traced]
    simpa using hD.resolve host port t w

end Host

/-! ## The trials, in order -/

namespace HostCall

/-- The family, type and protocol numbers of the native socket a call made, for a call that
makes one. -/
@[simp] def made? : HostCall → Option (Int × Int × Int)
  | .create family type proto => some (family, type, proto)
  | _ => none

end HostCall

namespace Socket

/-- The native sockets a trace shows made, in order, by family, type and protocol. -/
def madeIn (trace : List HostCall) : List (Int × Int × Int) := trace.filterMap HostCall.made?

@[simp] theorem madeIn_append (a b : List HostCall) : madeIn (a ++ b) = madeIn a ++ madeIn b :=
  List.filterMap_append

@[simp] theorem madeIn_nil : madeIn [] = [] := rfl

@[simp] theorem madeIn_cons (c : HostCall) (trace : List HostCall) :
    madeIn (c :: trace) = c.made?.toList ++ madeIn trace := by
  cases h : c.made? <;> simp only [madeIn, List.filterMap_cons, h, Option.toList_none,
    Option.toList_some, List.nil_append, List.singleton_append]

/-- The failure of a connect once every candidate failed: the reason of the last failure, or that
there was no address. -/
def exhausted (last : Option Failure) : Failure :=
  Failure.code .connectFailed (some ((last.map Failure.reason).getD "No address found."))

/-- The calls `trials` made the trials of those of the first `m` candidates of `rs` whose
family the library knows, in order. -/
def Tried (rs : List Resolved) (trials : List HostCall) (m : Nat) : Prop :=
  madeIn trials = ((rs.take m).filter Resolved.known).map Resolved.kind

/-- How trials that stopped after `m` of the candidates `rs`, making the calls `trials`, failed
with `e`: every candidate was tried and none connected, or the last trial made failed otherwise
than by an OS error, or could not be let go. -/
def Stopped (rs : List Resolved) (m : Nat) (e : Failure) (trials : List HostCall) : Prop :=
  m = rs.length ∧ (∃ last, e = exhausted last) ∨
    0 < m ∧ (e.isOsError = false ∨ ∃ t, trials.getLast? = some (.close t (.error e)))

/-- The trials of the candidates after `r`, made after the trial of `r`. -/
theorem Tried.cons {r : Resolved} {rest : List Resolved} {first more : List HostCall} {m : Nat}
    (hk : r.known = true) (h₁ : madeIn first = [r.kind]) (h : Tried rest more m) :
    Tried (r :: rest) (first ++ more) (m + 1) := by
  unfold Tried at h ⊢
  rw [madeIn_append, h, h₁]
  simp [hk]

/-- A candidate of a family the library does not know makes no trial. -/
theorem Tried.skip {r : Resolved} {rest : List Resolved} {more : List HostCall} {m : Nat}
    (hk : r.known = false) (h : Tried rest more m) : Tried (r :: rest) more (m + 1) := by
  unfold Tried at h ⊢
  simp [h, hk]

/-- The trials of the first candidates after `r` stopped as the trials from `r` on stopped. -/
theorem Stopped.cons {r : Resolved} {rest : List Resolved} {m : Nat} {e : Failure}
    {first more : List HostCall} (h : Stopped rest m e more) :
    Stopped (r :: rest) (m + 1) e (first ++ more) := by
  refine h.imp (fun h => ⟨by simp [h.1], h.2⟩) (fun h => ⟨Nat.succ_pos m, ?_⟩)
  obtain ⟨-, hos | ⟨t, hlast⟩⟩ := h
  · exact .inl hos
  · exact .inr ⟨t, by simp [List.getLast?_append, hlast]⟩

variable {σ : Type} (H : Host σ)

/-- Connecting a trial makes no native socket. -/
theorem connectTrial_makes_none (trial : Handle) (sockaddr : Value) (timeout : Int)
    (st : Socket × (σ × List HostCall)) :
    Ends (connectTrial H.tracing trial sockaddr timeout) st
      (fun _ st' => ∃ calls, st'.2.2 = st.2.2 ++ calls ∧ madeIn calls = [])
      (fun _ st' => ∃ calls, st'.2.2 = st.2.2 ++ calls ∧ madeIn calls = []) := by
  simp only [connectTrial, pollFor, ↓ends_bind, ↓ends_current, ↓ends_ite, ↓ends_system,
    ↓ends_attempt, ↓ends_orCode, Host.tracing_setBlocking, Host.tracing_connect,
    Host.tracing_select, Host.tracing_pendingError, ↓ends_sys_traced, ↓ends_pure, ↓ends_throw]
  simp +contextual

/-- The trials made are those of the first candidates of a family the library knows, in order:
up to the one that connected, or, on a failure, up to where the trials stopped. A candidate is
given up on an OS error only, so the trials stop before the last candidate only on a failure of
another kind, or when a trial cannot be let go. -/
theorem firstConnection_in_order (timeout : Int) (rs : List Resolved) (last : Option Failure)
    (st : Socket × (σ × List HostCall)) :
    Ends (firstConnection H.tracing timeout rs last) st
      (fun tr st' => ∃ k trials, rs[k]? = some tr.2 ∧ tr.2.known = true ∧
        st'.2.2 = st.2.2 ++ trials ∧ Tried rs trials (k + 1))
      (fun e st' => ∃ m trials, st'.2.2 = st.2.2 ++ trials ∧ Tried rs trials m ∧
        Stopped rs m e trials) := by
  induction rs generalizing last st with
  | nil => exact ⟨0, [], by simp, by simp [Tried], .inl ⟨rfl, last, rfl⟩⟩
  | cons r rest ih =>
    cases hk : r.known with
    | false =>
      -- a candidate of a family the library does not know is passed over
      simp only [firstConnection, hk, Bool.not_false, if_true]
      refine ends_mono (ih last st) (fun tr st' h' => ?_) (fun e st' h' => ?_)
      · obtain ⟨k, trials, hfound, hknown, htr, htried⟩ := h'
        exact ⟨k + 1, trials, by simpa using hfound, hknown, htr, htried.skip hk⟩
      · obtain ⟨m, trials, htr, htried, hstopped⟩ := h'
        have hstopped' := @Stopped.cons r rest m e [] trials hstopped
        exact ⟨m + 1, trials, htr, htried.skip hk, by simpa using hstopped'⟩
    | true =>
      simp only [firstConnection, hk, Bool.not_true, Bool.false_eq_true, if_false, ↓ends_bind,
        ↓ends_attempt, Host.tracing_create, Host.tracing_close, ↓ends_sys_traced, ↓ends_pure,
        ↓ends_ite, ↓ends_throw, ↓ends_of (fun st => connectTrial_makes_none H _ _ _ st)]
      -- the calls of trying `r` make its trial, and no other
      set c := HostCall.create r.family r.socketType r.protocol with hc
      have hmade : ∀ calls : List HostCall, madeIn calls = [] → madeIn (c :: calls) = [r.kind] :=
        fun calls h => by simp [hc, h, Resolved.kind]
      -- the trials stop at `r`
      have hstop : ∀ (e : Failure) (first : List HostCall), madeIn first = [r.kind] →
          (e.isOsError = false ∨ ∃ t, first.getLast? = some (.close t (.error e))) →
          ∃ m trials, st.2.2 ++ first = st.2.2 ++ trials ∧ Tried (r :: rest) trials m ∧
            Stopped (r :: rest) m e trials :=
        fun e first h hs => ⟨1, first, rfl, by simp [Tried, h, hk], .inr ⟨Nat.one_pos, hs⟩⟩
      -- or the trials of `rest` follow
      have hnext : ∀ (first : List HostCall) (st₃ : Socket × (σ × List HostCall)),
          st₃.2.2 = st.2.2 ++ first → madeIn first = [r.kind] → ∀ last',
          Ends (firstConnection H.tracing timeout rest last') st₃
            (fun tr st' => ∃ k trials, (r :: rest)[k]? = some tr.2 ∧ tr.2.known = true ∧
              st'.2.2 = st.2.2 ++ trials ∧ Tried (r :: rest) trials (k + 1))
            (fun e st' => ∃ m trials, st'.2.2 = st.2.2 ++ trials ∧ Tried (r :: rest) trials m ∧
              Stopped (r :: rest) m e trials) := by
        intro first st₃ htr hfirst last'
        refine ends_mono (ih last' st₃) (fun tr st' h' => ?_) (fun e st' h' => ?_)
        · obtain ⟨k, more, hfound, hknown, htr', htried⟩ := h'
          exact ⟨k + 1, first ++ more, by simpa using hfound, hknown, by simp [htr', htr],
            htried.cons hk hfirst⟩
        · obtain ⟨m, more, htr', htried, hstopped⟩ := h'
          exact ⟨m + 1, first ++ more, by simp [htr', htr], htried.cons hk hfirst, hstopped.cons⟩
      refine ⟨fun t w₁ _ => ⟨fun _ st₂ _ h₂ => ?_, fun f st₂ _ h₂ => ?_⟩, fun f w₁ _ => ?_⟩
      · -- the trial connected
        obtain ⟨calls, htr₂, hcalls⟩ := h₂
        exact ⟨0, c :: calls, by simp, trivial, by simp [htr₂],
          by simp [Tried, hmade calls hcalls, hk]⟩
      · -- the trial failed and is let go: on an OS error the next candidate is tried
        obtain ⟨calls, htr₂, hcalls⟩ := h₂
        refine ⟨fun _ w₃ _ => ?_, fun e w₃ _ => ?_⟩
        · split
          · exact hnext (c :: calls ++ [.close t (.ok ())]) _ (by simp [htr₂])
              (by simp [hc, hcalls, Resolved.kind]) _
          next hos =>
            obtain ⟨m, trials, htr, htried, hstopped⟩ := hstop f (c :: calls ++ [.close t (.ok ())])
              (by simp [hc, hcalls, Resolved.kind]) (.inl (by simpa using hos))
            exact ⟨m, trials, by simp [← htr, htr₂], htried, hstopped⟩
        · obtain ⟨m, trials, htr, htried, hstopped⟩ := hstop e (c :: calls ++ [.close t (.error e)])
            (by simp [hc, hcalls, Resolved.kind]) (.inr ⟨t, List.getLast?_concat⟩)
          exact ⟨m, trials, by simp [← htr, htr₂], htried, hstopped⟩
      · -- no trial could be made: on an OS error the next candidate is tried
        split
        · exact hnext [c] _ rfl (hmade [] rfl) _
        next hos =>
          exact hstop f [c] (hmade [] rfl) (.inl (by simpa using hos))

/-! ## Letting the trials go -/

/-- The mode a trial is given: a trial of a socket that blocks and has no timeout blocks, any
other is made non-blocking. -/
def trialMode (blocking : Bool) (timeout : Int) : Bool := !(!blocking || decide (timeout > 0))

/-- A trial made by a socket that gives no timeout, or that does not block, keeps the
socket's own mode. -/
theorem trialMode_of_kept {blocking : Bool} {timeout : Int}
    (h : (blocking && decide (timeout > 0)) = false) : trialMode blocking timeout = blocking := by
  cases blocking <;> simp_all [trialMode]

/-- A native socket that was closed in `w` and is closed again in `w'`, with no other native
socket changed, leaves every native socket as it was. -/
theorem modes_of_released {σ : Type} {H : Host σ} {t : Handle} {w w' : σ}
    (hfresh : H.modes w t = none) (hgone : H.modes w' t = none)
    (hothers : ∀ h, t ≠ h → H.modes w' h = H.modes w h) (h : Handle) :
    H.modes w' h = H.modes w h := by
  by_cases ht : t = h
  · rw [← ht, hgone, hfresh]
  · exact hothers h ht

section Laws

variable {σ : Type} {H : Host σ} (hL : H.ModeLaws) (hD : H.DialLaws)
include hL hD

/-- Every trial but the one that connects is let go. The one that connected was closed before it
was made, has the mode of a trial, and is the only native socket that changed; a failure changes
none. -/
theorem firstConnection_lets_go (timeout : Int) (rs : List Resolved) (last : Option Failure)
    (st : Socket × σ) :
    Ends (firstConnection H timeout rs last) st
      (fun tr st' => st'.1 = st.1 ∧ H.modes st.2 tr.1 = none ∧
        H.Agrees tr.1 (trialMode st.1.blocking timeout) st'.2 ∧
        ∀ h, tr.1 ≠ h → H.modes st'.2 h = H.modes st.2 h)
      (fun _ st' => st'.1 = st.1 ∧ ∀ h, H.modes st'.2 h = H.modes st.2 h) := by
  induction rs generalizing last st with
  | nil => simp [firstConnection, ends_throw]
  | cons r rest ih =>
    cases hk : r.known with
    | false =>
      -- a candidate of a family the library does not know is passed over
      simp only [firstConnection, hk, Bool.not_false, if_true]
      exact ih last st
    | true =>
      simp only [firstConnection, hk, Bool.not_true, Bool.false_eq_true, if_false, ↓ends_bind,
        ↓ends_attempt, ↓ends_sys_of (hL.create _ _ _),
        ↓ends_sys_of (fun w => ends_and (hD.close _ w) (hL.close _ w)), ↓ends_pure, ↓ends_ite,
        ↓ends_throw,
        ↓ends_of (fun st => ends_and (connectTrial_fixes H _ _ _ st) (connectTrial_spec hL _ _ _))]
      -- the next candidate's trials, from where nothing changed, end as this one's would
      have hnext : ∀ st₃ : Socket × σ, st₃.1 = st.1 → (∀ h, H.modes st₃.2 h = H.modes st.2 h) →
          ∀ last', Ends (firstConnection H timeout rest last') st₃
            (fun tr st' => st'.1 = st.1 ∧ H.modes st.2 tr.1 = none ∧
              H.Agrees tr.1 (trialMode st.1.blocking timeout) st'.2 ∧
              ∀ h, tr.1 ≠ h → H.modes st'.2 h = H.modes st.2 h)
            (fun _ st' => st'.1 = st.1 ∧ ∀ h, H.modes st'.2 h = H.modes st.2 h) := by
        intro st₃ hs₃ hw₃ last'
        refine ends_mono (ih last' st₃) (fun tr st' h' => ?_)
          (fun _ st' h' => ⟨h'.1.trans hs₃, fun h => (h'.2 h).trans (hw₃ h)⟩)
        obtain ⟨hs', hfresh, hmode, hkept⟩ := h'
        exact ⟨hs'.trans hs₃, (hw₃ tr.1).symm.trans hfresh, hs₃ ▸ hmode,
          fun h hne => (hkept h hne).trans (hw₃ h)⟩
      refine ⟨fun trial w₁ _ hmade => ?_, fun _ w₁ _ hkept => ?_⟩
      · obtain ⟨hfresh, hblocks, hothers⟩ := hmade
        refine ⟨fun _ st₂ _ h₂ => ?_, fun _ st₂ _ h₂ => ?_⟩
        · -- the trial connected, and only it changed
          obtain ⟨hs₂, -, -, hkept₂, hmode₂⟩ := h₂
          exact ⟨hs₂, hfresh, hs₂ ▸ hmode₂ hblocks,
            fun h hne => (hkept₂ h hne).trans (hothers h (Ne.symm hne))⟩
        · -- the trial failed and is let go, whatever the close answers
          obtain ⟨hs₂, -, -, hkept₂⟩ := h₂
          have hgone : ∀ w₃ : σ, H.modes w₃ trial = none ∧
              (∀ h, trial ≠ h → H.modes w₃ h = H.modes st₂.2 h) →
              ∀ h, H.modes w₃ h = H.modes st.2 h :=
            fun w₃ h₃ => modes_of_released hfresh h₃.1 fun h hne =>
              (h₃.2 h hne).trans ((hkept₂ h hne).trans (hothers h (Ne.symm hne)))
          refine ⟨fun _ w₃ _ h₃ => ?_, fun _ w₃ _ h₃ => ⟨hs₂, hgone w₃ h₃⟩⟩
          split
          · exact hnext (st₂.1, w₃) hs₂ (hgone w₃ h₃) _
          · exact ⟨hs₂, hgone w₃ h₃⟩
      · -- no trial was made, and nothing changed
        split
        · exact hnext (st.1, w₁) rfl hkept _
        · exact ⟨trivial, hkept⟩

omit hL in
/-- Closing a native socket lets it go, whatever the shutdown and the close answer. -/
theorem closeNative_releases (native : Option Handle) (listening : Bool) (st : Socket × σ) :
    Ends (closeNative H native listening) st
      (fun _ st' => ∀ h, native = some h → H.modes st'.2 h = none)
      (fun _ st' => ∀ h, native = some h → H.modes st'.2 h = none) := by
  cases native with
  | none => simp [closeNative]
  | some h =>
    cases listening <;> simp +contextual [closeNative, ends_bind, ends_attempt,
      ends_sys_of (hD.close _)]

/-- Closing lets the socket's native socket go, whatever fails on the way. -/
theorem closeWith_releases (teardown : Bool) (st : Socket × σ) :
    Ends (closeWith H teardown) st (fun _ st' => ∀ h, st.1.native = some h → H.modes st'.2 h = none)
      (fun _ st' => ∀ h, st.1.native = some h → H.modes st'.2 h = none) := by
  cases hd : st.1.delegate <;>
    simp only [closeWith, hd, ↓ends_bind, ↓ends_current, ↓ends_change, ↓ends_attempt, ↓ends_ite,
      ↓ends_pure, ↓ends_throw, ↓ends_of_calm (callDelegate_calm (hL.tearDown _)),
      ↓ends_of (fun st => closeNative_releases hD _ _ st),
      ↓ends_of_calm (removeOwnedPath_calm hL)] <;>
    simp +contextual [Calm]

end Laws

/-! ## Taking over -/

variable {σ : Type} (H : Host σ)

/-- The socket `s` with its delegate prepared. -/
def prepared (s : Socket) : Socket :=
  { s with delegateReady := s.delegateReady || s.delegate.isSome }

theorem prepared_of_none {s : Socket} (hd : s.delegate = none) : s.prepared = s := by
  cases s
  simp_all [prepared]

/-- The socket `s` connected over the native socket `t` under the signature `g`: its delegate
prepared, no longer listening, with nothing stored and no node of its own. -/
def dialed (s : Socket) (t : Handle) (g : Signature) : Socket :=
  { s.prepared with
    native := some t, signature := g, connected := true, listening := false,
    remoteClosed := false, storage := [], ownedPath := none }

/-- Closing the prepared socket without undoing the preparation, then connecting the trial `t`
under `g`, gives the dialed socket. -/
theorem afterClose_connected (s : Socket) (t : Handle) (g : Signature) :
    { s.prepared.afterClose false none with
      native := some t, signature := g, connected := true, remoteClosed := false } =
      s.dialed t g := by
  simp [dialed, prepared, afterClose]

/-- The calls preparing the delegate of `s` as a client make. -/
def prepareCalls (s : Socket) : List HostCall := s.delegate.toList.map fun d => .setUp d false

@[simp] theorem madeIn_prepareCalls (s : Socket) : madeIn (prepareCalls s) = [] := by
  cases h : s.delegate <;> simp [prepareCalls, h]

/-- The system `w₁` that preparing the delegate of `s` as a client leaves, from `w`. -/
def Prepared (s : Socket) (w w₁ : σ) : Prop :=
  match s.delegate with
  | some d => H.delegates.setUp d false w = .ok () w₁
  | none => w₁ = w

/-- The lookup of `host` and `port` for sockets of the type of `s` answered `rs`, once the
delegate of `s` was prepared from `w`. -/
def Looked (s : Socket) (w : σ) (host port : Value) (rs : List Resolved) : Prop :=
  ∃ w₁ w₂, Prepared H s w w₁ ∧
    H.resolve host port { socketType := s.signature.type.value } w₁ = .ok rs w₂

/-- The call making a trial block again, for a socket that blocks and gave a timeout. -/
def restoreCalls (blocking : Bool) (ms : Int) (t : Handle) : List HostCall :=
  if blocking && decide (ms > 0) then [.setBlocking t true] else []

/-- The call of a delegate's connect hook. -/
def connectHookCalls (d : Option String) : List HostCall := d.toList.map .onConnect

theorem ends_attempt_pure {α : Type} {a : α} {st : Socket × σ}
    {ok : Except Failure α → Socket × σ → Prop} {err : Failure → Socket × σ → Prop} :
    Ends (attempt (pure a : SocketM σ α)) st ok err = ok (.ok a) st := rfl

/-- Closing without undoing the delegate's preparation, on a tracing host: the calls are those
letting the native socket and the node go, and the failure is theirs. -/
theorem closeWith_kept_answered (s : Socket) (w : σ) (trace : List HostCall) :
    Ends (closeWith H.tracing false) (s, (w, trace))
      (fun _ st' => ∃ released unlinked, releaseResult s released unlinked = .ok () ∧
        st'.1.ownedPath = keptNode s released ∧ st'.2.2 = trace ++ releaseCalls s released unlinked)
      (fun e st' => ∃ released unlinked, releaseResult s released unlinked = .error e ∧
        st'.2.2 = trace ++ releaseCalls s released unlinked) := by
  simp only [closeWith, ↓ends_bind, ↓ends_current, ↓ends_change, Bool.false_and,
    Bool.false_eq_true, if_false, ends_attempt_pure]
  refine ends_mono (release_traced H s rfl) ?_ (fun _ _ h => False.elim h)
  rintro second st₂ ⟨released, unlinked, rfl, hnode, htr⟩
  cases hrel : releaseResult s released unlinked <;> simp [ends_throw, ends_pure]
  · exact ⟨released, unlinked, hrel, htr⟩
  · exact ⟨released, unlinked, hrel, hnode, htr⟩

/-- Letting a native socket go succeeded only if closing it did. -/
theorem released_of_ok {s : Socket} {released unlinked : Except Failure Unit}
    (hn : s.native.isSome) (h : releaseResult s released unlinked = .ok ()) :
    released = .ok () := by
  cases released <;> simp_all [releaseResult, nativeRefused]

section Handing

variable {H}

/-- Letting the old native socket `h₀` go before a trial takes its place: the calls let it and
its node go without undoing the delegate's preparation, and on success the socket is closed and
owns no node. Whatever the calls answer, `h₀` is let go and no other native socket changes. -/
theorem closeWith_hands_over (hL : H.ModeLaws) (hD : H.DialLaws) {s : Socket} {h₀ : Handle}
    (hn : s.native = some h₀) (w : σ) (trace : List HostCall) :
    Ends (closeWith H.tracing false) (s, (w, trace))
      (fun _ st' => st'.1 = s.afterClose false none ∧
        (∃ unlinked, st'.2.2 = trace ++ releaseCalls s (.ok ()) unlinked) ∧
        H.modes st'.2.1 h₀ = none ∧ ∀ h, h ≠ h₀ → H.modes st'.2.1 h = H.modes w h)
      (fun _ st' => st'.1.native = none ∧ st'.1.connected = false ∧
        H.modes st'.2.1 h₀ = none ∧ ∀ h, h ≠ h₀ → H.modes st'.2.1 h = H.modes w h) := by
  have hall := ends_and
    (ends_and (closeWith_kept_answered H s w trace)
      (closeWith_lands H.tracing false (s, (w, trace))))
    (ends_and (closeWith_spec hL.tracing false)
      (closeWith_releases hL.tracing hD.tracing false (s, (w, trace))))
  refine ends_mono hall ?_ ?_
  · rintro - ⟨s₁, w₁, tr₁⟩ ⟨⟨⟨released, unlinked, hres, hnode, htr⟩, hland⟩, ⟨-, -, hkept⟩, hgone⟩
    obtain rfl := released_of_ok (by simp [hn]) hres
    simp only [keptNode, nativeRefused, Bool.false_eq_true, if_false] at hnode
    refine ⟨by rw [hland, hnode], ⟨unlinked, htr⟩, by simpa using hgone h₀ hn,
      fun h hne => by simpa using hkept h (by rw [hn]; exact fun e => hne (Option.some.inj e).symm)⟩
  · rintro - ⟨s₁, w₁, tr₁⟩ ⟨⟨-, hland⟩, ⟨hn₁, -, hkept⟩, hgone⟩
    refine ⟨hn₁, by rw [hland]; rfl, by simpa using hgone h₀ hn,
      fun h hne => by simpa using hkept h (by rw [hn]; exact fun e => hne (Option.some.inj e).symm)⟩

/-- The connect hook of the socket's delegate, on a tracing host: one call, and the socket
secure when it returns; a failure of the hook is raised as the delegate's. No native socket
changes. -/
theorem secureWith_traced (hL : H.ModeLaws) (s : Socket) (w : σ) (trace : List HostCall) :
    Ends (secureWith H.tracing.delegates.onConnect) (s, (w, trace))
      (fun _ st' => (s.delegate.isSome → st'.1 =
          { s with signature := { s.signature with isSecure := true } }) ∧
        (s.delegate = none → st'.1 = s) ∧
        st'.2.2 = trace ++ connectHookCalls s.delegate ∧ ∀ h, H.modes st'.2.1 h = H.modes w h)
      (fun e st' => (∃ d eH, s.delegate = some d ∧
          H.delegates.onConnect d s.native w = .error eH st'.2.1 ∧ e = delegated eH) ∧
        st'.1 = s ∧ st'.2.2 = trace ++ connectHookCalls s.delegate ∧
        ∀ h, H.modes st'.2.1 h = H.modes w h) := by
  rw [ends_secureWith]
  cases hd : s.delegate with
  | none => simp [connectHookCalls]
  | some d =>
    have hk := hL.onConnect d s.native w
    rw [ends_eq] at hk
    simp +contextual [hd, connectHookCalls, ends_sys_traced, hk.1, hk.2]

end Handing

/-! ## The contract -/

/-- A socket that passes the checks of connecting to `host` at `port` with the timeout
`timeout`: open on `h₀`, not connected, with a host given, a port in `1..65535`, and a timeout of
`ms` milliseconds, not negative. -/
structure Dialable (s : Socket) (w : σ) (h₀ : Handle) (host port timeout : Value) (ms : Int) :
    Prop where
  native : s.native = some h₀
  isOpen : 0 ≤ H.fileno h₀ w
  notConnected : s.connected = false
  named : host.truthy = true
  portOk : Checks.portOk port false = .ok true
  timeout : timeout.asInt? = some ms
  nonnegative : 0 ≤ ms

/-- What a connect of `s`, from `w` after `trace`, leaves in `st'` once a trial connected: the
lookup answered `rs`, and the trial `t` of the candidate `r = rs[k]` connected after the trials
of the candidates before it. The old native socket `h₀` was let go without undoing the delegate's
preparation, `t` took its place with the socket's mode, under the endpoint's signature, and the
delegate's connect hook ran last; the socket is secure when it returned (`secure`). -/
structure Dialed (s : Socket) (w : σ) (h₀ : Handle) (trace : List HostCall) (host port : Value)
    (ms : Int) (rs : List Resolved) (k : Nat) (r : Resolved) (t : Handle) (secure : Bool)
    (st' : Socket × (σ × List HostCall)) : Prop where
  looked : Looked H s w host port rs
  found : rs[k]? = some r
  known : r.known = true
  calls : ∃ trials unlinked, Tried rs trials (k + 1) ∧
    st'.2.2 = trace ++ prepareCalls s ++ [.resolve] ++ trials ++ releaseCalls s (.ok ()) unlinked ++
      restoreCalls s.blocking ms t ++ connectHookCalls s.delegate
  socket : st'.1 = s.dialed t { (r.signature s.signature.type host port) with isSecure := secure }
  fresh : H.modes w t = none
  mode : H.Agrees t s.blocking st'.2.1
  released : H.modes st'.2.1 h₀ = none
  spared : ∀ h, h ≠ t → h ≠ h₀ → H.modes st'.2.1 h = H.modes w h

/-- What a connect of `s` that failed before a trial took over leaves in `st'`, from `w` after
`trace`, having raised `e`: the socket as it was, but for its delegate's preparation; every
native socket as it was; and the calls of preparing the delegate, of the lookup, and of the
trials of the first candidates the lookup answered, stopped as `Stopped` says. -/
structure Undialed (s : Socket) (w : σ) (trace : List HostCall) (host port : Value) (e : Failure)
    (st' : Socket × (σ × List HostCall)) : Prop where
  socket : st'.1 = s ∨ st'.1 = s.prepared
  spared : ∀ h, H.modes st'.2.1 h = H.modes w h
  calls : st'.2.2 = trace ++ prepareCalls s ∨ st'.2.2 = trace ++ prepareCalls s ++ [.resolve] ∨
    ∃ rs m trials, Looked H s w host port rs ∧
      st'.2.2 = trace ++ prepareCalls s ++ [.resolve] ++ trials ∧ Tried rs trials m ∧
      Stopped rs m e trials

/-- What a connect leaves in `st'` when it failed after the trial `t` took the place of the old
native socket `h₀`, letting `h₀` go or making `t` block again having failed: `h₀` is let go all
the same, `t` is the socket's, unconnected, and no other native socket changed. -/
structure TookOver (w : σ) (h₀ t : Handle) (st' : Socket × (σ × List HostCall)) : Prop where
  native : st'.1.native = some t
  notConnected : st'.1.connected = false
  fresh : H.modes w t = none
  released : H.modes st'.2.1 h₀ = none
  spared : ∀ h, h ≠ t → h ≠ h₀ → H.modes st'.2.1 h = H.modes w h

/-- The connect hook of the delegate of `s`, run on the trial `t`, failed and left the system of
`st'`, and `e` is its failure as the delegate's. -/
def HookRefused (s : Socket) (t : Handle) (e : Failure) (st' : Socket × (σ × List HostCall)) :
    Prop :=
  ∃ d eH w₅, s.delegate = some d ∧ H.delegates.onConnect d (some t) w₅ = .error eH st'.2.1 ∧
    e = delegated eH

variable {H}

variable {s : Socket} {w : σ} {h₀ : Handle} {host port timeout : Value} {ms : Int}

theorem Dialable.host_ne (hs : Dialable H s w h₀ host port timeout ms) : host ≠ .none := by
  have hnamed := hs.named
  rintro rfl
  simp [Value.truthy] at hnamed

theorem Dialable.port_ne (hs : Dialable H s w h₀ host port timeout ms) : port ≠ .none := by
  have hport := hs.portOk
  rintro rfl
  simp [Checks.portOk, Checks.validatePort, Value.asInt?, Except.map] at hport

theorem validateTimeout_of {timeout : Value} {ms : Int} (h : timeout.asInt? = some ms)
    (h0 : 0 ≤ ms) : Checks.validateTimeout timeout = .ok timeout := by
  simp [Checks.validateTimeout, h, not_lt.2 h0]

/-- Preparing the delegate as a client, on a tracing host: one call, and no native socket
changed. -/
theorem prepareDelegate_traced (hL : H.ModeLaws) (s : Socket) (w : σ) (trace : List HostCall) :
    Ends (prepareDelegate H.tracing false) (s, (w, trace))
      (fun _ st' => st'.1 = s.prepared ∧ Prepared H s w st'.2.1 ∧
        st'.2.2 = trace ++ prepareCalls s ∧ ∀ h, H.modes st'.2.1 h = H.modes w h)
      (fun _ st' => st'.1 = s ∧ st'.2.2 = trace ++ prepareCalls s ∧
        ∀ h, H.modes st'.2.1 h = H.modes w h) := by
  rw [ends_prepareDelegate]
  cases hd : s.delegate with
  | none => simp [hd, Prepared, prepareCalls, prepared_of_none hd]
  | some d =>
    have hk := hL.setUp d false w
    rw [ends_eq] at hk
    simp +contextual [hd, Prepared, prepareCalls, prepared, ends_sys_traced, hk.1, hk.2]

/-- The delegate's connect hook ends a connect whose trial `t`, of the candidate `r = rs[k]`,
took the place of the old native socket `h₀`: from the dialed socket, after every call made up
to it, it leaves what `Dialed` says, the socket secure when the hook returned, and not secure
when it failed, whose failure is raised as the delegate's. -/
theorem secureWith_ends_dial (hL : H.ModeLaws) {rs : List Resolved} {k : Nat} {r : Resolved}
    {t : Handle} {trials : List HostCall} {unlinked : Except Failure Unit} {trace : List HostCall}
    {sock : Socket} {w₅ : σ} {tr₅ : List HostCall}
    (hlooked : Looked H s w host port rs) (hk : rs[k]? = some r) (hknown : r.known = true)
    (htried : Tried rs trials (k + 1))
    (hfresh : H.modes w t = none) (hag : H.Agrees t s.blocking w₅) (hgone : H.modes w₅ h₀ = none)
    (hspared : ∀ h, h ≠ t → h ≠ h₀ → H.modes w₅ h = H.modes w h)
    (hsock : sock = s.dialed t (r.signature s.signature.type host port))
    (htr : tr₅ = trace ++ prepareCalls s ++ [.resolve] ++ trials ++
      releaseCalls s (.ok ()) unlinked ++ restoreCalls s.blocking ms t) :
    Ends (secureWith H.tracing.delegates.onConnect) (sock, (w₅, tr₅))
      (fun _ st' => Dialed H s w h₀ trace host port ms rs k r t s.delegate.isSome st')
      (fun e st' => Dialed H s w h₀ trace host port ms rs k r t false st' ∧
        HookRefused H s t e st') := by
  subst hsock htr
  -- the hook leaves every native socket as it was, and only the socket's security can differ
  have hdialed : ∀ (st' : Socket × σ × List HostCall) (secure : Bool),
      st'.1 = s.dialed t { (r.signature s.signature.type host port) with isSecure := secure } →
      st'.2.2 = trace ++ prepareCalls s ++ [.resolve] ++ trials ++
        releaseCalls s (.ok ()) unlinked ++ restoreCalls s.blocking ms t ++
        connectHookCalls s.delegate →
      (∀ h, H.modes st'.2.1 h = H.modes w₅ h) →
      Dialed H s w h₀ trace host port ms rs k r t secure st' := by
    intro st' secure hsock htr hw'
    exact ⟨hlooked, hk, hknown, ⟨trials, unlinked, htried, htr⟩, hsock, hfresh,
      hag.of_modes_eq (hw' t),
      (hw' h₀).trans hgone, fun h hne hne₀ => (hw' h).trans (hspared h hne hne₀)⟩
  refine ends_mono (secureWith_traced hL _ w₅ _) (fun _ st' h' => ?_) (fun e st' h' => ?_)
  · obtain ⟨hsec, hplain, htr', hw'⟩ := h'
    refine hdialed st' _ ?_ htr' hw'
    cases hdel : s.delegate with
    | none => exact hplain hdel
    | some d => exact hsec (by simp [dialed, prepared, hdel])
  · obtain ⟨⟨d, eH, hd, hhook, he⟩, hsock, htr', hw'⟩ := h'
    exact ⟨hdialed st' false hsock htr' hw', d, eH, w₅, hd, hhook, he⟩

/-- A connect of a socket that passes its checks, on a tracing host that keeps to the laws of
modes and of dialing, either connects through the first candidate whose trial connected, secure
when the delegate's hook returned (`Dialed`); or fails in the hook, raising the hook's failure as
the delegate's, with the socket dialed but not secure (`HookRefused`); or fails before a trial took
over, leaking nothing (`Undialed`); or fails after a trial
took the old native socket's place, in letting the old one go or in making the trial block again
(`TookOver`). -/
theorem connect_tries_in_order (hL : H.ModeLaws) (hD : H.DialLaws)
    (hs : Dialable H s w h₀ host port timeout ms) (trace : List HostCall) :
    Ends (connect H.tracing host port timeout) (s, (w, trace))
      (fun _ st' => ∃ rs k r t, Dialed H s w h₀ trace host port ms rs k r t s.delegate.isSome st')
      (fun e st' => Undialed H s w trace host port e st' ∨
        (∃ rs k r t, Dialed H s w h₀ trace host port ms rs k r t false st' ∧
          HookRefused H s t e st') ∨
        ∃ t, TookOver H w h₀ t st') := by
  have hopen : ¬H.fileno h₀ w < 0 := not_lt.2 hs.isOpen
  simp only [connect, ↓ends_bind, ↓ends_checkDescriptor, ↓ends_current, ↓ends_rethrow,
    Host.tracing_fileno, hs.native, hopen, hs.notConnected, hs.named, hs.portOk,
    validateTimeout_of hs.timeout hs.nonnegative, hs.timeout, Option.some.injEq, forall_eq',
    Bool.false_eq_true, ↓reduceIte, Bool.not_true, Except.ok.injEq, Option.getD_some,
    reduceCtorEq, false_implies, implies_true, and_true]
  refine ends_mono (prepareDelegate_traced hL s w trace) (fun _ st₁ h₁ => ?_)
    (fun e st₁ h₁ => .inl ⟨.inl h₁.1, h₁.2.2, .inl h₁.2.1⟩)
  -- the delegate is prepared: the lookup follows
  obtain ⟨s₁, w₁, tr₁⟩ := st₁
  obtain ⟨rfl, hprep, rfl, hw₁⟩ := h₁
  simp only [↓ends_tryCatch, Host.tracing_resolve, ↓ends_sys_traced]
  refine ⟨fun rs w₂ hres => ?_, fun f w₂ hres => ?_⟩
  rotate_left
  · -- the lookup failed: nothing else was called
    have hw₂ := err_of_ends (hL.resolve host port _ w₁) hres
    split <;> exact .inl ⟨.inr rfl, fun h => (hw₂ h).trans (hw₁ h), .inr (.inl rfl)⟩
  -- the candidates fit the socket's type, and looking them up changed no native socket
  have hfits := ok_of_ends (hD.resolve host port s.signature.type w₁) hres
  have hw₂ := ok_of_ends (hL.resolve host port _ w₁) hres
  have hlooked : Looked H s w host port rs := ⟨w₁, w₂, hprep, hres⟩
  refine ends_mono (ends_and (firstConnection_in_order H ms rs none _)
    (firstConnection_lets_go hL.tracing hD.tracing ms rs none _)) (fun tr st₃ h₃ => ?_)
    (fun e st₃ h₃ => ?_)
  rotate_left
  · -- the trials stopped: every trial made was let go
    obtain ⟨s₃, w₃, tr₃⟩ := st₃
    obtain ⟨⟨m, trials, htr, htried, hstop⟩, hs₃, hw₃⟩ := h₃
    exact .inl ⟨.inr hs₃, fun h => by simpa [hw₂ h, hw₁ h] using hw₃ h,
      .inr (.inr ⟨rs, m, trials, hlooked, htr, htried, hstop⟩)⟩
  -- a trial connected
  obtain ⟨t, r⟩ := tr
  obtain ⟨s₃, w₃, tr₃⟩ := st₃
  obtain ⟨⟨k, trials, hk, hknown, htr₃, htried⟩, rfl, hfresh, hmode, hothers⟩ := h₃
  simp only [Host.tracing_modes, Host.tracing_agrees] at hk hfresh hmode hothers
  -- the trial was closed before the connect began, and only it changed since
  have hfresh' : H.modes w t = none := by rw [← hw₁ t, ← hw₂ t]; exact hfresh
  have hspared : ∀ h, t ≠ h → H.modes w₃ h = H.modes w h :=
    fun h hne => (hothers h hne).trans ((hw₂ h).trans (hw₁ h))
  have hne : t ≠ h₀ := by
    rintro rfl
    rw [Host.fileno_neg_iff] at hopen
    exact hopen hfresh'
  have hr : r.Fits s.signature.type := hfits r (List.mem_of_getElem? hk)
  simp only [Resolved.ofNative_sockaddr hknown hr.1, Except.ok.injEq, forall_eq', reduceCtorEq,
    false_implies, implies_true, and_true, ends_attempt]
  -- the old native socket is let go, and the trial takes its place
  refine ends_mono (@closeWith_hands_over _ H hL hD s.prepared h₀ hs.native w₃ tr₃)
    (fun _ st₄ h₄ => ?_) (fun e st₄ h₄ => ?_)
  rotate_left
  · -- letting it go failed: the trial took its place all the same
    obtain ⟨s₄, w₄, tr₄⟩ := st₄
    obtain ⟨-, hc₄, hgone₄, hkept₄⟩ := h₄
    simp only [ends_change, true_and, Except.error.injEq, forall_eq']
    exact .inr (.inr ⟨t, rfl, hc₄, hfresh', hgone₄,
      fun h hne hne₀ => (hkept₄ h hne₀).trans (hspared h (Ne.symm hne))⟩)
  obtain ⟨s₄, w₄, tr₄⟩ := st₄
  obtain ⟨rfl, ⟨unlinked, rfl⟩, hgone₄, hkept₄⟩ := h₄
  simp only [ends_change, Resolved.protocolFor_eq,
    Resolved.forEndpoint_fits hknown hr hs.host_ne hs.port_ne, Except.ok.injEq, forall_eq',
    reduceCtorEq, false_implies, implies_true, and_true, true_implies, ↓ends_ite]
  intro _
  have hblocking : (s.prepared.afterClose false none).blocking = s.blocking := rfl
  have hmode₄ : H.Agrees t (trialMode s.blocking ms) w₄ := hmode.of_modes_eq (hkept₄ t hne)
  have hspared₄ : ∀ h, h ≠ t → h ≠ h₀ → H.modes w₄ h = H.modes w h :=
    fun h hne' hne₀ => (hkept₄ h hne₀).trans (hspared h (Ne.symm hne'))
  rw [hblocking]
  dsimp only at htr₃
  subst htr₃
  -- the trial is made to block again only when the socket blocks and gave a timeout
  cases hb : (s.blocking && decide (ms > 0))
  · simp only [Bool.false_eq_true, if_false, ↓ends_bind, ends_change]
    exact ends_mono (secureWith_ends_dial hL hlooked hk hknown htried hfresh'
      (by rwa [trialMode_of_kept hb] at hmode₄) hgone₄ hspared₄ (afterClose_connected s t _)
      (by simp [restoreCalls, hb]; rfl))
      (fun _ st' h => ⟨rs, k, r, t, h⟩) (fun _ st' h => .inr (.inl ⟨rs, k, r, t, h⟩))
  · simp only [if_true, ↓ends_bind, Host.tracing_setBlocking, ends_sys_traced, ends_change]
    have hblk : s.blocking = true := (Bool.and_eq_true _ _ ▸ hb).1
    refine ⟨fun _ w₅ hset => ?_, fun e w₅ hset => ?_⟩
    · obtain ⟨hag, hkeep⟩ := ok_of_ends (hL.setBlocking t true w₄) hset
      exact ends_mono (secureWith_ends_dial hL hlooked hk hknown htried hfresh' (by rwa [hblk])
        ((hkeep h₀ hne).trans hgone₄)
        (fun h hne' hne₀ => (hkeep h (Ne.symm hne')).trans (hspared₄ h hne' hne₀))
        (afterClose_connected s t _) (by simp [restoreCalls, hb]; rfl))
        (fun _ st' h => ⟨rs, k, r, t, h⟩) (fun _ st' h => .inr (.inl ⟨rs, k, r, t, h⟩))
    · have hkeep := err_of_ends (hL.setBlocking t true w₄) hset
      exact .inr (.inr ⟨t, rfl, rfl, hfresh', (hkeep h₀).trans hgone₄,
        fun h hne' hne₀ => (hkeep h).trans (hspared₄ h hne' hne₀)⟩)

/-! ## A host that lets go -/

/-- A host that keeps the mode of each native socket it made while it is open, in the order
made: native socket `n` is the `n`-th made, and its entry is `none` once it is closed. Making a
native socket adds one that blocks, closing one lets it go, and setting the mode of an open one
sets it; a name resolves to an endpoint of the packet family (17), which the library does not
know, then to one internet endpoint, both of the type asked for; every connect succeeds at once,
and no other call changes anything. -/
def dialHost : Host (List (Option Bool)) where
  fileno h w := if (w[h.id]?.join).isSome then h.id else -1
  family _ _ := Family.inet.value
  socketType _ _ := SocketType.stream.value
  blocking h w := (w[h.id]?.join).getD true
  interruptions _ _ := 0
  create _ _ _ := fun w => .ok ⟨w.length⟩ (w ++ [some true])
  adopt _ := throw (.os 95 "Operation not supported")
  close h := fun w => .ok () (w.set h.id none)
  shutdown _ _ := pure ()
  setBlocking h b := fun w => .ok () (w.set h.id ((w[h.id]?.join).map fun _ => b))
  setOption _ _ _ := pure ()
  bind _ _ := pure ()
  listen _ _ := pure ()
  accept _ := throw (.os 95 "Operation not supported")
  connect _ _ := pure ()
  sockName _ := throw (.os 95 "Operation not supported")
  pendingError _ := pure 0
  recv _ _ _ := pure []
  recvFrom _ _ := throw (.os 95 "Operation not supported")
  send _ data := pure data.length
  sendTo _ data _ := pure data.length
  select readable writable _ := pure (readable, writable)
  unlink _ := pure ()
  resolve _ _ hints := pure
    [{ family := 17, socketType := hints.socketType, protocol := 0, host := [1], port := 80 },
     { family := Family.inet.value, socketType := hints.socketType, protocol := 0,
       host := [127, 0, 0, 1], port := 80 }]
  delegates :=
    { setUp := fun _ _ => pure ()
      tearDown := fun _ => pure ()
      onAccept := fun _ _ => pure ()
      onConnect := fun _ _ => pure ()
      send := fun _ _ data => pure data.length
      recv := fun _ _ _ => pure []
      sendRetries := fun _ _ => 0
      recvRetries := fun _ _ => 0 }

/-- The mode `dialHost` gives a native socket is its entry in the table. -/
@[simp] theorem dialHost_modes (w : List (Option Bool)) (h : Handle) :
    dialHost.modes w h = w[h.id]?.join := by
  unfold Host.modes
  cases hw : w[h.id]?.join <;> simp [dialHost, hw]

theorem dialHost_modeLaws : dialHost.ModeLaws where
  create _ _ _ w := by
    show dialHost.modes w ⟨w.length⟩ = none ∧ dialHost.Agrees ⟨w.length⟩ true (w ++ [some true]) ∧
      ∀ h, h ≠ ⟨w.length⟩ → dialHost.modes (w ++ [some true]) h = dialHost.modes w h
    exact ⟨by simp, by simp [Host.Agrees], fun h hne => by
      simp [getElem?_append_singleton_of_ne (Handle.id_ne_of_ne hne)]⟩
  accept _ _ _ := rfl
  close h w := by
    show ∀ h', h ≠ h' → dialHost.modes (w.set h.id none) h' = dialHost.modes w h'
    intro h' hne
    simp [List.getElem?_set_ne (Handle.id_ne_of_ne hne)]
  setBlocking h b w := by
    show dialHost.Agrees h b (w.set h.id ((w[h.id]?.join).map fun _ => b)) ∧
      ∀ h', h ≠ h' → dialHost.modes (w.set h.id ((w[h.id]?.join).map fun _ => b)) h' =
        dialHost.modes w h'
    refine ⟨?_, fun h' hne => ?_⟩
    · -- an open native socket takes the mode; a closed one stays closed
      by_cases hlt : h.id < w.length <;> simp [Host.Agrees, hlt]
    · simp [List.getElem?_set_ne (Handle.id_ne_of_ne hne)]
  shutdown _ _ _ _ := rfl
  setOption _ _ _ _ _ := rfl
  bind _ _ _ _ := rfl
  listen _ _ _ _ := rfl
  connect _ _ _ _ := rfl
  sockName _ _ _ := rfl
  pendingError _ _ _ := rfl
  recv _ _ _ _ _ := rfl
  recvFrom _ _ _ _ := rfl
  send _ _ _ _ := rfl
  sendTo _ _ _ _ _ := rfl
  select _ _ _ _ _ := rfl
  unlink _ _ _ := rfl
  resolve _ _ _ _ _ := rfl
  setUp _ _ _ _ := rfl
  tearDown _ _ _ := rfl
  onAccept _ _ _ _ := rfl
  onConnect _ _ _ _ := rfl
  delegateSend _ _ _ _ _ := rfl
  delegateRecv _ _ _ _ _ := rfl

theorem dialHost_dialLaws : dialHost.DialLaws where
  close h w := by
    show dialHost.modes (w.set h.id none) h = none
    by_cases hlt : h.id < w.length <;> simp [hlt]
  resolve _ _ t _ := by
    show ∀ r : Resolved, r ∈ _ → r.Fits t
    simp [Resolved.Fits, Family.value]

/-- An internet stream socket made on an empty `dialHost`. -/
def dialSocket : Socket × List (Option Bool) :=
  match create dialHost (.int Family.inet.value) (.int SocketType.stream.value) (.int 0) none []
  with
  | .ok s w => (s, w)
  | .error _ w => (default, w)

/-- The socket just made on `dialHost` passes the checks of a connect to port 80 of
`localhost` without a timeout, so its connect does what `connect_tries_in_order` says. -/
theorem dialSocket_connects_in_order :
    Ends (connect dialHost.tracing (.str (Text.ofString "localhost")) (.int 80) (.int 0))
      (dialSocket.1, (dialSocket.2, []))
      (fun _ st' => ∃ rs k r t, Dialed dialHost dialSocket.1 dialSocket.2 ⟨0⟩ []
        (.str (Text.ofString "localhost")) (.int 80) 0 rs k r t dialSocket.1.delegate.isSome st')
      (fun e st' => Undialed dialHost dialSocket.1 dialSocket.2 []
          (.str (Text.ofString "localhost")) (.int 80) e st' ∨
        (∃ rs k r t, Dialed dialHost dialSocket.1 dialSocket.2 ⟨0⟩ []
          (.str (Text.ofString "localhost")) (.int 80) 0 rs k r t false st' ∧
          HookRefused dialHost dialSocket.1 t e st') ∨
        ∃ t, TookOver dialHost dialSocket.2 ⟨0⟩ t st') :=
  connect_tries_in_order dialHost_modeLaws dialHost_dialLaws
    ⟨by decide +kernel, by decide +kernel, by decide +kernel, by decide +kernel, rfl,
      by decide +kernel, le_refl 0⟩ []

end Socket

end Sockets
