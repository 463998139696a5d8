import Mathlib
import Sockets.Proofs.Secure
import Sockets.Proofs.Layout

/-!
# Two ways of accepting a connection

A listener hands a waiting connection out in one of two ways. `acceptClient` wraps it in a new
socket whose signature is made afresh from the peer's address (`connectedSignature`), with the
path the listener serves; `acceptConnection` closes the listener and turns the listener itself
into the connection, changing in its signature only what closing resets and what the peer's
address names.

Both start the same way: the descriptor check, the listening check and the native accept
(`ends_accepting`). From one listener in one state of the system they take the same connection,
and what they end with is one socket seen two ways (`accepting_in_place_takes_over`): the
listener that accepted in place is the socket `acceptClient` would have handed out, with the
listener's family, type, protocol, path, binding and settings put back, the peer's address
written in, and whether it blocks asked of the system once the listener is closed
(`Socket.takeOver`). The native socket, the connected, listening and remote-closed flags, what
is stored, the delegate, the secure mark, the host and the port agree.

They differ where the listener's own state shows through. The new socket is not bound, while
the listener keeps the binding it had; the new socket's family is the peer's, while the
listener keeps its own; and for a Unix-domain connection the new socket's address is that of
the path the listener serves, while the listener takes the peer's, which is the empty path of
a client that never bound.
-/

namespace Sockets

namespace Socket

variable {σ : Type} (H : Host σ) {st : Socket × σ}

/-! ## The signature of an accepted socket -/

/-- The signature made for a connection from the peer's address: of the peer's family, not
bound and not secure, with the host and port the address names, and the peer's address unless
the connection is Unix-domain and a path is given, whose address it takes. -/
theorem connectedSignature_addr {type : SocketType} {peer : Address Value} {path : Value}
    {g : Signature} (h : connectedSignature type (.addr peer) path = .ok g) :
    g.family = peer.family ∧ g.isBound = false ∧ g.isSecure = false ∧
      (g.hostname, g.port) = peer.hostAndPort?.getD (.none, .int Limits.invalidPort) ∧
      g.address =
        if peer.family = .unix ∧ path.truthy = true then .addr (.unix path) else .addr peer := by
  cases peer with
  | unix p =>
    unfold connectedSignature at h
    by_cases hp : path.truthy = true
    · -- the listener's path takes the place of the peer's
      simp only [hp, if_true] at h
      obtain ⟨t, pr, rfl⟩ := Signature.forPath_eq h
      simp [Address.family, Address.hostAndPort?, hp, Limits.invalidPort]
    · simp only [hp, Bool.false_eq_true, if_false] at h
      split at h
      · obtain ⟨t, pr, rfl⟩ := Signature.forPath_eq h
        simp [Address.family, Address.hostAndPort?, hp, Limits.invalidPort]
      · obtain ⟨f, t, pr, hf, rfl⟩ := Signature.fromValues_eq h
        rw [Family.ofValue?_value] at hf
        cases hf
        simp [Address.family, Address.hostAndPort?, hp, Limits.invalidPort]
  | inet host port =>
    obtain ⟨f, t, pr, hf, rfl⟩ := Signature.forEndpoint_eq h
    rw [Family.ofValue?_value] at hf
    cases hf
    simp [Address.family, Address.hostAndPort?]
  | inet6 host port flow scope =>
    obtain ⟨f, t, pr, hf, rfl⟩ := Signature.forEndpoint_eq h
    rw [Family.ofValue?_value] at hf
    cases hf
    simp [Address.family, Address.hostAndPort?]

/-! ## What both ways of accepting do first -/

/-- Both ways of accepting check the descriptor, check that the socket listens and take a
connection from the native socket, which leaves the socket as it was. What the rest ends in when
it returns, on every connection so taken, the whole ends in, with the connection it took. -/
theorem ends_accepting {α : Type} (k : Handle → Handle × Address Value → SocketM σ α)
    {P : Handle → Address Value → σ → α → Socket × σ → Prop}
    (hk : ∀ h nh peer w, st.1.native = some h → acceptNative H h st = .ok (nh, peer) (st.1, w) →
      Ends (k h (nh, peer)) (st.1, w) (P nh peer w) (fun _ _ => True)) :
    Ends (do
        let h ← checkDescriptor H
        requireListener
        let x ← acceptNative H h
        k h x) st
      (fun a st' => ∃ h nh peer w, st.1.native = some h ∧
        acceptNative H h st = .ok (nh, peer) (st.1, w) ∧ P nh peer w a st')
      (fun _ _ => True) := by
  obtain ⟨s, w⟩ := st
  simp only [↓ends_bind, ends_checkDescriptor]
  refine ⟨fun h hn => ?_, fun _ => trivial⟩
  split
  · trivial
  simp only [requireListener, ↓ends_bind, ↓ends_current, ↓ends_ite, ↓ends_throw, ↓ends_pure]
  split_ifs
  -- the native accept fixes the socket, so the rest starts from the listener as it was
  rw [ends_eq]
  refine ⟨fun x st' hacc => ?_, fun _ _ _ => trivial⟩
  obtain ⟨nh, peer⟩ := x
  obtain ⟨s', w'⟩ := st'
  have hs' := ok_of_ends (acceptNative_fixes H h (s, w)) hacc
  dsimp only at hs'
  subst hs'
  exact ends_mono (hk h nh peer w' hn hacc) (fun _ _ hp => ⟨h, nh, peer, w', hn, hacc, hp⟩)
    (fun _ _ _ => trivial)

/-! ## Accepting in place -/

/-- A close that leaves the delegate prepared and returns has let go of the native socket and
of the node the socket owned. -/
theorem closeWith_false_returns :
    Ends (closeWith H false) st (fun _ st' => st'.1 = st.1.afterClose false none)
      (fun _ _ => True) := by
  -- whether the node is let go depends on whether the socket owns one
  cases ho : st.1.ownedPath <;>
    simp [closeWith, ho, ends_bind, ends_current, ends_change, ends_attempt, ends_ite, ends_pure,
      ends_throw, ends_sys, ends_tryCatch, ends_of_fixes (closeNative_fixes _ _ _),
      ends_removeOwnedPath, afterClose]

/-- The listener `s` once it has accepted in place the connection to `peer` over the native
socket `nh`: closed and connected again, its signature keeps its family, type, protocol, path
and binding and takes the peer's address with the host and port it names; it is secure when a
delegate serves it. -/
def acceptedInPlace (s : Socket) (nh : Handle) (peer : Address Value) (blocking : Bool) :
    Socket :=
  let (host, port) := peer.hostAndPort?.getD (.none, .int Limits.invalidPort)
  { s with
    native := some nh, ownedPath := none, connected := true, listening := false,
    remoteClosed := false, storage := [], blocking := blocking
    signature := { s.signature with
      hostname := host, port := port, address := .addr peer, isSecure := s.delegate.isSome } }

/-- Accepting in place, when it returns, took a connection from the listener's native socket
and turned the listener into it. -/
theorem acceptConnection_accepted :
    Ends (acceptConnection H) st
      (fun _ st' => ∃ h nh peer w, st.1.native = some h ∧
        acceptNative H h st = .ok (nh, peer) (st.1, w) ∧
        ∃ b, st'.1 = st.1.acceptedInPlace nh peer b)
      (fun _ _ => True) := by
  refine ends_accepting H _ fun h nh peer w hn hacc => ?_
  simp only [↓ends_bind, ↓ends_current, ↓ends_attempt]
  refine ends_mono (closeWith_false_returns H) (fun _ st' hst' => ?_) (fun _ _ _ => ?_)
  · obtain ⟨s', w'⟩ := st'
    dsimp only at hst'
    subst hst'
    simp only [↓ends_change, ↓ends_rethrow, ↓ends_system, ↓ends_changeSignature,
      ↓ends_secureWith]
    -- the delegate, if any, secures the connection; the peer's address may name a host
    cases hd : st.1.delegate <;> cases peer <;>
      simp [afterClose, acceptedInPlace, hd, ends_sys, Address.hostAndPort?]
  · simp [ends_change, ends_rethrow]

/-! ## Accepting a client -/

/-- Wrapping an accepted native socket, when it returns, made the signature from the peer's
address for the type the system reports, and left the system as it was. -/
theorem fromNative_made (h : Handle) (address path : Value) (d : Option String) {w : σ} :
    Ends (fromNative H h address path d) w
      (fun c w' => w' = w ∧ ∃ g,
        connectedSignature ((SocketType.ofValue? (.int (H.socketType h w))).getD .stream) address
          path = .ok g ∧
        c = { native := some h, signature := g, connected := true, blocking := H.blocking h w,
              delegate := d,
              readBufferSize :=
                if d.isSome then Limits.secureReadBufferSize else Limits.defaultReadBufferSize })
      (fun _ _ => True) := by
  simp only [fromNative, ↓ends_bind, ↓ends_get]
  split
  · simp [ends_wrap, *]
  · simp [ends_bind, ends_eq (H.close _), ends_throw]

/-- The socket made around the accepted native socket `nh`, with the signature `g` made for the
connection, served by the delegate `d`, which secures it. -/
def acceptedClient (nh : Handle) (g : Signature) (blocking : Bool) (d : Option String) :
    Socket :=
  { native := some nh, signature := { g with isSecure := d.isSome }, connected := true,
    blocking := blocking, delegate := d,
    readBufferSize :=
      if d.isSome then Limits.secureReadBufferSize else Limits.defaultReadBufferSize }

/-- Accepting a client and running the accept hook at once, when it returns, took a connection
from the listener's native socket and handed out a socket made for it. -/
theorem acceptClient_accepted :
    Ends (acceptClient H true) st
      (fun c _ => ∃ h nh peer w, st.1.native = some h ∧
        acceptNative H h st = .ok (nh, peer) (st.1, w) ∧
        ∃ g, connectedSignature ((SocketType.ofValue? (.int (H.socketType nh w))).getD .stream)
            (.addr peer) st.1.signature.path = .ok g ∧
          c = acceptedClient nh g (H.blocking nh w) st.1.delegate)
      (fun _ _ => True) := by
  refine ends_accepting H _ fun h nh peer w hn hacc => ?_
  simp only [↓ends_bind, ↓ends_current, ↓ends_sys]
  refine ⟨fun c w' hc => ?_, fun _ _ _ => trivial⟩
  obtain ⟨rfl, g, hg, rfl⟩ := ok_of_ends (fromNative_made H nh _ _ _) hc
  have hsecure : { g with isSecure := false } = g := by
    rw [← connectedSignature_insecure hg]
  cases hd : st.1.delegate
  · -- without a delegate the new socket is handed out as it was made
    simp only [Option.isNone_none, if_true, ends_pure]
    exact ⟨g, hg, by simp [acceptedClient, hsecure]⟩
  · -- with one, the accept hook runs on it at once, and a failed hook fails the accept
    simp only [Option.isNone_some, Bool.false_eq_true, if_false, Bool.not_true, ↓ends_bind,
      ↓ends_attempt]
    refine ends_mono (invokeOnAccept_hooked H _) (fun r st' hr => ?_) (fun _ _ _ => ?_)
    · obtain ⟨-, -, rfl⟩ := hr
      simp [ends_pure, hooked, acceptedClient, hd, hg]
    · simp [ends_throw]

/-! ## One connection seen two ways -/

/-- The listener `s` taking over the socket `c` made for the connection to `peer`: the
listener's family, type, protocol, path, binding and settings are put back, the peer's address
is written in, and whether it blocks is `blocking`; all else is `c`'s. -/
def takeOver (s c : Socket) (peer : Address Value) (blocking : Bool) : Socket :=
  { c with
    signature := { c.signature with
      family := s.signature.family, type := s.signature.type, protocol := s.signature.protocol,
      path := s.signature.path, address := .addr peer, isBound := s.signature.isBound }
    blocking := blocking, delegateReady := s.delegateReady, awaitingAccept := s.awaitingAccept,
    readBufferSize := s.readBufferSize, backlog := s.backlog }

/-- The listener turned into a connection is the listener taking over the socket made for the
connection, whenever that socket's signature names the host and port the peer's address does. -/
theorem acceptedInPlace_eq_takeOver {s : Socket} {nh : Handle} {peer : Address Value}
    {g : Signature} {b b' : Bool}
    (hg : (g.hostname, g.port) = peer.hostAndPort?.getD (.none, .int Limits.invalidPort)) :
    s.acceptedInPlace nh peer b = s.takeOver (acceptedClient nh g b' s.delegate) peer b := by
  rcases hp : peer.hostAndPort?.getD (.none, .int Limits.invalidPort) with ⟨host, port⟩
  rw [hp, Prod.mk.injEq] at hg
  simp [acceptedInPlace, takeOver, acceptedClient, hp, hg]

/-- Accepting in place is accepting a client seen from the listener. From one listening socket
in one state of the system, when both ways of accepting return, the listener that accepted in
place is the socket handed out to the client, taken over by the listener (`takeOver`): the
native socket, the connected, listening and remote-closed flags, what is stored, the delegate,
the secure mark, the host and the port agree. The socket handed out is not bound where the
listener keeps its binding, has the peer's family where the listener keeps its own, and for a
Unix-domain peer has the address of the path the listener serves where the listener takes the
peer's address. -/
theorem accepting_in_place_takes_over {c : Socket} {stc stl : Socket × σ}
    (hc : acceptClient H true st = .ok c stc) (hl : acceptConnection H st = .ok () stl) :
    ∃ peer b, stl.1 = st.1.takeOver c peer b ∧ c.signature.isBound = false ∧
      c.signature.family = peer.family ∧
      c.signature.address =
        if peer.family = .unix ∧ st.1.signature.path.truthy = true then
          .addr (.unix st.1.signature.path)
        else .addr peer := by
  obtain ⟨h, nh, peer, w, hn, hacc, g, hg, rfl⟩ := ok_of_ends (acceptClient_accepted H) hc
  obtain ⟨h', nh', peer', w', hn', hacc', b, hb⟩ := ok_of_ends (acceptConnection_accepted H) hl
  -- both took the one connection the native accept gives
  obtain rfl : h' = h := Option.some.inj (hn'.symm.trans hn)
  rw [hacc, EStateM.Result.ok.injEq] at hacc'
  obtain ⟨⟨rfl, rfl⟩, -⟩ := hacc'
  obtain ⟨hfamily, hbound, -, hhost, haddress⟩ := connectedSignature_addr hg
  refine ⟨peer, b, hb.trans (acceptedInPlace_eq_takeOver hhost), ?_, ?_, ?_⟩ <;>
    simp [acceptedClient, hbound, hfamily, haddress]

/-- A run that is not a failure returned something. -/
theorem exists_ok_of_matches {ε S α : Type} (r : EStateM.Result ε S α)
    (h : (r matches .ok _ _) = true) : ∃ a s, r = .ok a s := by
  cases r <;> simp_all

/-- The machine with a Unix-domain stream socket listening at `l.sock` and a client connected to
it that is not accepted yet; the listening socket with it. -/
def waitingListener : Socket × World :=
  let path : Value := .str (Text.ofString "l.sock")
  let serve : SocketM World Unit := do
    listenUnix Machine.host path .none
    let client ← sys (create Machine.host (.int Family.unix.value) (.int SocketType.stream.value)
      (.int 0) none)
    let _ ← within client (connectUnix Machine.host path)
  match create Machine.host (.int Family.unix.value) (.int SocketType.stream.value) (.int 0) none
      {} with
  | .ok listener w =>
    match serve (listener, w) with
    | .ok _ st => st
    | .error _ st => st
  | .error _ w => (default, w)

/-- A Unix-domain listener with a client waiting accepts it both ways; accepting in place leaves
the listener bound, while the socket handed out is not. -/
theorem waiting_unix_client_accepted_both_ways :
    ∃ c stc stl, acceptClient Machine.host true waitingListener = .ok c stc ∧
      acceptConnection Machine.host waitingListener = .ok () stl ∧
      stl.1.signature.isBound = true ∧ c.signature.isBound = false := by
  obtain ⟨c, stc, hc⟩ :=
    exists_ok_of_matches (acceptClient Machine.host true waitingListener) (by decide +kernel)
  obtain ⟨⟨⟩, stl, hl⟩ :=
    exists_ok_of_matches (acceptConnection Machine.host waitingListener) (by decide +kernel)
  obtain ⟨peer, b, hover, hbound, -⟩ := accepting_in_place_takes_over Machine.host hc hl
  refine ⟨c, stc, stl, hc, hl, ?_, hbound⟩
  rw [hover]
  exact (by decide +kernel : waitingListener.1.signature.isBound = true)

end Socket

end Sockets
