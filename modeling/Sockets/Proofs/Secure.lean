import Sockets.Proofs.Written
import Sockets.Proofs.Exclusive

/-!
# Secure only with a delegate

A socket is marked secure when a delegate secured its connection, and the mark is meant to say
that the socket talks through a delegate (`SecureSound`). The signatures the constructors build
are not secure, listening marks a stream secure exactly when it has a delegate, and connecting
and accepting in place of listening clear the mark before the delegate's hook sets it again.

Three steps can leave the mark on a socket without a delegate (`Op.Unsecures`):

* removing the delegate of a secure socket, which does not touch the mark;
* connecting to the raw address of a signature that is itself marked secure, on a socket
  without a delegate: the socket takes the signature as it is;
* a listener's accept hook, run by a listener with a delegate on a socket that has none: the
  hook uses the listener's delegate and marks its target.

They are the only ones. Every socket the library hands out is sound, and along every run that
avoids the three steps a sound socket stays sound (`secure_only_with_delegate`).
-/

namespace Sockets

/-- A socket without a delegate is not marked secure. -/
def SecureSound (s : Socket) : Prop := s.delegate = none → s.signature.isSecure = false

/-- `connectUsing` reaches what the signature describes by its raw address: it has neither a
path nor a host name and port. -/
def Signature.ByAddress (g : Signature) : Prop := g.path = .none ∧ ¬g.ByEndpoint

/-- The steps that can leave a secure socket without a delegate: removing the delegate of a
secure socket, connecting a socket without a delegate to the raw address of a secure signature,
and a listener with a delegate hooking a socket without one. -/
def Op.Unsecures : Op → Socket → Prop
  | .setDelegate none, s => s.signature.isSecure = true
  | .connectUsing g, s => s.delegate = none ∧ g.isSecure = true ∧ g.ByAddress
  | .acceptedBy listener, s =>
    listener.delegate.isSome = true ∧ s.awaitingAccept = true ∧ s.delegate = none
  | _, _ => False

/-! ## Signatures as the constructors build them -/

namespace Signature

/-- A signature for a path is that of the Unix-domain node at the path. -/
theorem forPath_eq {type proto path : Value} {g : Signature}
    (h : forPath type proto path = .ok g) :
    ∃ t p, g =
      { family := .unix, type := t, protocol := p, path := path,
        address := .addr (.unix path) } := by
  unfold forPath at h
  simp only [bind, Except.bind, pure, Except.pure, throw, throwThe, MonadExceptOf.throw] at h
  repeat' split at h
  all_goals (cases h <;> exact ⟨_, _, rfl⟩)

/-- A signature from bare values holds the family the value names and the address. -/
theorem fromValues_eq {family type proto address : Value} {g : Signature}
    (h : fromValues family type proto address = .ok g) :
    ∃ f t p, Family.ofValue? family = some f ∧
      g = { family := f, type := t, protocol := p, address := address } := by
  unfold fromValues at h
  simp only [bind, Except.bind] at h
  repeat' split at h
  all_goals (cases h <;> exact ⟨_, _, _, ‹_›, rfl⟩)

/-- A signature for an endpoint holds the family the value names, the address, the host and
the port. -/
theorem forEndpoint_eq {family type proto address hostname port : Value} {g : Signature}
    (h : forEndpoint family type proto address hostname port = .ok g) :
    ∃ f t p, Family.ofValue? family = some f ∧
      g =
        { family := f, type := t, protocol := p, address := address, hostname := hostname,
          port := port } := by
  unfold forEndpoint at h
  simp only [bind, Except.bind] at h
  repeat' split at h
  all_goals (cases h <;> exact ⟨_, _, _, ‹_›, rfl⟩)

theorem fromValues_insecure {family type proto address : Value} {g : Signature}
    (h : fromValues family type proto address = .ok g) : g.isSecure = false := by
  obtain ⟨_, _, _, -, rfl⟩ := fromValues_eq h
  rfl

theorem forPath_insecure {type proto path : Value} {g : Signature}
    (h : forPath type proto path = .ok g) : g.isSecure = false := by
  obtain ⟨_, _, rfl⟩ := forPath_eq h
  rfl

theorem forEndpoint_insecure {family type proto address hostname port : Value} {g : Signature}
    (h : forEndpoint family type proto address hostname port = .ok g) : g.isSecure = false := by
  obtain ⟨_, _, _, -, rfl⟩ := forEndpoint_eq h
  rfl

end Signature

namespace Socket

variable {σ : Type} (H : Host σ) {st : Socket × σ}

/-- A value taken from a computation all of whose results satisfy `P` satisfies `P`. -/
theorem ends_rethrow_of {α : Type} {r : Except Failure α} {ok : α → Socket × σ → Prop}
    {err : Failure → Socket × σ → Prop} (P : α → Prop) (hr : ∀ a, r = .ok a → P a) :
    Ends (rethrow r) st ok err =
      ((∀ a, r = .ok a → P a → ok a st) ∧ ∀ e, r = .error e → err e st) := by
  cases r <;> simp_all [rethrow, ends_pure, ends_throw]

/-! ## What soundness reads -/

/-- What soundness reads of a socket: its delegate, and whether it is marked secure. -/
def security (s : Socket) : Option String × Bool := (s.delegate, s.signature.isSecure)

theorem secureSound_of_security {s s' : Socket} (h : s'.security = s.security)
    (hs : SecureSound s) : SecureSound s' := by
  simp only [security, Prod.mk.injEq] at h
  simpa [SecureSound, h.1, h.2] using hs

theorem security_apartFromReads {s s' : Socket} (h : s'.apartFromReads = s.apartFromReads) :
    s'.security = s.security :=
  show s'.apartFromReads.security = s.apartFromReads.security from congrArg security h

theorem resizeReadBuffer_keeps_security (size : Value) :
    Keeps security (resizeReadBuffer size : SocketM σ Nat) := by
  intro st
  simp only [resizeReadBuffer, ↓ends_bind, ↓ends_rethrow, ↓ends_current, ↓ends_ite, ↓ends_throw,
    ↓ends_change, ↓ends_pure]
  simp +contextual [security]

theorem prepareDelegate_keeps_security (asServer : Bool) :
    Keeps security (prepareDelegate H asServer) := by
  intro st
  simp only [ends_prepareDelegate, ends_sys]
  simp +contextual [security]

theorem setBlocking_keeps_security (v : Value) : Keeps security (setBlocking H v) := by
  intro st
  simp only [setBlocking, ↓ends_checkDescriptor, ↓ends_bind, ↓ends_rethrow, ↓ends_orCode,
    ↓ends_sys, ↓ends_change]
  simp +contextual [security]

/-! ## Serving -/

/-- A listening stream is marked secure exactly when it has a delegate; the other steps of
`listen` leave the mark and the delegate alone. -/
theorem listen_secureSound (port backlog reuse dualStack : Value) (hs : SecureSound st.1) :
    Ends (listen H port backlog reuse dualStack) st (fun _ st' => SecureSound st'.1)
      (fun _ st' => SecureSound st'.1) := by
  simp only [listen, ↓ends_checkDescriptor, ↓ends_bind, ↓ends_current, ↓ends_throw, ↓ends_pure,
    ↓ends_ite, ↓ends_rethrow, ↓ends_keepBacklog, ↓ends_of_fixes (setOption_fixes _ _ _ _),
    ↓ends_orCode, ↓ends_sys, ↓ends_of_fixes (sharePorts_fixes _ _), ↓ends_prepareDelegate,
    ↓ends_change, ↓ends_changeSignature, ↓ends_of_fixes (bindFirst_fixes _ _ _ _),
    ↓ends_of_fixes (boundAddress_fixes _ _ _)]
  unfold SecureSound at hs
  simp +contextual [SecureSound, hs]

theorem listenUnix_secureSound (path backlog : Value) (hs : SecureSound st.1) :
    Ends (listenUnix H path backlog) st (fun _ st' => SecureSound st'.1)
      (fun _ st' => SecureSound st'.1) := by
  simp only [listenUnix, ↓ends_checkDescriptor, ↓ends_bind, ↓ends_current, ↓ends_throw,
    ↓ends_ite, ↓ends_rethrow, ↓ends_keepBacklog,
    ↓ends_of_fixes (setOption_fixes _ _ _ _), ↓ends_of_fixes (clearNode_fixes _ _), ↓ends_orCode,
    ↓ends_sys, ↓ends_change, ↓ends_changeSignature]
  unfold SecureSound at hs
  simp +contextual [SecureSound, hs]

/-- Accepting in place of listening closes the listener, which clears the mark, and only the
socket's own delegate marks it again. -/
theorem acceptConnection_secureSound (hs : SecureSound st.1) :
    Ends (acceptConnection H) st (fun _ st' => SecureSound st'.1)
      (fun _ st' => SecureSound st'.1) := by
  simp only [acceptConnection, ↓ends_checkDescriptor, ↓ends_bind, ↓ends_current,
    ↓ends_of_fixes requireListener_fixes, ↓ends_of_fixes (acceptNative_fixes _ _), ↓ends_attempt,
    ↓ends_of_lands (closeWith_lands _ false), ↓ends_change, ↓ends_changeSignature, ↓ends_rethrow,
    ↓ends_system, ↓ends_secureWith, ↓ends_sys]
  unfold SecureSound at hs
  simp +contextual [SecureSound, hs, afterClose]
  -- the host and port of the accepted address leave the mark alone
  intro _ _ _
  refine ends_of_forall (fun _ _ => ends_of_forall (fun _ _ => ends_of_forall
    (fun _ _ _ => ?_) (fun _ _ => trivial)) (fun _ _ => trivial)) (fun _ _ => trivial)
  split <;> rfl

/-- A datagram socket binds through `listen` and is not marked otherwise. -/
theorem listenForMessage_secureSound (buffer : List UInt8) (port backlog : Value)
    (hs : SecureSound st.1) :
    Ends (listenForMessage H buffer port backlog) st (fun _ st' => SecureSound st'.1)
      (fun _ st' => SecureSound st'.1) := by
  simp only [listenForMessage, ↓ends_bind, ↓ends_ite, ↓ends_throw, ↓ends_checkDescriptor,
    ↓ends_of_fixes requireDatagram_fixes, ↓ends_current, ↓ends_change,
    ↓ends_of_fixes (readDatagramInto_fixes _ _)]
  unfold SecureSound at hs
  simp +contextual [SecureSound, hs]
  intro _ h _ _
  refine ends_of_forall (fun _ w _ => ?_) (fun _ _ => trivial)
  exact listen_secureSound H _ _ _ _ hs

/-! ## Connecting and closing -/

theorem connectUnix_secureSound (path : Value) (hs : SecureSound st.1) :
    Ends (connectUnix H path) st (fun _ st' => SecureSound st'.1)
      (fun _ st' => SecureSound st'.1) := by
  simp only [connectUnix, ↓ends_checkDescriptor, ↓ends_bind, ↓ends_current, ↓ends_throw,
    ↓ends_ite, ↓ends_rethrow_of _ fun _ => Signature.forPath_insecure, ↓ends_orCode, ↓ends_sys,
    ↓ends_change]
  unfold SecureSound at hs
  simp +contextual [SecureSound, hs]

/-- `connect` closes the old native socket, which clears the mark, and takes a signature that is
not marked; only the socket's own delegate marks it again. -/
theorem connect_secureSound (host port timeout : Value) (hs : SecureSound st.1) :
    Ends (connect H host port timeout) st (fun _ st' => SecureSound st'.1)
      (fun _ st' => SecureSound st'.1) := by
  simp only [connect, ↓ends_checkDescriptor, ↓ends_bind, ↓ends_current, ↓ends_throw,
    ↓ends_ite, ↓ends_rethrow_of _ fun _ => Signature.forEndpoint_insecure, ↓ends_rethrow,
    ↓ends_sys, ↓ends_tryCatch, ↓ends_prepareDelegate, ↓ends_change, ↓ends_attempt,
    ↓ends_secureWith, ↓ends_of_fixes (firstConnection_fixes _ _ _ _),
    ↓ends_of_lands (closeWith_lands _ false)]
  unfold SecureSound at hs
  simp +contextual [SecureSound, hs, afterClose]

theorem connectUsing_secureSound (g : Signature) (hs : SecureSound st.1)
    (hop : ¬(st.1.delegate = none ∧ g.isSecure = true ∧ g.ByAddress)) :
    Ends (connectUsing H g) st (fun _ st' => SecureSound st'.1)
      (fun _ st' => SecureSound st'.1) := by
  simp only [connectUsing, ↓ends_bind, ↓ends_checkDescriptor, ↓ends_ite, ↓ends_throw,
    ↓ends_current]
  refine ⟨fun h _ => ?_, fun _ => hs⟩
  split
  · exact hs
  by_cases hpath : g.path = .none
  case neg =>
    -- through the path
    rw [if_pos (by split <;> simp_all)]
    exact connectUnix_secureSound H _ hs
  rw [if_neg (by simp [hpath])]
  by_cases hend : g.hostname ≠ .none ∧ g.port.equals (.int Limits.invalidPort) = false
  · -- through the host name and port
    obtain ⟨hhost, hport⟩ := hend
    rw [if_pos (by split <;> simp_all)]
    exact connect_secureSound H _ _ _ hs
  rw [if_neg (by split <;> simp_all)]
  -- to the raw address: the signature is taken as it is, and it is not marked unless the socket
  -- has a delegate
  have hg : st.1.delegate = none → g.isSecure = false := by
    intro hd
    simpa [hd, Signature.ByAddress, Signature.ByEndpoint, hpath, hend] using hop
  by_cases hnone : g.address = .none
  · rw [if_pos (by simp [hnone])]
    exact hs
  rw [if_neg (by split <;> simp_all)]
  split
  · exact hs
  refine (prepareDelegate_keeps_security H false).ends (fun _ st' hsec => ?_)
    (fun _ _ hsec => secureSound_of_security hsec hs)
  simp only [security, Prod.mk.injEq] at hsec
  split
  · rename_i a ha
    simp only [↓ends_bind, ↓ends_pure, ↓ends_orCode, ↓ends_sys, ↓ends_change, ↓ends_secureWith, ha]
    unfold SecureSound at hs
    split <;> simp +contextual [SecureSound, hsec, hg, hs]
  · simp only [↓ends_bind, ↓ends_throw]
    exact secureSound_of_security (by simp [security, hsec]) hs

theorem closeWith_secureSound (teardown : Bool) :
    Ends (closeWith H teardown) st (fun _ st' => SecureSound st'.1)
      (fun _ st' => SecureSound st'.1) :=
  ends_mono (closeWith_closed H teardown) (fun _ _ h _ => h.insecure) (fun _ _ h _ => h.insecure)

/-! ## The sockets the library hands out -/

/-- A connected socket's signature, as made from the remote address, is not marked. -/
theorem connectedSignature_insecure {type : SocketType} {address path : Value} {g : Signature}
    (h : connectedSignature type address path = .ok g) : g.isSecure = false := by
  unfold connectedSignature at h
  split at h
  · -- a Unix-domain address gives a signature for its path, or one of the bare family
    dsimp only at h
    generalize (if path.truthy then path else _) = path at h
    split at h
    · exact Signature.forPath_insecure h
    · exact Signature.fromValues_insecure h
  · exact Signature.forEndpoint_insecure h
  · cases h

theorem create_secureSound (family type proto : Value) (d : Option String) {w : σ} :
    Ends (create H family type proto d) w (fun s _ => SecureSound s) (fun _ _ => True) := by
  simp only [create, ↓ends_bind, ↓ends_liftExcept, ↓ends_tryCatch, ends_eq (H.create _ _ _),
    ↓ends_ite, ↓ends_throw, ↓ends_wrap]
  simp
  intro g hg _ _ _
  simp [SecureSound, Signature.fromValues_insecure hg]

/-- A connected socket around a native socket has the delegate it is given, and is not
marked. -/
theorem fromNative_insecure (h : Handle) (address path : Value) (d : Option String) {w : σ} :
    Ends (fromNative H h address path d) w
      (fun s _ => s.delegate = d ∧ s.signature.isSecure = false) (fun _ _ => True) := by
  simp only [fromNative, ↓ends_bind, ↓ends_get]
  split
  · rename_i g hg
    simp [ends_wrap, connectedSignature_insecure hg]
  · simp [ends_bind, ends_eq (H.close _), ends_throw]

theorem fromNative_secureSound (h : Handle) (address path : Value) (d : Option String) {w : σ} :
    Ends (fromNative H h address path d) w (fun s _ => SecureSound s) (fun _ _ => True) :=
  ends_mono (fromNative_insecure H h address path d) (fun _ _ h _ => h.2) (fun _ _ _ => trivial)

/-- The socket `acceptClient` hands out is not marked, or was marked by the accept hook of the
listener's delegate, which it shares. -/
theorem acceptClient_secureSound (invoke : Bool) :
    Ends (acceptClient H invoke) st (fun child _ => SecureSound child) (fun _ _ => True) := by
  simp only [acceptClient, ↓ends_bind, ↓ends_checkDescriptor, ↓ends_of_fixes requireListener_fixes,
    ↓ends_of_fixes (acceptNative_fixes _ _), ↓ends_current, ↓ends_sys, ↓ends_ite, ↓ends_pure,
    ↓ends_attempt, ↓ends_within, ↓ends_rethrow, ↓ends_throw]
  simp +contextual
  intro h _ _
  refine ends_of_forall (fun _ w => ends_of_forall (fun conn w' child w'' hchild => ?_)
    (fun _ _ => trivial)) (fun _ _ => trivial)
  obtain ⟨hd, hsec⟩ := ok_of_ends (fromNative_insecure H _ _ _ _) hchild
  split
  · exact fun _ => hsec
  · split
    · -- the hook runs at once with the listener's delegate, which the child shares
      refine ends_mono (invokeOnAccept_hooked H _) (fun r st' hr => ?_) (fun _ _ _ => trivial)
      obtain ⟨-, -, rfl⟩ := hr
      rename_i hnone _
      simp_all [SecureSound, hooked]
    · exact fun _ => hsec

end Socket

namespace Op

open Socket

variable {σ : Type} (H : Host σ) {st : Socket × σ}

/-- Every step but the three that unsecure keeps a socket sound, whether it returns or fails. -/
theorem secureSound_step (op : Op) (hs : SecureSound st.1) (hop : ¬op.Unsecures st.1) :
    Ends (op.perform H) st (fun _ st' => SecureSound st'.1) (fun _ st' => SecureSound st'.1) := by
  by_cases hfix : op.LeavesSocket
  · exact (Fixes.keeps (perform_fixes H hfix) SecureSound).2 hs
  cases op <;> simp only [LeavesSocket, not_true_eq_false] at hfix
  -- being the target of a hook marks the socket exactly when the listener has a delegate
  case acceptedBy listener =>
    refine ends_mono (acceptedBy_hooked H listener) (fun _ _ h => ?_) (fun _ _ h => h ▸ hs)
    obtain ⟨hwait, hst⟩ := h
    rw [hst]
    unfold SecureSound at hs ⊢
    cases hl : listener.delegate.isSome
    · simpa [hooked] using hs
    · intro hd
      exact absurd ⟨hl, hwait, hd⟩ hop
  case setDelegate d =>
    simp only [perform, Socket.setDelegate, ↓ends_bind, ↓ends_change, ↓ends_ite, ↓ends_pure]
    cases d
    · simpa [Unsecures, SecureSound] using hop
    · simp [SecureSound]
  all_goals simp only [perform, ↓ends_bind, ↓ends_pure]
  case listen port backlog reuse dualStack => exact listen_secureSound H _ _ _ _ hs
  case listenUnix path backlog => exact listenUnix_secureSound H _ _ hs
  case connect host port timeout => exact connect_secureSound H _ _ _ hs
  case connectUnix path => exact connectUnix_secureSound H _ hs
  case connectUsing g => exact connectUsing_secureSound H g hs hop
  case acceptConnection => exact acceptConnection_secureSound H hs
  case listenForMessage buffer port backlog => exact listenForMessage_secureSound H _ _ _ hs
  case readInto buffer nbytes truncate =>
    exact (readInto_keeps H buffer nbytes truncate).ends
      (fun _ _ h => secureSound_of_security (security_apartFromReads h) hs)
      (fun _ _ h => secureSound_of_security (security_apartFromReads h) hs)
  case readData =>
    exact (readData_keeps H).ends
      (fun _ _ h => secureSound_of_security (security_apartFromReads h) hs)
      (fun _ _ h => secureSound_of_security (security_apartFromReads h) hs)
  case readString =>
    exact (readData_keeps H).ends
      (fun _ _ h => secureSound_of_security (security_apartFromReads h) hs)
      (fun _ _ h => secureSound_of_security (security_apartFromReads h) hs)
  case setBlocking v =>
    exact (setBlocking_keeps_security H v).ends (fun _ _ h => secureSound_of_security h hs)
      (fun _ _ h => secureSound_of_security h hs)
  case resizeReadBuffer size =>
    exact (resizeReadBuffer_keeps_security size).ends (fun _ _ h => secureSound_of_security h hs)
      (fun _ _ h => secureSound_of_security h hs)
  case close => exact closeWith_secureSound H true

end Op

/-- Every socket the library hands out is marked secure only when it has a delegate, and stays
so along every run that avoids the three steps that can unsecure it. -/
theorem secure_only_with_delegate {σ : Type} (H : Host σ) :
    (∀ family type proto d w, Ends (Socket.create H family type proto d) w
      (fun s _ => SecureSound s) (fun _ _ => True)) ∧
    (∀ h address path d w, Ends (Socket.fromNative H h address path d) w
      (fun s _ => SecureSound s) (fun _ _ => True)) ∧
    (∀ invoke (st : Socket × σ), Ends (Socket.acceptClient H invoke) st
      (fun child _ => SecureSound child) (fun _ _ => True)) ∧
    (∀ s t, SecureSound s → Reaches H (fun s op => ¬op.Unsecures s) s t → SecureSound t) :=
  ⟨fun _ _ _ _ _ => Socket.create_secureSound H _ _ _ _,
    fun _ _ _ _ _ => Socket.fromNative_secureSound H _ _ _ _,
    fun _ _ => Socket.acceptClient_secureSound H _,
    fun _ _ hs hreach => hreach.invariant
      (fun _ op _ hsound hop hstep => hstep.invariant fun _ => op.secureSound_step H hsound hop) hs⟩

/-- On a system that grants every call, a fresh internet socket with a delegate listens at port
80: it is marked secure, and its delegate is installed. -/
theorem delegated_listener_secure :
    SecureSound (freshInet (some "tls")) ∧
      Reaches (grantingHost []) (fun s op => ¬op.Unsecures s) (freshInet (some "tls"))
        (listenedInet (some "tls")) ∧
      (listenedInet (some "tls")).signature.isSecure = true ∧
      SecureSound (listenedInet (some "tls")) :=
  have hfresh : SecureSound (freshInet (some "tls")) := fun h => by cases h
  have hreach : Reaches (grantingHost []) (fun s op => ¬op.Unsecures s) (freshInet (some "tls"))
      (listenedInet (some "tls")) :=
    .single ⟨.listen (.int 80) .none (.bool false) (.bool false), id,
      ⟨(), by with_unfolding_all rfl⟩⟩
  ⟨hfresh, hreach, rfl,
    (secure_only_with_delegate (grantingHost [])).2.2.2 _ _ hfresh hreach⟩

/-- A listening internet stream with a delegate, marked secure as `listen` marks it. -/
def secureListener : Socket :=
  { native := none
    signature := { family := .inet, type := .stream, protocol := .tcp, isSecure := true }
    delegate := some "srv", listening := true }

/-- Removing the delegate of a secure listener leaves the mark on a socket without one. -/
theorem removing_delegate_keeps_mark :
    SecureSound secureListener ∧
      Step Machine.host secureListener (.setDelegate none)
        { secureListener with delegate := none } ∧
      ¬SecureSound { secureListener with delegate := none } :=
  ⟨fun h => absurd h (by decide), ⟨default, rfl⟩, fun h => absurd (h rfl) (by decide)⟩

end Sockets
