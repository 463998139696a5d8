import Sockets.Proofs.Closed

/-!
# Connected or listening

A socket is meant to be connected or listening, never both (`Exclusive`). Every socket a factory
hands out is, and most operations keep it so: `listen` and `listenUnix` refuse a connected
socket, and `connect` and `acceptConnection` close the old native socket, which ends its
listening, before they connect.

Three steps do not (`Op.JoinsBoth`): `listenForMessage` marks a bound datagram socket listening
without looking at whether it is connected, and `connectUnix`, and `connectUsing` through a path
or a raw address, connect without looking at whether the socket listens. On a connected, or a
listening, socket each of them can end with a socket that is both. They are the only ones:
along every run that avoids them, a socket that started exclusive stays so
(`exclusive_of_reaches`).
-/

namespace Sockets

/-- Not connected and listening at once. -/
def Exclusive (s : Socket) : Prop := s.connected = true → s.listening = false

/-- `connectUsing` reaches what the signature describes by host name and port, through
`connect`, rather than by its path or its raw address. -/
def Signature.ByEndpoint (g : Signature) : Prop :=
  g.path = .none ∧ g.hostname ≠ .none ∧ g.port.equals (.int Limits.invalidPort) = false

/-- The steps that can make a socket both connected and listening: marking a connected datagram
socket listening, and connecting a listening socket by a path or a raw address. -/
def Op.JoinsBoth : Op → Socket → Prop
  | .listenForMessage .., s => s.connected = true
  | .connectUnix _, s => s.listening = true
  | .connectUsing g, s => s.listening = true ∧ ¬g.ByEndpoint
  | _, _ => False

namespace Socket

variable {σ : Type} (H : Host σ) {st : Socket × σ}

/-! ## Serving -/

/-- `listen` never changes whether the socket is connected, and starts listening only on a
socket that is not. -/
theorem listen_exclusive (port backlog reuse dualStack : Value) :
    Ends (listen H port backlog reuse dualStack) st
      (fun _ st' => st'.1.connected = st.1.connected ∧ (Exclusive st.1 → Exclusive st'.1))
      (fun _ st' => st'.1.connected = st.1.connected ∧ (Exclusive st.1 → Exclusive st'.1)) := by
  simp only [listen, ↓ends_checkDescriptor, ↓ends_bind, ↓ends_current, ↓ends_throw, ↓ends_pure,
    ↓ends_ite, ↓ends_rethrow, ↓ends_keepBacklog, ↓ends_of_fixes (setOption_fixes _ _ _ _),
    ↓ends_orCode, ↓ends_sys, ↓ends_of_fixes (sharePorts_fixes _ _), ↓ends_prepareDelegate,
    ↓ends_change, ↓ends_changeSignature, ↓ends_of_fixes (bindFirst_fixes _ _ _ _),
    ↓ends_of_fixes (boundAddress_fixes _ _ _)]
  simp +contextual [Exclusive]

theorem listenUnix_exclusive (path backlog : Value) (hs : Exclusive st.1) :
    Ends (listenUnix H path backlog) st (fun _ st' => Exclusive st'.1)
      (fun _ st' => Exclusive st'.1) := by
  simp only [listenUnix, ↓ends_checkDescriptor, ↓ends_bind, ↓ends_current, ↓ends_throw,
    ↓ends_ite, ↓ends_rethrow, ↓ends_keepBacklog,
    ↓ends_of_fixes (setOption_fixes _ _ _ _), ↓ends_of_fixes (clearNode_fixes _ _), ↓ends_orCode,
    ↓ends_sys, ↓ends_change, ↓ends_changeSignature]
  unfold Exclusive at hs
  simp +contextual [Exclusive, hs]

/-- Accepting in place of listening closes the listener first. -/
theorem acceptConnection_exclusive (hs : Exclusive st.1) :
    Ends (acceptConnection H) st (fun _ st' => Exclusive st'.1)
      (fun _ st' => Exclusive st'.1) := by
  simp only [acceptConnection, ↓ends_checkDescriptor, ↓ends_bind, ↓ends_current,
    ↓ends_of_fixes requireListener_fixes, ↓ends_of_fixes (acceptNative_fixes _ _), ↓ends_attempt,
    closeWith, closeNative, removeOwnedPath, ↓ends_change, ↓ends_changeSignature, ↓ends_rethrow,
    ↓ends_system, ↓ends_secureWith, ↓ends_sys, ↓ends_ite, ↓ends_pure, ↓ends_throw]
  unfold Exclusive at hs
  simp +contextual [Exclusive, hs]

/-- A datagram socket that is not connected stays unconnected while it binds, and may then be
marked listening. -/
theorem listenForMessage_exclusive (buffer : List UInt8) (port backlog : Value)
    (hc : st.1.connected = false) :
    Ends (listenForMessage H buffer port backlog) st (fun _ st' => Exclusive st'.1)
      (fun _ st' => Exclusive st'.1) := by
  simp only [listenForMessage, ↓ends_bind, ↓ends_ite, ↓ends_throw, ↓ends_checkDescriptor,
    ↓ends_of_fixes requireDatagram_fixes, ↓ends_current, ↓ends_change,
    ↓ends_of_fixes (readDatagramInto_fixes _ _)]
  simp [Exclusive, hc]
  intro _ h _ _
  refine ends_of_forall (fun _ w _ => ?_) (fun _ _ => trivial)
  -- binding goes through `listen`, which leaves the socket unconnected
  refine ends_mono (listen_exclusive H _ _ _ _) (fun _ st' hl => ?_) (fun _ st' hl => ?_) <;>
    simp [hl.1, hc]

/-! ## Connecting and closing -/

/-- `connect` closes the old native socket, which ends its listening, before it connects. -/
theorem connect_exclusive (host port timeout : Value) (hs : Exclusive st.1) :
    Ends (connect H host port timeout) st (fun _ st' => Exclusive st'.1)
      (fun _ st' => Exclusive st'.1) := by
  simp only [connect, ↓ends_checkDescriptor, ↓ends_bind, ↓ends_current, ↓ends_throw,
    ↓ends_pure, ↓ends_ite, ↓ends_rethrow, ↓ends_sys, ↓ends_tryCatch, ↓ends_prepareDelegate,
    ↓ends_change, ↓ends_attempt, ↓ends_secureWith,
    ↓ends_of_fixes (firstConnection_fixes _ _ _ _), closeWith, closeNative, removeOwnedPath]
  unfold Exclusive at hs
  simp +contextual [Exclusive, hs]

/-- `connectUnix` never changes whether the socket listens. -/
theorem connectUnix_keeps_listening (path : Value) :
    Keeps Socket.listening (connectUnix H path) := by
  intro st
  simp only [connectUnix, ↓ends_checkDescriptor, ↓ends_bind, ↓ends_current, ↓ends_throw,
    ↓ends_ite, ↓ends_rethrow, ↓ends_orCode, ↓ends_sys, ↓ends_change]
  simp

theorem connectUsing_exclusive (g : Signature) (hs : Exclusive st.1)
    (hjoin : ¬(st.1.listening = true ∧ ¬g.ByEndpoint)) :
    Ends (connectUsing H g) st (fun _ st' => Exclusive st'.1) (fun _ st' => Exclusive st'.1) := by
  simp only [connectUsing, ↓ends_bind, ↓ends_checkDescriptor, ↓ends_ite, ↓ends_throw,
    ↓ends_current, ↓ends_prepareDelegate, ↓ends_sys]
  refine ⟨fun h _ => ?_, fun _ => hs⟩
  split
  · exact hs
  by_cases hend : g.ByEndpoint
  · -- through the host name and port: `connect` keeps the socket exclusive
    obtain ⟨hpath, hhost, hport⟩ := hend
    simp only [hpath, Bool.not_true, Bool.false_eq_true, if_false]
    split
    · exact connect_exclusive H _ _ _ hs
    · simp_all
  -- by any other route the socket does not listen, and stays so
  have hl : st.1.listening = false := by simpa [hend] using hjoin
  split
  · rename_i hpath
    simp only [Bool.not_true, Bool.false_eq_true, if_false]
    rw [if_neg]
    case hnc => split <;> simp_all [Signature.ByEndpoint]
    -- to the raw address, which sets the socket connected and leaves it not listening
    unfold Exclusive at hs
    by_cases ha : ∃ a, g.address = .addr a
    · obtain ⟨a, ha⟩ := ha
      simp +contextual [ha, Exclusive, hs, hl, ends_bind, ends_orCode, ends_sys,
        ends_change, ends_secureWith]
    · -- with no address to connect to, the step fails before it connects
      simp +contextual [Exclusive, hs, hl]
      intro _ _
      refine ⟨fun d _ _ w _ => ?_, fun _ => ?_⟩
      all_goals
        split
        next a hg => exact absurd ⟨a, hg⟩ ha
        next => simp +contextual [ends_bind, ends_throw, hs]
  · exact (connectUnix_keeps_listening H g.path).ends (fun _ _ h => by simp [Exclusive, h, hl])
      (fun _ _ h => by simp [Exclusive, h, hl])

/-- Closing leaves a socket neither connected nor listening, whatever fails on the way. -/
theorem closeWith_disconnects (teardown : Bool) :
    Ends (closeWith H teardown) st
      (fun _ st' => st'.1.connected = false ∧ st'.1.listening = false)
      (fun _ st' => st'.1.connected = false ∧ st'.1.listening = false) :=
  ends_mono (closeWith_closed H teardown) (fun _ _ h => ⟨h.disconnected, h.notListening⟩)
    (fun _ _ h => ⟨h.disconnected, h.notListening⟩)

/-! ## Operations that change neither flag -/

theorem setBlocking_exclusive (v : Value) (hs : Exclusive st.1) :
    Ends (setBlocking H v) st (fun _ st' => Exclusive st'.1) (fun _ st' => Exclusive st'.1) := by
  simp only [setBlocking, ↓ends_checkDescriptor, ↓ends_bind, ↓ends_rethrow, ↓ends_orCode,
    ↓ends_sys, ↓ends_change]
  unfold Exclusive at hs
  simp +contextual [Exclusive, hs]

/-- A socket that agrees with an exclusive one apart from what it has read is exclusive. -/
theorem exclusive_of_apartFromReads {s s' : Socket} (h : s'.apartFromReads = s.apartFromReads)
    (hs : Exclusive s) : Exclusive s' :=
  show Exclusive s'.apartFromReads from h ▸ hs

/-- A socket that agrees with an exclusive one apart from its settings is exclusive. -/
theorem exclusive_of_apartFromSettings {s s' : Socket}
    (h : s'.apartFromSettings = s.apartFromSettings) (hs : Exclusive s) : Exclusive s' :=
  show Exclusive s'.apartFromSettings from h ▸ hs

end Socket

namespace Op

open Socket

variable {σ : Type} (H : Host σ) {st : Socket × σ}

/-- Every step but the three that join both keeps a socket exclusive, whether it returns or
fails. -/
theorem exclusive_step (op : Op) (hs : Exclusive st.1) (hop : ¬op.JoinsBoth st.1) :
    Ends (op.perform H) st (fun _ st' => Exclusive st'.1) (fun _ st' => Exclusive st'.1) := by
  by_cases hfix : op.LeavesSocket
  · exact (Fixes.keeps (perform_fixes H hfix) Exclusive).2 hs
  cases op <;> simp only [LeavesSocket, not_true_eq_false] at hfix
  -- being the target of a hook is not an operation of the socket's own
  case acceptedBy listener =>
    refine ends_mono (acceptedBy_hooked H listener) (fun _ _ h => ?_) (fun _ _ h => h ▸ hs)
    simpa [h.2, hooked, Exclusive] using hs
  -- every other operation is one of the socket's own, and hands out what it returns
  all_goals simp only [perform, ↓ends_bind, ↓ends_pure]
  case listen port backlog reuse dualStack =>
    exact ends_mono (listen_exclusive H port backlog reuse dualStack) (fun _ _ h => h.2 hs)
      (fun _ _ h => h.2 hs)
  case listenUnix path backlog => exact listenUnix_exclusive H path backlog hs
  case connect host port timeout => exact connect_exclusive H host port timeout hs
  case connectUnix path =>
    have hl : st.1.listening = false := by simpa [JoinsBoth] using hop
    exact (connectUnix_keeps_listening H path).ends (fun _ _ h => by simp [Exclusive, h, hl])
      (fun _ _ h => by simp [Exclusive, h, hl])
  case connectUsing g => exact connectUsing_exclusive H g hs hop
  case acceptConnection => exact acceptConnection_exclusive H hs
  case readInto buffer nbytes truncate =>
    exact (readInto_keeps H buffer nbytes truncate).ends
      (fun _ _ h => exclusive_of_apartFromReads h hs)
      (fun _ _ h => exclusive_of_apartFromReads h hs)
  case readData =>
    exact (readData_keeps H).ends (fun _ _ h => exclusive_of_apartFromReads h hs)
      (fun _ _ h => exclusive_of_apartFromReads h hs)
  case readString =>
    exact (readData_keeps H).ends (fun _ _ h => exclusive_of_apartFromReads h hs)
      (fun _ _ h => exclusive_of_apartFromReads h hs)
  case listenForMessage buffer port backlog =>
    exact listenForMessage_exclusive H buffer port backlog (by simpa [JoinsBoth] using hop)
  case setBlocking v => exact setBlocking_exclusive H v hs
  case resizeReadBuffer size =>
    exact (resizeReadBuffer_keeps size).ends (fun _ _ h => exclusive_of_apartFromSettings h hs)
      (fun _ _ h => exclusive_of_apartFromSettings h hs)
  case setDelegate d =>
    exact (setDelegate_keeps d).ends (fun _ _ h => exclusive_of_apartFromSettings h hs)
      (fun _ _ h => exclusive_of_apartFromSettings h hs)
  case close =>
    exact ends_mono (closeWith_disconnects H true) (fun _ _ h => by simp [Exclusive, h.1])
      (fun _ _ h => by simp [Exclusive, h.1])

end Op

variable {σ : Type} (H : Host σ)

/-- A socket as the library hands it out is exclusive. -/
theorem Fresh.exclusive {s : Socket} (hs : Fresh s) : Exclusive s := by
  simp [Exclusive, hs.notListening]

/-- Connected and listening exclude each other along every run from a socket as the library
hands it out, as long as the run takes none of the three steps that join them. -/
theorem exclusive_of_reaches {s t : Socket} (hs : Fresh s)
    (hreach : Reaches H (fun s op => ¬op.JoinsBoth s) s t) : Exclusive t :=
  hreach.invariant
    (fun _ op _ hex hop hstep => hstep.invariant fun _ => op.exclusive_step H hex hop)
    hs.exclusive

/-- On a system that grants every call, a fresh internet socket listens at port 80, then
connects to port 80 of `localhost`: it ends connected, and no longer listening. -/
theorem listener_connects_exclusively :
    Fresh (freshInet none) ∧
      Reaches (grantingHost []) (fun s op => ¬op.JoinsBoth s) (freshInet none) connectedInet ∧
      (listenedInet none).listening = true ∧ connectedInet.connected = true ∧
      Exclusive connectedInet :=
  have hlisten : Step (grantingHost []) (freshInet none)
      (.listen (.int 80) .none (.bool false) (.bool false)) (listenedInet none) :=
    ⟨(), by with_unfolding_all rfl⟩
  have hconnect : Step (grantingHost []) (listenedInet none)
      (.connect (.ofString "localhost") (.int 80) (.int 0)) connectedInet :=
    ⟨(), by with_unfolding_all rfl⟩
  have hreach : Reaches (grantingHost []) (fun s op => ¬op.JoinsBoth s) (freshInet none)
      connectedInet :=
    .tail (.single ⟨_, id, hlisten⟩) ⟨_, id, hconnect⟩
  ⟨⟨rfl, rfl, rfl⟩, hreach, rfl, rfl,
    exclusive_of_reaches (grantingHost []) ⟨rfl, rfl, rfl⟩ hreach⟩

end Sockets
