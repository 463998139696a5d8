import Sockets.Proofs.Modes
import Sockets.Proofs.Accept

/-!
# The blocking flag along a socket's life

A socket keeps a flag that says whether it blocks, and the flag is meant to be the mode of its
native socket (`Mirrors`). On a host whose native calls and delegate hooks keep to
`Host.ModeLaws`, this module follows the flag from where a socket is handed out through every
operation performed on it.

* Every socket the library hands out mirrors its native socket (`Made.mirrors`): the flag is read
  from the native socket it is made around.
* One operation from a socket that mirrors its native socket ends mirroring it, except when the
  operation puts a new native socket in place of the socket's own and then fails: connecting to
  a host, directly or through a signature, and accepting in place of listening
  (`Op.perform_mirrors`). Such a failure can leave the new native socket under the flag of the
  old one (`Stale`): the flag is read from the new native socket only after the steps that may
  still fail.
* Hence along every run of operations, with whatever else happens on the system in between as
  long as it leaves the socket's native socket alone, the flag mirrors the native socket, as long
  as no such failure leaves a new native socket behind (`blocking_flag_mirrors_mode`).

`tableHost` is a host that keeps nothing but the mode of each native socket it made; it keeps to
the laws, so the statement is not empty.
-/

namespace Sockets

/-- The operations that may put a new native socket in place of the socket's own: connecting to a
host, directly or through a signature, and accepting in place of listening. -/
def Op.replacesNative : Op → Bool
  | .connect .. | .connectUsing _ | .acceptConnection => true
  | _ => false

namespace Socket

variable {σ α : Type} {H : Host σ} {st : Socket × σ}

/-- A socket without a native socket mirrors nothing and so mirrors trivially. -/
theorem mirrors_of_native_none (hn : st.1.native = none) : Mirrors H st := by
  intro h hh
  rw [hn] at hh
  cases hh

/-- A program that stays calm ends mirroring as it started. -/
theorem mirrors_of_staysCalm {prog : SocketM σ α} {P : Socket × σ → Prop} (hq : StaysCalm H prog)
    (hm : Mirrors H st) :
    Ends prog st (fun _ st' => Mirrors H st') (fun _ st' => Mirrors H st' ∨ P st') :=
  ends_mono (hq st) (fun _ _ hc => hm.of_calm hc) (fun _ _ hc => .inl (hm.of_calm hc))

/-- A program that stays calm, with what it returns replaced by `b`, ends mirroring as it
started. -/
theorem mirrors_of_staysCalm_then {β : Type} {prog : SocketM σ α} {P : Socket × σ → Prop}
    (hq : StaysCalm H prog) (hm : Mirrors H st) (b : β) :
    Ends (do let _ ← prog; Pure.pure b) st (fun _ st' => Mirrors H st')
      (fun _ st' => Mirrors H st' ∨ P st') :=
  mirrors_of_staysCalm (StaysCalm.bind hq fun _ => StaysCalm.pure b) hm

/-- A program that may put a new native socket in place of the socket's own, run as an operation
that does so: a failure it ends in without mirroring is one with the new native socket under the
old flag. -/
theorem mirrors_or_stale_then {β : Type} {prog : SocketM σ α} {r : Bool} (hr : r = true) (b : β)
    (hp : Ends prog st (fun _ st' => Mirrors H st') (fun _ st' => Mirrors H st' ∨ Stale st st')) :
    Ends (do let _ ← prog; Pure.pure b) st (fun _ st' => Mirrors H st')
      (fun _ st' => Mirrors H st' ∨ r = true ∧ Stale st st') := by
  simp only [ends_bind, ends_pure]
  exact ends_mono hp (fun _ _ h => h) (fun _ _ h => h.imp_right fun hs => ⟨hr, hs⟩)

section Laws

variable (hL : H.ModeLaws)
include hL

/-- Being the target of a listener's accept hook hands the socket back with its own native socket
and flag, and the hook keeps every native socket. -/
theorem acceptedBy_calm (listener : Socket) : StaysCalm H ((Op.acceptedBy listener).perform H) := by
  intro st
  simp only [Op.perform, ↓ends_bind, ↓ends_current, ↓ends_within,
    ↓ends_at (invokeOnAccept_spec hL st.1), ↓ends_rethrow, ↓ends_change, ↓ends_pure]
  simp +contextual [Calm]

/-- One operation from a socket that mirrors its native socket ends mirroring it; only an
operation that puts a new native socket in place of the socket's own may fail with the new one
under the old flag. -/
theorem Op.perform_mirrors (op : Op) (hm : Mirrors H st) :
    Ends (op.perform H) st (fun _ st' => Mirrors H st')
      (fun _ st' => Mirrors H st' ∨ op.replacesNative = true ∧ Stale st st') := by
  cases op with
  | listen port backlog reuse dualStack =>
    exact mirrors_of_staysCalm_then (listen_calm hL _ _ _ _) hm _
  | listenUnix path backlog => exact mirrors_of_staysCalm_then (listenUnix_calm hL _ _) hm _
  | connect host port timeout => exact mirrors_or_stale_then rfl _ (connect_mirrors hL _ _ _ hm)
  | connectUnix path => exact mirrors_of_staysCalm_then (connectUnix_calm hL _) hm _
  | connectUsing g => exact mirrors_or_stale_then rfl _ (connectUsing_mirrors hL _ hm)
  | acceptClient invoke =>
    -- the listener keeps its native socket; the new socket is handed out, not kept
    simp only [Op.perform, ends_bind, ends_pure]
    exact ends_mono (acceptClient_spec hL invoke) (fun _ _ h => hm.of_steady h.1)
      (fun _ _ h => .inl (hm.of_steady h))
  | acceptConnection => exact mirrors_or_stale_then rfl _ (acceptConnection_mirrors hL hm)
  | invokeOnAccept target => exact mirrors_of_staysCalm_then (invokeOnAccept_calm hL _) hm _
  | acceptedBy listener => exact mirrors_of_staysCalm (acceptedBy_calm hL listener) hm
  | write data => exact mirrors_of_staysCalm_then (write_calm hL _) hm _
  | writeTo data address => exact mirrors_of_staysCalm_then (writeTo_calm hL _ _) hm _
  | readInto buffer nbytes truncate =>
    -- the bytes handed out are cut from what the read returned
    exact mirrors_of_staysCalm (StaysCalm.bind (readInto_calm hL _ _ _) fun r => by
      obtain ⟨n, view⟩ := r
      exact StaysCalm.pure _) hm
  | readData => exact mirrors_of_staysCalm (readData_calm hL) hm
  | readString encoding => exact mirrors_of_staysCalm (readData_calm hL) hm
  | readDatagramInto buffer => exact mirrors_of_staysCalm_then (readDatagramInto_calm hL _) hm _
  | readDatagram => exact mirrors_of_staysCalm_then (readDatagram_calm hL) hm _
  | listenForMessage buffer port backlog =>
    exact mirrors_of_staysCalm_then (listenForMessage_calm hL _ _ _) hm _
  | setBlocking v =>
    -- a setting that returns sets the flag and the mode alike; a refused one changes neither
    simp only [Op.perform, ends_bind, ends_pure]
    refine ends_mono (setBlocking_spec hL v) (fun _ st' h => ?_)
      (fun _ _ h => .inl (hm.of_steady h))
    obtain ⟨hn, hb, ha⟩ := h
    intro h' hh'
    rw [hb]
    exact ha h' (hn ▸ hh')
  | setReadTimeout ms => exact mirrors_of_staysCalm_then (setReadTimeout_calm hL _) hm _
  | setWriteTimeout ms => exact mirrors_of_staysCalm_then (setWriteTimeout_calm hL _) hm _
  | udpBroadcast enable => exact mirrors_of_staysCalm_then (udpBroadcast_calm hL _) hm _
  | resizeReadBuffer size => exact mirrors_of_staysCalm_then (resizeReadBuffer_calm H _) hm _
  | setDelegate d => exact mirrors_of_staysCalm_then (setDelegate_calm H _) hm _
  | readiness waitForever timeout => exact mirrors_of_staysCalm_then (readiness_calm hL _ _) hm _
  | close =>
    -- closing ends without a native socket, whether it returns or fails
    simp only [Op.perform, ends_bind, ends_pure]
    exact ends_mono (closeWith_spec hL true) (fun _ _ h => mirrors_of_native_none h.1)
      (fun _ _ h => .inl (mirrors_of_native_none h.1))

end Laws

/-! ## Where a socket starts -/

/-- A socket made for a family, type and protocol has the mode of the native socket made for it as
its flag. -/
theorem create_mirrors (family type proto : Value) (d : Option String) {w : σ} :
    Ends (create H family type proto d) w (fun s w' => Mirrors H (s, w')) (fun _ _ => True) := by
  simp only [create, ↓ends_bind, ↓ends_liftExcept, ↓ends_tryCatch, ends_eq (H.create _ _ _),
    ↓ends_ite, ↓ends_throw, ↓ends_wrap]
  simp [Mirrors]

/-- A socket made around a connected native socket has that native socket's mode as its flag. -/
theorem fromNative_mirrors (h : Handle) (address path : Value) (d : Option String) {w : σ} :
    Ends (fromNative H h address path d) w (fun s w' => Mirrors H (s, w')) (fun _ _ => True) := by
  simp only [fromNative, ↓ends_bind, ↓ends_get]
  split
  · simp [ends_wrap, Mirrors]
  · simp [ends_bind, ends_eq (H.close _), ends_throw]

theorem wrapNative_mirrors (h : Handle) (address : Value) (d : Option String) {w : σ} :
    Ends (wrapNative H h address d) w (fun s w' => Mirrors H (s, w')) (fun _ _ => True) := by
  simp only [wrapNative]
  split
  · simp [ends_bind, ends_throw]
  · simp [ends_at (fromNative_mirrors _ _ _ _)]

theorem adopt_mirrors (fd address : Value) (d : Option String) {w : σ} :
    Ends (adopt H fd address d) w (fun s w' => Mirrors H (s, w')) (fun _ _ => True) := by
  simp only [adopt]
  -- a missing address is refused first, then a number that names no native socket
  split
  · simp [ends_bind, ends_throw]
  · split
    · simp [ends_bind, ends_at (fromNative_mirrors _ _ _ _)]
    · simp [ends_bind, ends_throw]

/-- A socket as the library hands it out, with the system it hands it out in: made for a family,
type and protocol, made around a connected native socket or the descriptor of one, or accepted by
a listener as a new socket. -/
inductive Made (H : Host σ) : Socket × σ → Prop
  /-- Made for a family, type and protocol. -/
  | create {family type proto : Value} {d : Option String} {w w' : σ} {s : Socket}
      (hrun : create H family type proto d w = .ok s w') : Made H (s, w')
  /-- Made around a connected native socket. -/
  | wrapNative {h : Handle} {address : Value} {d : Option String} {w w' : σ} {s : Socket}
      (hrun : wrapNative H h address d w = .ok s w') : Made H (s, w')
  /-- Made around the native socket of a descriptor. -/
  | adopt {fd address : Value} {d : Option String} {w w' : σ} {s : Socket}
      (hrun : adopt H fd address d w = .ok s w') : Made H (s, w')
  /-- Accepted by a listener as a new socket. -/
  | accepted {invoke : Bool} {st st' : Socket × σ} {t : Socket}
      (hrun : acceptClient H invoke st = .ok t st') : Made H (t, st'.2)

/-- Every socket the library hands out mirrors its native socket. -/
theorem Made.mirrors (hL : H.ModeLaws) (hmade : Made H st) : Mirrors H st := by
  cases hmade with
  | create hrun => exact (ok_of_ends (create_mirrors _ _ _ _) hrun :)
  | wrapNative hrun => exact (ok_of_ends (wrapNative_mirrors _ _ _) hrun :)
  | adopt hrun => exact (ok_of_ends (adopt_mirrors _ _ _) hrun :)
  | accepted hrun => exact (ok_of_ends (acceptClient_spec hL _) hrun).2

/-! ## Along a socket's life -/

/-- `op` from `st` does not fail with a new native socket in the socket's place: an operation that
puts one there returns, or fails with the socket's own native socket still in place. -/
def KeepsOwnOnFailure (H : Host σ) (st : Socket × σ) (op : Op) : Prop :=
  op.replacesNative = true → ∀ e st', op.perform H st = .error e st' → st'.1.native = st.1.native

/-- The states of a socket and the system from where the library handed the socket out, along
steps that `allowed` lets through: each step is an operation performed on the socket from where
the last one ended, or anything else done on the system that leaves the mode of the socket's
native socket alone, such as what other sockets do. -/
inductive Reachable (H : Host σ) (allowed : Socket × σ → Op → Prop) : Socket × σ → Prop
  /-- Where the library hands the socket out. -/
  | made {st : Socket × σ} (hmade : Made H st) : Reachable H allowed st
  /-- An operation on the socket, returning or failing. -/
  | step {st st' : Socket × σ} {op : Op} (hr : Reachable H allowed st) (hallowed : allowed st op)
      (hstep : Ends (op.perform H) st (fun _ s => s = st') (fun _ s => s = st')) :
      Reachable H allowed st'
  /-- Anything else done on the system. -/
  | elsewhere {s : Socket} {w w' : σ} (hr : Reachable H allowed (s, w))
      (hkeep : ∀ h, s.native = some h → H.modes w' h = H.modes w h) :
      Reachable H allowed (s, w')

/-- The blocking flag mirrors the native socket. Every socket the library hands out has the mode
of its native socket as its flag, and keeps it so through every operation performed on it and
whatever else is done on the system, on every host that keeps to the laws of modes, as long as no
connect and no accept in place of listening fails after taking its new native socket. -/
theorem blocking_flag_mirrors_mode (hL : H.ModeLaws) (hr : Reachable H (KeepsOwnOnFailure H) st) :
    Mirrors H st := by
  induction hr with
  | made hmade => exact hmade.mirrors hL
  | @step st st' op _ hallowed hstep ih =>
    have hmirror := Op.perform_mirrors hL op ih
    rw [ends_eq] at hstep hmirror
    rcases hrun : op.perform H st with ⟨_, s⟩ | ⟨e, s⟩
    · rw [← hstep.1 _ _ hrun]
      exact hmirror.1 _ _ hrun
    · rw [← hstep.2 _ _ hrun]
      -- a failure that took a new native socket is what the run rules out
      rcases hmirror.2 _ _ hrun with hm | ⟨hreplaces, hstale⟩
      · exact hm
      · exact absurd (hallowed hreplaces e s hrun) hstale.1
  | elsewhere _ hkeep ih => exact ih.of_steady ⟨rfl, rfl, hkeep⟩

/-! ## A host that keeps to the laws -/

/-- A host that keeps nothing but the mode of each native socket it made, in the order made:
native socket `n` is the `n`-th made, and stays open. Making a native socket adds one that
blocks and setting a mode sets it; no other call changes anything. Adopting, accepting, asking
for the bound address and receiving a datagram are refused, a name resolves to no address, and
the delegates do nothing. -/
def tableHost : Host (List Bool) where
  fileno h w := if h.id < w.length then h.id else -1
  family _ _ := Family.inet.value
  socketType _ _ := SocketType.stream.value
  blocking h w := w.getD h.id true
  interruptions _ _ := 0
  create _ _ _ := fun w => .ok ⟨w.length⟩ (w ++ [true])
  adopt _ := throw (.os 95 "Operation not supported")
  close _ := pure ()
  shutdown _ _ := pure ()
  setBlocking h b := fun w => .ok () (w.set h.id b)
  setOption _ _ _ := pure ()
  bind _ _ := pure ()
  listen _ _ := pure ()
  accept _ := throw (.os 95 "Operation not supported")
  connect _ _ := pure ()
  sockName _ := throw (.os 95 "Operation not supported")
  pendingError _ := pure 0
  recv _ _ _ := pure []
  recvFrom _ _ := throw (.os 95 "Operation not supported")
  send _ data := pure data.length
  sendTo _ data _ := pure data.length
  select readable writable _ := pure (readable, writable)
  unlink _ := pure ()
  resolve _ _ _ := pure []
  delegates :=
    { setUp := fun _ _ => pure ()
      tearDown := fun _ => pure ()
      onAccept := fun _ _ => pure ()
      onConnect := fun _ _ => pure ()
      send := fun _ _ data => pure data.length
      recv := fun _ _ _ => pure []
      sendRetries := fun _ _ => 0
      recvRetries := fun _ _ => 0 }

/-- The mode `tableHost` gives a native socket is its entry in the table. -/
@[simp] theorem tableHost_modes (w : List Bool) (h : Handle) : tableHost.modes w h = w[h.id]? := by
  unfold Host.modes
  by_cases hlt : h.id < w.length
  · simp [tableHost, hlt, List.getD_eq_getElem?_getD]
  · simp [tableHost, hlt]

theorem tableHost_modeLaws : tableHost.ModeLaws where
  create _ _ _ w := by
    show tableHost.modes w ⟨w.length⟩ = none ∧ tableHost.Agrees ⟨w.length⟩ true (w ++ [true]) ∧
      ∀ h, h ≠ ⟨w.length⟩ → tableHost.modes (w ++ [true]) h = tableHost.modes w h
    exact ⟨by simp, by simp [Host.Agrees], fun h hne => by
      simp [getElem?_append_singleton_of_ne (Handle.id_ne_of_ne hne)]⟩
  accept _ _ _ := rfl
  close _ _ _ _ := rfl
  setBlocking h b w := by
    show tableHost.Agrees h b (w.set h.id b) ∧
      ∀ h', h ≠ h' → tableHost.modes (w.set h.id b) h' = tableHost.modes w h'
    refine ⟨?_, fun h' hne => ?_⟩
    · by_cases hlt : h.id < w.length <;> simp [Host.Agrees, hlt]
    · simp [List.getElem?_set_ne (Handle.id_ne_of_ne hne)]
  shutdown _ _ _ _ := rfl
  setOption _ _ _ _ _ := rfl
  bind _ _ _ _ := rfl
  listen _ _ _ _ := rfl
  connect _ _ _ _ := rfl
  sockName _ _ _ := rfl
  pendingError _ _ _ := rfl
  recv _ _ _ _ _ := rfl
  recvFrom _ _ _ _ := rfl
  send _ _ _ _ := rfl
  sendTo _ _ _ _ _ := rfl
  select _ _ _ _ _ := rfl
  unlink _ _ _ := rfl
  resolve _ _ _ _ _ := rfl
  setUp _ _ _ _ := rfl
  tearDown _ _ _ := rfl
  onAccept _ _ _ _ := rfl
  onConnect _ _ _ _ := rfl
  delegateSend _ _ _ _ _ := rfl
  delegateRecv _ _ _ _ _ := rfl

/-- Where a run ends, whether it returns or fails. -/
def endState {ε S β : Type} : EStateM.Result ε S β → S
  | .ok _ s => s
  | .error _ s => s

theorem ends_endState {ε S β : Type} (prog : EStateM ε S β) (st : S) :
    Ends prog st (fun _ s => s = endState (prog st)) (fun _ s => s = endState (prog st)) := by
  unfold Ends
  split <;> simp_all [endState]

/-- An operation whose failure from `st`, if it fails, keeps the socket's native socket, as a
check that runs. -/
theorem keepsOwnOnFailure_of_check {op : Op}
    (hcheck : (match op.perform H st with
      | .ok _ _ => true
      | .error _ st' => decide (st'.1.native = st.1.native)) = true) :
    KeepsOwnOnFailure H st op := by
  intro _ e st' hrun
  rw [hrun] at hcheck
  simpa using hcheck

/-- An internet stream socket made on an empty `tableHost`. -/
def tableSocket : Socket × List Bool :=
  match create tableHost (.int Family.inet.value) (.int SocketType.stream.value) (.int 0) none []
  with
  | .ok s w => (s, w)
  | .error _ w => (default, w)

/-- `tableSocket` made non-blocking, then asked to connect to a host that resolves to no
address. -/
def tableRun : Socket × List Bool :=
  let blocked := endState ((Op.setBlocking (.bool false)).perform tableHost tableSocket)
  endState ((Op.connect (.str (Text.ofString "example.org")) (.int 80) (.int 0)).perform
    tableHost blocked)

theorem tableRun_reachable : Reachable tableHost (KeepsOwnOnFailure tableHost) tableRun := by
  obtain ⟨s, w, hmade⟩ := exists_ok_of_matches
    (create tableHost (.int Family.inet.value) (.int SocketType.stream.value) (.int 0) none [])
    (by decide +kernel)
  have hsocket : tableSocket = (s, w) := by simp [tableSocket, hmade]
  have hr₀ : Reachable tableHost (KeepsOwnOnFailure tableHost) tableSocket :=
    hsocket ▸ .made (.create hmade)
  -- setting the mode replaces no native socket; the connect fails before its first trial
  have hr₁ : Reachable tableHost (KeepsOwnOnFailure tableHost)
      (endState ((Op.setBlocking (.bool false)).perform tableHost tableSocket)) :=
    .step hr₀ (fun h => absurd h (by decide)) (ends_endState _ _)
  exact .step hr₁ (keepsOwnOnFailure_of_check (by decide +kernel)) (ends_endState _ _)

/-- On `tableHost`, a socket made non-blocking whose connect fails before any trial still has the
mode of its native socket as its flag. -/
theorem table_socket_mirrors_through_failed_connect :
    tableHost.ModeLaws ∧ Reachable tableHost (KeepsOwnOnFailure tableHost) tableRun ∧
      Mirrors tableHost tableRun :=
  ⟨tableHost_modeLaws, tableRun_reachable,
    blocking_flag_mirrors_mode tableHost_modeLaws tableRun_reachable⟩

end Socket

end Sockets
