import Sockets.Proofs.Recording

/-!
# What the operations write down

On the recording host, three kinds of step write something down, and each writes one kind of
event.

* Preparing the delegate writes down one preparation of the socket's delegate, with whether it
  returned; the socket counts as prepared exactly when it did (`prepareDelegate_writes`).
* Closing writes down one undoing of the socket's delegate, when it is asked to undo the
  preparation and the socket is prepared, and forgets the preparation then
  (`closeWith_writes`).
* Reading writes down the receipt of each chunk of bytes its receives returned, and stores their
  concatenation after what was stored (`Delivers`, `drain_writes`); a read hands out a
  first part of the storage and keeps the rest (`readInto_writes`, `readData_writes`).

The operations that prepare the delegate (listening on a stream, connecting) write at most one
preparation and nothing else (`Prepares`).
-/

namespace Sockets

namespace Event

/-- The bytes of a receipt; nothing for any other event. -/
def bytes : Event → List UInt8
  | .received data => data
  | _ => []

@[simp] theorem bytes_received (data : List UInt8) : (Event.received data).bytes = data := rfl

end Event

/-- What a step may do to the delegate's preparation, from the socket `t` to the socket `u`,
writing down `new`: it keeps the delegate, writes down only preparations of it, and leaves the
socket prepared exactly when it was or one of these returned. -/
structure Prepares (t : Socket) (new : List Event) (u : Socket) : Prop where
  delegate : u.delegate = t.delegate
  setUps : ∀ e ∈ new, ∃ d returned, t.delegate = some d ∧ e = .setUp d returned
  ready : u.delegateReady = true ↔ t.delegateReady = true ∨ ∃ d, Event.setUp d true ∈ new

@[simp] theorem prepares_iff (t : Socket) (new : List Event) (u : Socket) :
    Prepares t new u ↔ u.delegate = t.delegate ∧
      (∀ e ∈ new, ∃ d returned, t.delegate = some d ∧ e = .setUp d returned) ∧
      (u.delegateReady = true ↔ t.delegateReady = true ∨ ∃ d, Event.setUp d true ∈ new) :=
  ⟨fun h => ⟨h.1, h.2, h.3⟩, fun h => ⟨h.1, h.2.1, h.2.2⟩⟩

/-- A step keeps what is stored, and a connected socket stays connected. -/
def StorageKept (t u : Socket) : Prop :=
  u.storage = t.storage ∧ (t.connected = true → u.connected = true)

namespace Socket

open Host

variable {σ α : Type} (H : Host σ) {st : Socket × (σ × List Event)}

/-! ## Steps whose end socket is known -/

section Lands

variable {γ : Type} {view : Socket → γ} {land : Socket → γ → Socket}

/-- What `prog` does to the system when run on the socket `s`, with what `view` shows of the
socket it ends with. -/
def onSystemWith (prog : SocketM σ α) (s : Socket) (view : Socket → γ) :
    EStateM (Failure × γ) σ (α × γ) := fun w =>
  match prog (s, w) with
  | .ok a st => .ok (a, view st.1) st.2
  | .error e st => .error (e, view st.1) st.2

/-- `prog` ends with the socket `land s v`, for the socket `s` it started with and what `view`
shows of the socket it ends with: all else about the socket it ends with is known before it
runs. -/
def Lands (view : Socket → γ) (land : Socket → γ → Socket) (prog : SocketM σ α) : Prop :=
  ∀ st, Ends prog st (fun _ st' => st'.1 = land st.1 (view st'.1))
    (fun _ st' => st'.1 = land st.1 (view st'.1))

/-- A program whose end socket is known but for a view is a system call that also says what the
view shows. -/
theorem ends_of_lands {prog : SocketM σ α} (h : Lands view land prog) {st : Socket × σ}
    {ok : α → Socket × σ → Prop} {err : Failure → Socket × σ → Prop} :
    Ends prog st ok err =
      Ends (onSystemWith prog st.1 view) st.2 (fun p w => ok p.1 (land st.1 p.2, w))
        (fun p w => err p.1 (land st.1 p.2, w)) := by
  have hst := h st
  obtain ⟨s, w⟩ := st
  rcases hp : prog (s, w) with ⟨a, ⟨s', w'⟩⟩ | ⟨e, ⟨s', w'⟩⟩ <;>
    simp only [Ends, onSystemWith, hp] at hst ⊢ <;> rw [← hst]

/-- On the recording host, such a program that writes nothing down is a call that keeps the
record. -/
theorem ends_of_lands_quiet {prog : SocketM (σ × List Event) α} (h : Lands view land prog)
    (hq : Quiet prog) {ok : α → Socket × (σ × List Event) → Prop}
    {err : Failure → Socket × (σ × List Event) → Prop} :
    Ends prog st ok err =
      Ends (onSystemWith prog st.1 view) st.2 (fun p w => ok p.1 (land st.1 p.2, (w.1, st.2.2)))
        (fun p w => err p.1 (land st.1 p.2, (w.1, st.2.2))) := by
  have hlog := hq st
  rw [ends_of_lands h] at hlog ⊢
  obtain ⟨s, w, log⟩ := st
  rcases hp : onSystemWith prog s view (w, log) with ⟨⟨a, v⟩, ⟨w', log'⟩⟩ | ⟨⟨e, v⟩, ⟨w', log'⟩⟩ <;>
    simp only [Ends, hp] at hlog ⊢ <;> subst hlog <;> rfl

end Lands

/-! ## Preparing the delegate -/

/-- Preparing asks the socket's delegate, if it has one, to prepare, and writes down whether it
returned; the socket is prepared exactly when it did. -/
theorem prepareDelegate_writes (asServer : Bool) :
    Ends (prepareDelegate H.recording asServer) st
      (fun _ st' => (st.1.delegate = none ∧ st' = st) ∨
        ∃ d, st.1.delegate = some d ∧ st'.1 = { st.1 with delegateReady := true } ∧
          st'.2.2 = st.2.2 ++ [.setUp d true])
      (fun _ st' => ∃ d, st.1.delegate = some d ∧ st'.1 = st.1 ∧
        st'.2.2 = st.2.2 ++ [.setUp d false]) := by
  cases hd : st.1.delegate <;>
    simp +contextual [ends_prepareDelegate, hd, ends_sys_noting]

/-! ## Closing -/

/-- Removing the owned node forgets it first, then asks the system to unlink it. -/
theorem ends_removeOwnedPath {H : Host σ} {st : Socket × σ} {ok : Unit → Socket × σ → Prop}
    {err : Failure → Socket × σ → Prop} :
    Ends (removeOwnedPath H) st ok err =
      ((∀ p, st.1.ownedPath = some p →
          Ends (tryCatch (sys (H.unlink p)) fun f =>
              if f.errno? == some Errno.enoent then pure () else throw f)
            ({ st.1 with ownedPath := none }, st.2) ok err) ∧
        (st.1.ownedPath = none → ok () st)) := by
  cases ho : st.1.ownedPath <;>
    simp [removeOwnedPath, ho, ends_bind, ends_current, ends_change, ends_pure]

theorem closeNative_fixes (native : Option Handle) (listening : Bool) :
    Fixes (closeNative H native listening) := by
  intro st
  simp only [closeNative]
  split
  · simp [ends_bind, ends_ite, ends_attempt, ends_sys]
  · rfl

/-- The socket a close leaves, still owning the Unix-domain node `node`. -/
def afterClose (s : Socket) (teardown : Bool) (node : Option Value) : Socket :=
  { s with
    native := none, delegateReady := s.delegateReady && !(teardown && s.delegate.isSome),
    listening := false, connected := false, storage := [], ownedPath := node,
    signature := { s.signature with
      hostname := .none, port := .int Limits.invalidPort, path := .none, isSecure := false } }

/-- Closing, whatever fails on the way, ends with the closed socket; only whether the node it
owned was let go depends on the system. -/
theorem closeWith_lands (teardown : Bool) :
    Lands Socket.ownedPath (fun s node => s.afterClose teardown node) (closeWith H teardown) := by
  intro st
  simp only [closeWith, ↓ends_bind, ↓ends_current, ↓ends_change, ↓ends_attempt, ↓ends_pure,
    ↓ends_of_fixes (closeNative_fixes _ _ _), ↓ends_removeOwnedPath]
  -- the preparation is undone, or not, before the native socket and the node are let go
  cases hd : st.1.delegate <;> cases teardown <;> cases hr : st.1.delegateReady <;>
    simp [hd, hr, ends_bind, ends_change, ends_ite, ends_pure, ends_throw, ends_callDelegate,
      ends_sys, ends_tryCatch, afterClose]

/-- Closing undoes the delegate's preparation when it is asked to and the socket is prepared:
it writes the undoing down, whether it returned or not, and forgets the preparation. -/
theorem closeWith_writes (teardown : Bool) :
    Ends (closeWith H.recording teardown) st
      (fun _ st' => st'.1.delegate = st.1.delegate ∧
        st'.1.delegateReady = (st.1.delegateReady && !(teardown && st.1.delegate.isSome)) ∧
        st'.2.2 = st.2.2 ++
          (if teardown && st.1.delegateReady then st.1.delegate.toList.map .tearDown else []))
      (fun _ st' => st'.1.delegate = st.1.delegate ∧
        st'.1.delegateReady = (st.1.delegateReady && !(teardown && st.1.delegate.isSome)) ∧
        st'.2.2 = st.2.2 ++
          (if teardown && st.1.delegateReady then st.1.delegate.toList.map .tearDown else [])) := by
  simp only [closeWith, ↓ends_bind, ↓ends_current, ↓ends_change, ↓ends_attempt, ↓ends_pure,
    ↓ends_of_quiet (closeNative_fixes _ _ _) (closeNative_quiet _ _ _), ↓ends_removeOwnedPath]
  -- the undoing is written down before the native socket and the node are let go
  cases st.1.delegate <;> cases teardown <;> cases st.1.delegateReady <;>
    simp [ends_bind, ends_change, ends_ite, ends_pure, ends_throw, ends_callDelegate,
      ends_sys_noting, ends_sys_unrecorded, ends_tryCatch]

/-- Closing without undoing the preparation writes nothing down. -/
theorem closeWith_false_quiet : Quiet (closeWith H.recording false) := fun _ =>
  ends_mono (closeWith_writes H false) (fun _ _ h => by simpa using h.2.2)
    (fun _ _ h => by simpa using h.2.2)

/-! ## Receiving -/

/-- From `st` to `st'`, the record grew by the receipts of some chunks of bytes, and what was
stored followed by the chunks is `handed` followed by what is stored now: no byte received is
lost, doubled or moved. -/
def Delivers (st : Socket × (σ × List Event)) (handed : List UInt8)
    (st' : Socket × (σ × List Event)) : Prop :=
  ∃ chunks : List (List UInt8), st'.2.2 = st.2.2 ++ chunks.map .received ∧
    handed ++ st'.1.storage = st.1.storage ++ chunks.flatten

theorem Delivers.refl {st st' : Socket × (σ × List Event)} (hlog : st'.2.2 = st.2.2)
    (hstorage : st'.1.storage = st.1.storage) : Delivers st [] st' :=
  ⟨[], by simp [hlog], by simp [hstorage]⟩

theorem Delivers.trans {st₁ st₂ st₃ : Socket × (σ × List Event)} {r₁ r₂ : List UInt8}
    (h₁ : Delivers st₁ r₁ st₂) (h₂ : Delivers st₂ r₂ st₃) : Delivers st₁ (r₁ ++ r₂) st₃ := by
  obtain ⟨c₁, hlog₁, hst₁⟩ := h₁
  obtain ⟨c₂, hlog₂, hst₂⟩ := h₂
  refine ⟨c₁ ++ c₂, by simp [hlog₂, hlog₁], ?_⟩
  calc r₁ ++ r₂ ++ st₃.1.storage = r₁ ++ st₂.1.storage ++ c₂.flatten := by simp [hst₂]
    _ = st₁.1.storage ++ (c₁ ++ c₂).flatten := by simp [hst₁]

/-- A receive through the delegate writes down the bytes it returned, however often the delegate
asked to retry. -/
theorem delegateRecv_writes (d : String) (first : Bool) (fuel : Nat) :
    Ends (delegateRecv H.recording d first fuel) st
      (fun data st' => st'.1 = st.1 ∧ st'.2.2 = st.2.2 ++ [.received data])
      (fun _ st' => st'.1 = st.1 ∧ st'.2.2 = st.2.2) := by
  induction fuel generalizing st with
  | zero => simp [delegateRecv, ends_throw]
  | succ fuel ih =>
    simp only [delegateRecv, recording_delegates_recv, ↓ends_bind, ↓ends_current, ↓ends_attempt,
      ↓ends_sys_noting, ↓ends_pure]
    refine ⟨by simp, fun e w _ => ?_⟩
    -- a retry waits, which writes nothing down, and receives again
    cases e <;> simp [ends_ite, ends_throw, ends_bind,
      ends_of_quiet (waitUntil_fixes _ _ _) (waitUntil_quiet _ _ _)]
    intro _ _
    exact ends_of_forall (fun _ _ => ih) (fun _ _ => by simp)

theorem recvOnce_writes (h : Handle) (first : Bool) :
    Ends (recvOnce H.recording h first) st
      (fun data st' => st'.1 = st.1 ∧ st'.2.2 = st.2.2 ++ [.received data])
      (fun _ st' => st'.1 = st.1 ∧ st'.2.2 = st.2.2) := by
  simp only [recvOnce, ↓ends_bind, ↓ends_current]
  split
  · simp only [↓ends_bind, ↓ends_system]
    exact delegateRecv_writes H _ _ _
  · simp [ends_sys_noting]

/-- A drain stores what its receives returned, in order, and says how much is stored. -/
theorem drain_writes (h : Handle) (fuel : Nat) :
    Ends (drain H.recording h fuel) st
      (fun n st' => Delivers st [] st' ∧ n = st'.1.storage.length)
      (fun _ st' => Delivers st [] st') := by
  induction fuel generalizing st with
  | zero => exact ⟨Delivers.refl rfl rfl, rfl⟩
  | succ fuel ih =>
    simp only [drain, ↓ends_bind, ↓ends_current, ↓ends_attempt]
    refine ends_mono (recvOnce_writes H h _) (fun data st' hd => ?_) (fun _ st' he => ?_)
    · -- the bytes received are stored; the drain stops at the end of the stream or a short
      -- receive, and goes on after a full one
      obtain ⟨s', w', log'⟩ := st'
      obtain ⟨rfl, hlog⟩ := hd
      dsimp only at hlog
      have hstored : Delivers st []
          ({ st.1 with storage := st.1.storage ++ data }, (w', log')) :=
        ⟨[data], by simp [hlog], by simp⟩
      split
      · rename_i hempty
        simp only [List.isEmpty_iff] at hempty
        subst hempty
        exact ⟨⟨[[]], by simp [hlog], by simp⟩, rfl⟩
      · simp only [↓ends_bind, ↓ends_change, ↓ends_ite, ↓ends_pure]
        split
        · exact ⟨hstored, by simp⟩
        · exact ends_mono ih (fun _ _ h => ⟨hstored.trans h.1, h.2⟩)
            (fun _ _ h => hstored.trans h)
    · obtain ⟨s', w', log'⟩ := st'
      obtain ⟨rfl, hlog⟩ := he
      dsimp only at hlog
      have hsame : Delivers st [] (st.1, (w', log')) := Delivers.refl hlog rfl
      simp only [↓ends_ite, ↓ends_pure, ↓ends_throw]
      split
      · exact ⟨hsame, trivial⟩
      · split <;> exact hsame

/-- Filling stores what the receives returned, and only on a connected socket. -/
theorem fill_writes :
    Ends (fill H.recording) st (fun _ st' => Delivers st [] st' ∧ st.1.connected = true)
      (fun _ st' => Delivers st [] st' ∧ (st.1.connected = false → st'.1.storage = st.1.storage)) := by
  have hsame : Delivers st [] st := Delivers.refl rfl rfl
  simp only [fill, ↓ends_bind, ↓ends_checkDescriptor, ↓ends_current, ↓ends_ite, ↓ends_throw,
    ↓ends_pure]
  refine ⟨fun h _ => ?_, fun _ => ⟨hsame, fun _ => trivial⟩⟩
  -- only a connected socket with nothing stored drains
  split
  · exact ⟨hsame, fun _ => trivial⟩
  split
  · exact ⟨hsame, fun _ => trivial⟩
  rename_i hc
  simp only [Bool.not_eq_true', Bool.not_eq_false] at hc
  split
  · exact ends_mono (drain_writes H h _) (fun _ _ hd => by split <;> exact ⟨hd.1, hc⟩)
      (fun _ _ hd => ⟨hd, by simp [hc]⟩)
  · exact ⟨hsame, hc⟩

/-- Taking from the storage hands out a first part of it and keeps the rest; when it fails, it
leaves everything as it was. -/
theorem takeStored_takes {st : Socket × σ} (size : Nat) (truncate : Bool) :
    Ends (takeStored size truncate : SocketM σ (List UInt8)) st
      (fun got st' => st'.2 = st.2 ∧ got ++ st'.1.storage = st.1.storage)
      (fun _ st' => st' = st) := by
  simp [takeStored, ends_bind, ends_current, ends_ite, ends_throw, ends_change, ends_map]

/-- Bytes taken from the storage after a fill are delivered: they come first in what was
stored and received. -/
theorem Delivers.taken {st st' st'' : Socket × (σ × List Event)} {got : List UInt8}
    (h : Delivers st [] st') (hlog : st''.2.2 = st'.2.2)
    (htake : got ++ st''.1.storage = st'.1.storage) : Delivers st got st'' := by
  have hlast : Delivers st' got st'' := ⟨[], by simp [hlog], by simp [htake]⟩
  simpa using h.trans hlast

/-- A read into a buffer hands out the first bytes of the buffer it returns, as many as it says
it read: the first bytes of what was stored and received. -/
theorem readInto_writes (buffer : List UInt8) (nbytes : Value) (truncate : Bool) :
    Ends (readInto H.recording buffer nbytes truncate) st
      (fun r st' => Delivers st (r.2.take r.1) st' ∧ st.1.connected = true)
      (fun _ st' => Delivers st [] st' ∧ (st.1.connected = false → st'.1.storage = st.1.storage)) := by
  have hsame : Delivers st [] st := Delivers.refl rfl rfl
  -- once the arguments are checked, the storage is filled and then taken from
  have fill_take : ∀ size, Ends (fill H.recording) st
      (fun filled st' =>
        if (!filled) = true then Delivers st (List.take 0 buffer) st' ∧ st.1.connected = true
        else
          Ends (takeStored size truncate) st'
            (fun got st'' =>
              Delivers st (List.take got.length (got ++ List.drop got.length buffer)) st'' ∧
                st.1.connected = true)
            (fun _ st'' =>
              Delivers st [] st'' ∧ (st.1.connected = false → st''.1.storage = st.1.storage)))
      (fun _ st' =>
        Delivers st [] st' ∧ (st.1.connected = false → st'.1.storage = st.1.storage)) := by
    intro size
    refine ends_mono (fill_writes H) (fun filled st' hfill => ?_) (fun _ _ h => h)
    obtain ⟨hd, hc⟩ := hfill
    split
    · exact ⟨hd, hc⟩
    · refine ends_mono (takeStored_takes size truncate) (fun got st'' htake => ?_)
        (fun _ _ h => by simp [h, hd, hc])
      simpa using ⟨hd.taken (congrArg Prod.snd htake.1) htake.2, hc⟩
  simp only [readInto, ↓ends_bind, ↓ends_rethrow, ↓ends_ite, ↓ends_throw, ↓ends_pure, ↓ends_map]
  simp only [fill_take, hsame]
  simp

/-- Reading everything available hands out what was stored and received. -/
theorem readData_writes :
    Ends (readData H.recording) st (fun r st' => Delivers st r st' ∧ st.1.connected = true)
      (fun _ st' => Delivers st [] st' ∧ (st.1.connected = false → st'.1.storage = st.1.storage)) := by
  simp only [readData, ↓ends_bind, ↓ends_ite, ↓ends_pure, ↓ends_current]
  refine ends_mono (fill_writes H) (fun filled st' hfill => ?_) (fun _ _ h => h)
  obtain ⟨hd, hc⟩ := hfill
  split
  · exact ⟨hd, hc⟩
  · exact ends_mono (takeStored_takes _ true)
      (fun got st'' htake => ⟨hd.taken (congrArg Prod.snd htake.1) htake.2, hc⟩)
      (fun _ _ h => by simp [h, hd, hc])

/-! ## Preparing steps -/

theorem listen_prepares (port backlog reuse dualStack : Value) :
    Ends (listen H.recording port backlog reuse dualStack) st
      (fun _ st' => ∃ new, st'.2.2 = st.2.2 ++ new ∧ Prepares st.1 new st'.1 ∧
        StorageKept st.1 st'.1)
      (fun _ st' => ∃ new, st'.2.2 = st.2.2 ++ new ∧ Prepares st.1 new st'.1 ∧
        StorageKept st.1 st'.1) := by
  simp only [listen, recording_resolve, recording_listen, recording_delegates_setUp,
    ↓ends_checkDescriptor, ↓ends_bind, ↓ends_current, ↓ends_throw, ↓ends_pure, ↓ends_ite,
    ↓ends_rethrow, ↓ends_keepBacklog, ↓ends_of_quiet (setOption_fixes _ _ _ _) (setOption_quiet _ _ _ _),
    ↓ends_orCode, ↓ends_sys_unrecorded, ↓ends_sys_noting,
    ↓ends_of_quiet (sharePorts_fixes _ _) (sharePorts_quiet _ _), ↓ends_prepareDelegate,
    ↓ends_change, ↓ends_changeSignature,
    ↓ends_of_quiet (bindFirst_fixes _ _ _ _) (bindFirst_quiet _ _ _ _),
    ↓ends_of_quiet (boundAddress_fixes _ _ _) (boundAddress_quiet _ _ _)]
  simp +contextual [StorageKept]

theorem listenUnix_prepares (path backlog : Value) :
    Ends (listenUnix H.recording path backlog) st
      (fun _ st' => ∃ new, st'.2.2 = st.2.2 ++ new ∧ Prepares st.1 new st'.1 ∧
        StorageKept st.1 st'.1)
      (fun _ st' => ∃ new, st'.2.2 = st.2.2 ++ new ∧ Prepares st.1 new st'.1 ∧
        StorageKept st.1 st'.1) := by
  simp only [listenUnix, recording_bind, recording_listen, ↓ends_checkDescriptor, ↓ends_bind,
    ↓ends_current, ↓ends_throw, ↓ends_ite, ↓ends_rethrow, ↓ends_keepBacklog,
    ↓ends_of_quiet (setOption_fixes _ _ _ _) (setOption_quiet _ _ _ _),
    ↓ends_of_quiet (clearNode_fixes _ _) (clearNode_quiet _ _), ↓ends_orCode,
    ↓ends_sys_unrecorded, ↓ends_change, ↓ends_changeSignature]
  simp +contextual [StorageKept]

theorem connectUnix_prepares (path : Value) :
    Ends (connectUnix H.recording path) st
      (fun _ st' => ∃ new, st'.2.2 = st.2.2 ++ new ∧ Prepares st.1 new st'.1 ∧
        StorageKept st.1 st'.1)
      (fun _ st' => ∃ new, st'.2.2 = st.2.2 ++ new ∧ Prepares st.1 new st'.1 ∧
        StorageKept st.1 st'.1) := by
  simp only [connectUnix, recording_connect, ↓ends_checkDescriptor, ↓ends_bind, ↓ends_current,
    ↓ends_throw, ↓ends_ite, ↓ends_rethrow, ↓ends_orCode, ↓ends_sys_unrecorded, ↓ends_change]
  simp +contextual [StorageKept]

theorem setBlocking_prepares (v : Value) :
    Ends (setBlocking H.recording v) st
      (fun _ st' => ∃ new, st'.2.2 = st.2.2 ++ new ∧ Prepares st.1 new st'.1 ∧
        StorageKept st.1 st'.1)
      (fun _ st' => ∃ new, st'.2.2 = st.2.2 ++ new ∧ Prepares st.1 new st'.1 ∧
        StorageKept st.1 st'.1) := by
  simp only [setBlocking, recording_setBlocking, ↓ends_checkDescriptor, ↓ends_bind,
    ↓ends_rethrow, ↓ends_orCode, ↓ends_sys_unrecorded, ↓ends_change]
  simp +contextual [StorageKept]

/-- `connect` closes the old native socket without undoing the delegate's preparation, so it
keeps the preparation and empties the storage of a socket that is not connected; a connected one
it refuses. -/
theorem connect_prepares (host port timeout : Value) :
    Ends (connect H.recording host port timeout) st
      (fun _ st' => ∃ new, st'.2.2 = st.2.2 ++ new ∧ Prepares st.1 new st'.1 ∧
        (StorageKept st.1 st'.1 ∨ st.1.connected = false ∧ st'.1.storage = []))
      (fun _ st' => ∃ new, st'.2.2 = st.2.2 ++ new ∧ Prepares st.1 new st'.1 ∧
        (StorageKept st.1 st'.1 ∨ st.1.connected = false ∧ st'.1.storage = [])) := by
  simp only [connect, recording_resolve, recording_setBlocking, recording_delegates_setUp,
    recording_delegates_onConnect, ↓ends_checkDescriptor, ↓ends_bind, ↓ends_current, ↓ends_throw,
    ↓ends_ite, ↓ends_rethrow, ↓ends_sys_unrecorded, ↓ends_sys_noting, ↓ends_tryCatch,
    ↓ends_prepareDelegate, ↓ends_change, ↓ends_attempt, ↓ends_secureWith,
    ↓ends_of_quiet (firstConnection_fixes _ _ _ _) (firstConnection_quiet _ _ _ _),
    ↓ends_of_lands_quiet (closeWith_lands _ false) (closeWith_false_quiet _)]
  simp +contextual [StorageKept, afterClose]

theorem acceptConnection_prepares :
    Ends (acceptConnection H.recording) st
      (fun _ st' => ∃ new, st'.2.2 = st.2.2 ++ new ∧ Prepares st.1 new st'.1 ∧
        (StorageKept st.1 st'.1 ∨ st.1.connected = false ∧ st'.1.storage = []))
      (fun _ st' => ∃ new, st'.2.2 = st.2.2 ++ new ∧ Prepares st.1 new st'.1 ∧
        (StorageKept st.1 st'.1 ∨ st.1.connected = false ∧ st'.1.storage = [])) := by
  simp only [acceptConnection, requireListener, recording_delegates_onAccept,
    ↓ends_checkDescriptor, ↓ends_bind, ↓ends_current,
    ↓ends_of_quiet (acceptNative_fixes _ _) (acceptNative_quiet _ _), ↓ends_attempt,
    ↓ends_of_lands_quiet (closeWith_lands _ false) (closeWith_false_quiet _), ↓ends_change,
    ↓ends_changeSignature, ↓ends_rethrow, ↓ends_system, ↓ends_secureWith, ↓ends_sys_unrecorded,
    ↓ends_ite, ↓ends_pure, ↓ends_throw]
  simp +contextual [StorageKept, afterClose]

/-- `connectUsing` goes through `connectUnix`, through `connect`, or to the raw address, where it
prepares the delegate as `connect` does. -/
theorem connectUsing_prepares (g : Signature) :
    Ends (connectUsing H.recording g) st
      (fun _ st' => ∃ new, st'.2.2 = st.2.2 ++ new ∧ Prepares st.1 new st'.1 ∧
        (StorageKept st.1 st'.1 ∨ st.1.connected = false ∧ st'.1.storage = []))
      (fun _ st' => ∃ new, st'.2.2 = st.2.2 ++ new ∧ Prepares st.1 new st'.1 ∧
        (StorageKept st.1 st'.1 ∨ st.1.connected = false ∧ st'.1.storage = [])) := by
  have hsame : ∃ new, st.2.2 = st.2.2 ++ new ∧ Prepares st.1 new st.1 ∧
      (StorageKept st.1 st.1 ∨ st.1.connected = false ∧ st.1.storage = []) :=
    ⟨[], by simp, by simp, .inl ⟨rfl, id⟩⟩
  simp only [connectUsing, ↓ends_bind, ↓ends_checkDescriptor, ↓ends_ite, ↓ends_throw,
    ↓ends_current]
  refine ⟨fun h _ => ?_, fun _ => hsame⟩
  split
  · exact hsame
  by_cases hpath : g.path = .none
  case neg =>
    -- through the path
    rw [if_pos (by split <;> simp_all)]
    exact ends_mono (connectUnix_prepares H _)
      (fun _ _ ⟨new, hlog, hprep, hkept⟩ => ⟨new, hlog, hprep, .inl hkept⟩)
      (fun _ _ ⟨new, hlog, hprep, hkept⟩ => ⟨new, hlog, hprep, .inl hkept⟩)
  rw [if_neg (by simp [hpath])]
  by_cases hend : g.hostname ≠ .none ∧ g.port.equals (.int Limits.invalidPort) = false
  · -- through the host name and port
    obtain ⟨hhost, hport⟩ := hend
    rw [if_pos (by split <;> simp_all)]
    exact connect_prepares H _ _ _
  rw [if_neg (by split <;> simp_all)]
  -- to the raw address, for which the delegate is prepared as `connect` prepares it
  by_cases hnone : g.address = .none
  · rw [if_pos (by simp [hnone])]
    exact hsame
  rw [if_neg (by split <;> simp_all)]
  split
  · exact hsame
  rename_i hc
  refine ends_mono (prepareDelegate_writes H false) (fun _ st' hprep => ?_)
    (fun _ st' hprep => ?_)
  · split
    · -- connecting to the address and securing the connection write nothing down
      simp only [↓ends_bind, ↓ends_pure, ↓ends_orCode, recording_connect, ↓ends_sys_unrecorded,
        ↓ends_change, ↓ends_secureWith, recording_delegates_onConnect]
      rcases hprep with ⟨hd, rfl⟩ | ⟨d, hd, hs', hlog⟩
      · simp +contextual [StorageKept, hd]
      · simp +contextual [StorageKept, hs', hlog, hd]
    · -- a value that is no address is refused
      simp only [↓ends_bind, ↓ends_throw]
      rcases hprep with ⟨hd, rfl⟩ | ⟨d, hd, hs', hlog⟩
      · exact hsame
      · simp [StorageKept, hs', hlog, hd]
  · obtain ⟨d, hd, hs', hlog⟩ := hprep
    simp [StorageKept, hs', hlog, hd]

/-- Receiving a message binds the datagram socket first, through `listen`, if it is not
bound. -/
theorem listenForMessage_prepares (buffer : List UInt8) (port backlog : Value) :
    Ends (listenForMessage H.recording buffer port backlog) st
      (fun _ st' => ∃ new, st'.2.2 = st.2.2 ++ new ∧ Prepares st.1 new st'.1 ∧
        StorageKept st.1 st'.1)
      (fun _ st' => ∃ new, st'.2.2 = st.2.2 ++ new ∧ Prepares st.1 new st'.1 ∧
        StorageKept st.1 st'.1) := by
  simp only [listenForMessage, ↓ends_bind, ↓ends_ite, ↓ends_throw, ↓ends_checkDescriptor,
    ↓ends_of_quiet requireDatagram_fixes requireDatagram_quiet, ↓ends_current, ↓ends_change,
    ↓ends_of_quiet (readDatagramInto_fixes _ _) (readDatagramInto_quiet _ _)]
  simp [StorageKept]
  -- what is left is the binding
  intro _ h _ _
  refine ends_of_forall (fun _ w _ => ?_) (fun _ _ => trivial)
  simpa [StorageKept] using
    @listen_prepares σ H (st.1, (w.1, st.2.2)) port backlog (.bool true) (.bool false)

/-! ## Accepting -/

/-- Wrapping an accepted native socket writes nothing down. -/
theorem fromNative_quiet (h : Handle) (address path : Value) (d : Option String)
    (w : σ × List Event) :
    Ends (fromNative H.recording h address path d) w (fun _ w' => w'.2 = w.2)
      (fun _ w' => w'.2 = w.2) := by
  simp only [fromNative, ↓ends_bind, ↓ends_get]
  split
  · simp [ends_wrap]
  · simp [ends_bind, ends_unrecorded, ends_throw]

/-- Accepting a client writes nothing down: the new socket is not prepared, so closing it when
its accept hook fails undoes nothing. -/
theorem acceptClient_quiet (invoke : Bool) : Quiet (acceptClient H.recording invoke) := by
  intro st
  simp only [acceptClient, ↓ends_bind, ↓ends_checkDescriptor,
    ↓ends_of_quiet requireListener_fixes requireListener_quiet,
    ↓ends_of_quiet (acceptNative_fixes _ _) (acceptNative_quiet _ _), ↓ends_current, ↓ends_sys,
    ↓ends_ite, ↓ends_pure, ↓ends_attempt, ↓ends_within, ↓ends_rethrow, ↓ends_throw]
  simp +contextual
  intro h _ _
  refine ends_of_forall (fun _ w₀ => ends_of_forall (fun conn w =>
    ⟨fun child w' log' hchild => ?_, fun e w' log' hchild => ?_⟩) (fun _ _ => trivial))
    (fun _ _ => trivial)
  · have hlog := ok_of_ends (fromNative_quiet H conn.1 (.addr conn.2) _ _ (w.1, st.2.2)) hchild
    obtain ⟨⟨-, hready, -⟩, -⟩ := ok_of_ends (fromNative_fresh H.recording _ _ _ _) hchild
    dsimp only at hlog
    subst hlog
    split
    · rfl
    split
    · refine ends_mono (invokeOnAccept_quiet H _ _) (fun _ _ h => h) (fun _ st' hst' => ?_)
      -- a failed hook closes the new socket, which is not prepared and undoes nothing
      exact ends_mono (closeWith_writes H true) (fun _ _ h => by simp [h.2.2, hready, hst'])
        (fun _ _ h => by simp [h.2.2, hready, hst'])
    · rfl
  · have hquiet := fromNative_quiet H conn.1 (.addr conn.2) st.1.signature.path st.1.delegate
      (w.1, st.2.2)
    rw [ends_eq] at hquiet
    exact hquiet.2 _ _ hchild

/-- Being the target of a listener's accept hook writes nothing down and hands nothing out. -/
theorem acceptedBy_quiet (listener : Socket) :
    Ends ((Op.acceptedBy listener).perform H.recording) st
      (fun r st' => r = [] ∧ st'.2.2 = st.2.2) (fun _ st' => st'.2.2 = st.2.2) := by
  simp only [Op.perform, ↓ends_bind, ↓ends_current, ↓ends_within, ↓ends_rethrow, ↓ends_change,
    ↓ends_pure]
  exact ends_mono (invokeOnAccept_quiet H _ _) (fun _ _ h => by simp [h]) (fun _ _ h => by simp [h])

/-! ## Steps that write nothing down -/

/-- A step that fixes the socket and writes nothing down prepares nothing and keeps what is
stored. -/
theorem prepares_of_quiet {prog : SocketM (σ × List Event) α} (hf : Fixes prog) (hq : Quiet prog) :
    Ends prog st
      (fun _ st' => ∃ new, st'.2.2 = st.2.2 ++ new ∧ Prepares st.1 new st'.1 ∧
        StorageKept st.1 st'.1)
      (fun _ st' => ∃ new, st'.2.2 = st.2.2 ++ new ∧ Prepares st.1 new st'.1 ∧
        StorageKept st.1 st'.1) :=
  ends_mono (ends_and (hf st) (hq st))
    (fun _ _ h => ⟨[], by simp [h.2], by simp [h.1], by simp [StorageKept, h.1]⟩)
    (fun _ _ h => ⟨[], by simp [h.2], by simp [h.1], by simp [StorageKept, h.1]⟩)

theorem resizeReadBuffer_prepares (size : Value) :
    Ends (resizeReadBuffer size : SocketM (σ × List Event) Nat) st
      (fun _ st' => ∃ new, st'.2.2 = st.2.2 ++ new ∧ Prepares st.1 new st'.1 ∧
        StorageKept st.1 st'.1)
      (fun _ st' => ∃ new, st'.2.2 = st.2.2 ++ new ∧ Prepares st.1 new st'.1 ∧
        StorageKept st.1 st'.1) := by
  simp only [resizeReadBuffer, ↓ends_bind, ↓ends_rethrow, ↓ends_current, ↓ends_ite, ↓ends_throw,
    ↓ends_change, ↓ends_pure]
  simp +contextual [StorageKept]

end Socket

end Sockets
