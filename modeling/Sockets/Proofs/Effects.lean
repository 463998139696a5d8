import Sockets.Proofs.Written

/-!
# What a step does to the storage and the delegate

`Op.Effect t r new u op` says what a step of `op` from the socket `t`, handing out the bytes `r`,
writing down the events `new` and ending with the socket `u`, does to what is stored and to the
delegate's preparation. It is said once for every operation, and the properties of whole runs
(`Conservation`, `Preparation`) are derived from it and from nothing else.

* A read hands out and keeps in store the bytes its receives returned, after what was stored
  (`Reads`): it writes down those receipts only, changes nothing but the storage and whether the
  remote side closed, and stores nothing on a socket that is not connected.
* A close hands out nothing, empties the storage, writes down the undoing of a prepared delegate
  and forgets the preparation (`Closes`).
* Installing a delegate forgets the preparation, keeps what is stored and writes nothing down.
* Connecting, and accepting in place of listening, may prepare the delegate (`Prepares`); they
  keep what is stored or, on a socket that is not connected, empty it.
* Every other operation may prepare the delegate and keeps what is stored (`StorageKept`).

`Op.perform_effect` proves the summary of every operation, one case per operation, each citing
the lemma of `Written` for the function it runs; `Recorded.effect` reads it off a recorded step.
-/

namespace Sockets

/-- A read from `t` that handed out `r`, wrote down `new` and ended with `u`. -/
structure Reads (t : Socket) (r : List UInt8) (new : List Event) (u : Socket) : Prop where
  /-- Only the storage, and whether the remote side closed, changed. -/
  rest : u.apartFromReads = t.apartFromReads
  /-- The receipts of some chunks were written down, and what was handed out followed by what
  is stored now is what was stored followed by the chunks. -/
  delivers : ∃ chunks : List (List UInt8), new = chunks.map .received ∧
    r ++ u.storage = t.storage ++ chunks.flatten
  /-- A socket that is not connected stores nothing more. -/
  unconnected : t.connected = false → u.storage = t.storage

/-- A close from `t` that handed out `r`, wrote down `new` and ended with `u`. -/
structure Closes (t : Socket) (r : List UInt8) (new : List Event) (u : Socket) : Prop where
  handsNothing : r = []
  emptied : u.storage = []
  disconnected : u.connected = false
  delegate : u.delegate = t.delegate
  /-- The preparation of a delegate is forgotten. -/
  forgets : u.delegateReady = (t.delegateReady && !t.delegate.isSome)
  /-- The delegate's preparation is undone when the socket was prepared. -/
  undoes : new = if t.delegateReady then t.delegate.toList.map .tearDown else []

namespace Op

/-- What a step of `op` from `t`, handing out `r`, writing down `new` and ending with `u`, does to
what is stored and to the delegate's preparation. -/
def Effect (t : Socket) (r : List UInt8) (new : List Event) (u : Socket) : Op → Prop
  | .readInto .. | .readData | .readString _ => Reads t r new u
  | .close => Closes t r new u
  | .setDelegate d =>
    r = [] ∧ new = [] ∧ u.delegate = d ∧ u.delegateReady = false ∧ StorageKept t u
  | .connect .. | .connectUsing _ | .acceptConnection =>
    r = [] ∧ Prepares t new u ∧ (StorageKept t u ∨ t.connected = false ∧ u.storage = [])
  | _ => r = [] ∧ Prepares t new u ∧ StorageKept t u

open Socket

variable {σ α : Type} (H : Host σ) {st : Socket × (σ × List Event)}

/-- A read that delivers, changes only what reading changes, and stores nothing on a socket that
is not connected, has the effect of a read. -/
theorem reads_of_delivers {st' : Socket × (σ × List Event)} {r : List UInt8}
    (hd : Delivers st r st') (hrest : st'.1.apartFromReads = st.1.apartFromReads)
    (hc : st.1.connected = false → st'.1.storage = st.1.storage) :
    ∃ new, st'.2.2 = st.2.2 ++ new ∧ Reads st.1 r new st'.1 := by
  obtain ⟨chunks, hlog, hbytes⟩ := hd
  exact ⟨_, hlog, hrest, ⟨chunks, rfl, hbytes⟩, hc⟩

/-- A read that delivers what it hands out and keeps all but what reading changes has the effect
of a read, whether it returns or fails. -/
theorem ends_reads {β : Type} {prog : SocketM (σ × List Event) β} {out : β → List UInt8}
    (hw : Ends prog st (fun r st' => Delivers st (out r) st' ∧ st.1.connected = true)
      (fun _ st' => Delivers st [] st' ∧ (st.1.connected = false → st'.1.storage = st.1.storage)))
    (hk : Keeps apartFromReads prog) :
    Ends prog st (fun r st' => ∃ new, st'.2.2 = st.2.2 ++ new ∧ Reads st.1 (out r) new st'.1)
      (fun _ st' => ∃ new, st'.2.2 = st.2.2 ++ new ∧ Reads st.1 [] new st'.1) := by
  refine ends_mono (ends_and hw (hk st)) (fun _ _ h => ?_) (fun _ _ h => ?_)
  · -- a read that returns was made on a connected socket
    exact reads_of_delivers h.1.1 h.2 (fun hc => absurd h.1.2 (by simp [hc]))
  · exact reads_of_delivers h.1.1 h.2 h.1.2

/-- Every step has its effect, whether it returns or fails. -/
theorem perform_effect (op : Op) :
    Ends (op.perform H.recording) st
      (fun r st' => ∃ new, st'.2.2 = st.2.2 ++ new ∧ op.Effect st.1 r new st'.1)
      (fun _ st' => ∃ new, st'.2.2 = st.2.2 ++ new ∧ op.Effect st.1 [] new st'.1) := by
  cases op
  -- the reads deliver what their receives returned
  case readInto buffer nbytes truncate =>
    simp only [perform, ↓ends_bind, ↓ends_pure]
    exact ends_reads (readInto_writes H buffer nbytes truncate)
      (readInto_keeps H.recording buffer nbytes truncate)
  case readData => exact ends_reads (readData_writes H) (readData_keeps H.recording)
  case readString => exact ends_reads (readData_writes H) (readData_keeps H.recording)
  -- a close undoes the preparation of a prepared delegate and ends closed
  case close =>
    simp only [perform, ↓ends_bind, ↓ends_pure]
    refine ends_mono (ends_and (closeWith_writes H true) (closeWith_lands H.recording true st))
      (fun _ _ h => ?_) (fun _ _ h => ?_) <;>
    · obtain ⟨⟨hd, hr, hlog⟩, hs⟩ := h
      refine ⟨_, hlog, ?_⟩
      simp only [Effect]
      rw [hs]
      exact ⟨rfl, rfl, rfl, rfl, by simp [afterClose], by simp⟩
  case setDelegate d =>
    simp only [perform, Socket.setDelegate, ↓ends_bind, ↓ends_change, ↓ends_ite, ↓ends_pure]
    split <;> simp [Effect, StorageKept]
  case acceptedBy listener =>
    refine ends_mono (ends_and (acceptedBy_hooked H.recording listener)
      (acceptedBy_quiet H listener)) (fun _ _ h => ?_) (fun _ _ h => ?_)
    · exact ⟨[], by simp [h.2.2], h.2.1, by simp [h.1.2, hooked],
        by simp [StorageKept, h.1.2, hooked]⟩
    · exact ⟨[], by simp [h.2], rfl, by simp [h.1], by simp [StorageKept, h.1]⟩
  -- every other operation runs one function of the socket and hands nothing out
  all_goals simp only [perform, Effect, ↓ends_bind, ↓ends_pure, true_and]
  -- connecting and accepting in place of listening may prepare the delegate and empty the storage
  case connect host port timeout => exact connect_prepares H _ _ _
  case connectUsing g => exact connectUsing_prepares H g
  case acceptConnection => exact acceptConnection_prepares H
  -- the rest may prepare the delegate and keep what is stored
  case listen port backlog reuse dualStack => exact listen_prepares H _ _ _ _
  case listenUnix path backlog => exact listenUnix_prepares H _ _
  case connectUnix path => exact connectUnix_prepares H _
  case listenForMessage buffer port backlog => exact listenForMessage_prepares H _ _ _
  case setBlocking v => exact setBlocking_prepares H v
  case resizeReadBuffer size => exact resizeReadBuffer_prepares size
  case acceptClient invoke =>
    exact prepares_of_quiet (acceptClient_fixes _ _) (acceptClient_quiet H _)
  case invokeOnAccept target =>
    exact prepares_of_quiet (invokeOnAccept_fixes _ _) (invokeOnAccept_quiet H _)
  case write data => exact prepares_of_quiet (write_fixes _ _) (write_quiet H _)
  case writeTo data address => exact prepares_of_quiet (writeTo_fixes _ _ _) (writeTo_quiet H _ _)
  case readDatagramInto buffer =>
    exact prepares_of_quiet (readDatagramInto_fixes _ _) (readDatagramInto_quiet H _)
  case readDatagram => exact prepares_of_quiet (recvDatagram_fixes _) (recvDatagram_quiet H)
  case setReadTimeout ms =>
    exact prepares_of_quiet (setTimeout_fixes _ _ _ _) (setTimeout_quiet H _ _ _)
  case setWriteTimeout ms =>
    exact prepares_of_quiet (setTimeout_fixes _ _ _ _) (setTimeout_quiet H _ _ _)
  case udpBroadcast enable =>
    exact prepares_of_quiet (udpBroadcast_fixes _ _) (udpBroadcast_quiet H _)
  case readiness waitForever timeout =>
    exact prepares_of_quiet (readiness_fixes _ _ _) (readiness_quiet H _ _)

end Op

/-- A recorded step has the effect of its operation. -/
theorem Recorded.effect {σ : Type} {H : Host σ} {op : Op} {t u : Socket} {w : σ}
    {past : List Event} {handed : List UInt8} {written : List Event}
    (hstep : Ends (op.perform H.recording) (t, (w, past))
      (fun r st => r = handed ∧ st.1 = u ∧ st.2.2 = past ++ written)
      (fun _ st => handed = [] ∧ st.1 = u ∧ st.2.2 = past ++ written)) :
    op.Effect t handed written u :=
  @Recorded.observed σ H (fun r new u => op.Effect t r new u) op t u w past handed written
    (Op.perform_effect H op) hstep

end Sockets
