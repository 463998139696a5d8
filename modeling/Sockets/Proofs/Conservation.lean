import Sockets.Proofs.Effects
import Sockets.Proofs.Closed

/-!
# No byte received is lost, doubled or moved

A stream read hands its caller the bytes its receives returned, in order, after what an earlier
read left in store. Along a run, what the steps handed out followed by what is stored at the end
is what was stored at the start followed by every byte the receives returned
(`Recorded.conserves`): no byte is lost, handed out twice or out of order, whatever the receives
return or raise and however small the caller's buffer.

*Where the stream ends.*  The stream a socket reads from ends where its descriptor is closed or
replaced (`Op.Replaces`): at a close, and where connecting or accepting in place of listening
runs on a socket that is not connected. A connected socket refuses both at once, keeping its
descriptor and what it stored, so there the stream goes on. The conservation holds along every
run that passes no such point.

*Nothing stored between streams.*  A socket stores bytes only while it is connected
(`Socket.StoresOnlyConnected`), along every run, and so nothing is stored right after each point
where a stream ends (`Recorded.emptied`): the next stream starts with nothing of the last one.
-/

namespace Sockets

namespace Op

/-- `op` closes or replaces the descriptor of `s`: a close, or connecting or accepting in place
of listening on a socket that is not connected. -/
def Replaces (s : Socket) : Op → Prop
  | .close => True
  | .connect .. | .connectUsing _ | .acceptConnection => s.connected = false
  | _ => False

end Op

/-- A socket stores bytes only while it is connected. -/
def Socket.StoresOnlyConnected (s : Socket) : Prop :=
  s.connected = false → s.storage = []

/-- The bytes the receives of a step returned. -/
def Entry.received (e : Entry) : List UInt8 :=
  e.written.flatMap Event.bytes

@[simp] theorem Entry.received_mk (t : Socket) (op : Op) (handed : List UInt8)
    (written : List Event) (u : Socket) :
    (Entry.mk t op handed written u).received = written.flatMap Event.bytes :=
  rfl

@[simp] theorem Event.flatMap_bytes_received (chunks : List (List UInt8)) :
    (chunks.map Event.received).flatMap Event.bytes = chunks.flatten := by
  induction chunks <;> simp [*]

variable {t u : Socket} {r : List UInt8} {new : List Event}

/-! ## One step -/

/-- A step that may prepare the delegate receives nothing. -/
theorem Prepares.flatMap_bytes (h : Prepares t new u) : new.flatMap Event.bytes = [] := by
  rw [List.flatMap_eq_nil_iff]
  intro e he
  obtain ⟨d, returned, -, rfl⟩ := h.setUps e he
  rfl

theorem Reads.conserves (h : Reads t r new u) :
    r ++ u.storage = t.storage ++ new.flatMap Event.bytes := by
  obtain ⟨chunks, rfl, hbytes⟩ := h.delivers
  simpa using hbytes

theorem Reads.connected_eq (h : Reads t r new u) : u.connected = t.connected := by
  simpa [Socket.apartFromReads] using congrArg Socket.connected h.rest

theorem StorageKept.conserves (h : StorageKept t u) (hp : new.flatMap Event.bytes = []) :
    [] ++ u.storage = t.storage ++ new.flatMap Event.bytes := by
  simp [h.1, hp]

theorem StorageKept.storesOnlyConnected (h : StorageKept t u) (ht : t.StoresOnlyConnected) :
    u.StoresOnlyConnected := by
  intro hu
  rw [h.1]
  -- a socket that was connected stays connected
  cases hc : t.connected
  · exact ht hc
  · simp [h.2 hc] at hu

/-- A step that does not end the stream hands out what was stored followed by what its receives
returned, and stores the rest. -/
theorem Op.conserves_of_effect {op : Op} (hop : ¬op.Replaces t) (h : op.Effect t r new u) :
    r ++ u.storage = t.storage ++ new.flatMap Event.bytes := by
  cases op
  case readInto | readData | readString => exact Reads.conserves h
  case close => exact absurd trivial hop
  case setDelegate d =>
    obtain ⟨rfl, rfl, -, -, hkept⟩ := h
    exact hkept.conserves rfl
  case connect | connectUsing | acceptConnection =>
    obtain ⟨rfl, hp, hkept | ⟨hc, -⟩⟩ := h
    · exact hkept.conserves hp.flatMap_bytes
    · exact absurd hc hop
  all_goals
    obtain ⟨rfl, hp, hkept⟩ := h
    exact hkept.conserves hp.flatMap_bytes

/-- Every step keeps a socket storing bytes only while it is connected. -/
theorem Op.storesOnlyConnected_of_effect {op : Op} (h : op.Effect t r new u)
    (ht : t.StoresOnlyConnected) : u.StoresOnlyConnected := by
  cases op
  -- a read stores nothing more on a socket that is not connected, and keeps it so
  case readInto | readData | readString =>
    intro hu
    have hc : t.connected = false := (Reads.connected_eq h).symm.trans hu
    exact (Reads.unconnected h hc).trans (ht hc)
  case close => exact fun _ => Closes.emptied h
  case setDelegate d => exact h.2.2.2.2.storesOnlyConnected ht
  case connect | connectUsing | acceptConnection =>
    obtain ⟨-, -, hkept | ⟨-, hu⟩⟩ := h
    · exact hkept.storesOnlyConnected ht
    · exact fun _ => hu
  all_goals exact h.2.2.storesOnlyConnected ht

/-- A step that ends the stream of a socket storing bytes only while connected stores nothing. -/
theorem Op.emptied_of_effect {op : Op} (hop : op.Replaces t) (h : op.Effect t r new u)
    (ht : t.StoresOnlyConnected) : u.storage = [] := by
  cases op
  case close => exact Closes.emptied h
  -- connecting and accepting replace the descriptor only of a socket that is not connected
  case connect | connectUsing | acceptConnection =>
    obtain ⟨-, -, hkept | ⟨-, hu⟩⟩ := h
    · exact hkept.1.trans (ht hop)
    · exact hu
  all_goals exact absurd hop id

/-! ## Whole runs -/

variable {σ : Type} {H : Host σ} {allowed : Socket → Op → Prop} {s : Socket}
  {log : List Entry}

/-- Along a run that does not end the stream, the bytes handed out followed by what is stored at
the end are what was stored at the start followed by the bytes the receives returned. -/
theorem Recorded.conserves (hrun : Recorded H (fun s op => ¬op.Replaces s) s log t) :
    log.flatMap Entry.handed ++ t.storage = s.storage ++ log.flatMap Entry.received := by
  induction hrun with
  | nil => simp
  | @step t u log op handed written w past _ hallowed hstep ih =>
    have hconserves := Op.conserves_of_effect hallowed (Recorded.effect hstep)
    simp only [List.flatMap_append, List.flatMap_cons, List.flatMap_nil, List.append_nil,
      Entry.received_mk]
    calc log.flatMap Entry.handed ++ handed ++ u.storage
        = log.flatMap Entry.handed ++ (handed ++ u.storage) := List.append_assoc ..
      _ = log.flatMap Entry.handed ++ t.storage ++ written.flatMap Event.bytes := by
        rw [hconserves, List.append_assoc]
      _ = s.storage ++ (log.flatMap Entry.received ++ written.flatMap Event.bytes) := by
        rw [ih, List.append_assoc]

/-- Along every run, a socket stores bytes only while it is connected. -/
theorem Recorded.storesOnlyConnected (hrun : Recorded H allowed s log t)
    (hs : s.StoresOnlyConnected) : t.StoresOnlyConnected := by
  induction hrun with
  | nil => exact hs
  | step _ _ _ _ hstep ih => exact Op.storesOnlyConnected_of_effect (Recorded.effect hstep) ih

/-- Along every run from a socket storing bytes only while connected, nothing is stored right
after a step that ends the stream. -/
theorem Recorded.emptied (hrun : Recorded H allowed s log t) (hs : s.StoresOnlyConnected) :
    ∀ e ∈ log, e.op.Replaces e.before → e.after.storage = [] := by
  induction hrun with
  | nil => simp
  | step _ _ hrun _ hstep ih =>
    intro e he hop
    rcases List.mem_append.1 he with he | he
    · exact ih e he hop
    · rw [List.mem_singleton] at he
      subst he
      exact Op.emptied_of_effect hop (Recorded.effect hstep) (hrun.storesOnlyConnected hs)

/-- The bytes received are handed out once each and in order: along a run that ends no stream,
what was handed out followed by what is stored is what was stored followed by what the receives
returned; and along every run from a socket storing bytes only while connected, it keeps doing
so, and nothing is stored right after a step that ends the stream. -/
theorem reads_conserve_received_bytes (H : Host σ) :
    (Recorded H (fun s op => ¬op.Replaces s) s log t →
      log.flatMap Entry.handed ++ t.storage = s.storage ++ log.flatMap Entry.received) ∧
    (Recorded H (fun _ _ => True) s log t → s.StoresOnlyConnected →
      t.StoresOnlyConnected ∧ ∀ e ∈ log, e.op.Replaces e.before → e.after.storage = []) :=
  ⟨Recorded.conserves, fun hrun hs => ⟨hrun.storesOnlyConnected hs, hrun.emptied hs⟩⟩

/-- A connected socket on a system whose receives return the bytes 8 and 9 reads one byte and
keeps the other, then reads the one it kept. -/
def splitRead : List Entry :=
  [⟨connectedInet, .readInto [0] (.int 1) true, [8], [.received [8, 9]],
      { connectedInet with storage := [9] }⟩,
    ⟨{ connectedInet with storage := [9] }, .readData, [9], [], connectedInet⟩]

/-- The read of `splitRead` hands out the two bytes received, in order, one per read; and when
the socket closes after it, nothing is left stored. -/
theorem split_read_hands_out_received_bytes :
    splitRead.flatMap Entry.handed = [8, 9] ∧
      splitRead.flatMap Entry.handed ++ connectedInet.storage =
        connectedInet.storage ++ splitRead.flatMap Entry.received ∧
      (connectedInet.afterClose true none).StoresOnlyConnected ∧
      ∀ e ∈ splitRead ++ [⟨connectedInet, .close, [], [], connectedInet.afterClose true none⟩],
        e.op.Replaces e.before → e.after.storage = [] :=
  have hreads : ∀ allowed : Socket → Op → Prop, allowed connectedInet (.readInto [0] (.int 1) true) →
      allowed { connectedInet with storage := [9] } .readData →
      Recorded (grantingHost [8, 9]) allowed connectedInet ([] ++ splitRead) connectedInet :=
    fun _ h₁ h₂ => Recorded.step () [] (Recorded.step () [] (.nil _) h₁
      (by with_unfolding_all exact show _ ∧ _ ∧ _ from ⟨rfl, rfl, rfl⟩)) h₂
      (by with_unfolding_all exact show _ ∧ _ ∧ _ from ⟨rfl, rfl, rfl⟩)
  have hclose : Recorded (grantingHost [8, 9]) (fun _ _ => True) connectedInet
      ([] ++ splitRead ++ [⟨connectedInet, .close, [], [], connectedInet.afterClose true none⟩])
      (connectedInet.afterClose true none) :=
    Recorded.step () [] (hreads _ trivial trivial) trivial
      (by with_unfolding_all exact show _ ∧ _ ∧ _ from ⟨rfl, rfl, rfl⟩)
  ⟨rfl, (reads_conserve_received_bytes (grantingHost [8, 9])).1 (hreads _ id id),
    ((reads_conserve_received_bytes (grantingHost [8, 9])).2 hclose (fun _ => rfl)).1,
    ((reads_conserve_received_bytes (grantingHost [8, 9])).2 hclose (fun _ => rfl)).2⟩

end Sockets
