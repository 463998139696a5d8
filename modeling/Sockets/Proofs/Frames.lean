import Sockets.Proofs.Runs

/-!
# Operations that leave the socket alone

Most of the steps an operation is built of only look at the socket: they check it, ask the
system, and fail or return. Each such step `Fixes` the socket, and `ends_of_fixes` then lets a
proof about a larger operation step over it as over one system call, without looking inside.

The operations that only send, receive datagrams, set native options or ask for readiness fix
their socket as a whole, and so do the two that work on another socket: `acceptClient` hands the
new connection out as a socket of its own, and `invokeOnAccept` changes only its target
(`Op.LeavesSocket`, `perform_fixes`). What they hand out is fresh: the accepted socket of
`acceptClient` has prepared nothing and stores nothing (`acceptClient_fresh`).

Other operations change a part of the socket only, and `Keeps` says which: reading changes what
is stored and whether the remote side has closed (`apartFromReads`), installing a delegate and
resizing the read buffer change the settings (`apartFromSettings`).
-/

namespace Sockets

namespace Socket

variable {σ α : Type} (H : Host σ) {st : Socket × σ}

theorem ends_keepBacklog (backlog : Value) {ok : Unit → Socket × σ → Prop}
    {err : Failure → Socket × σ → Prop} :
    Ends (keepBacklog backlog) st ok err =
      ok () ({ st.1 with backlog := if backlog matches .none then st.1.backlog else backlog },
        st.2) := by
  cases backlog <;> rfl

/-! ## Steps of serving and connecting -/

theorem setOption_fixes (h : Handle) (opt : SockOpt) (v : Value) :
    Fixes (setOption H h opt v) := by
  intro st
  simp [setOption, ends_orCode, ends_sys]

theorem sharePorts_fixes (h : Handle) : Fixes (sharePorts H h) := by
  intro st
  simp only [sharePorts, ↓ends_tryCatch, ↓ends_sys, ↓ends_ite, ↓ends_pure, ↓ends_throw]
  simp

theorem bindFirst_fixes (h : Handle) (rs : List Resolved) (last : Option Failure) :
    Fixes (bindFirst H h rs last) := by
  induction rs generalizing last with
  | nil =>
    intro st
    simp [bindFirst, ends_throw]
  | cons r rest ih =>
    intro st
    simp only [bindFirst, ↓ends_bind, ↓ends_attempt, ↓ends_sys, ↓ends_pure, ↓ends_ite,
      ↓ends_throw, ↓ends_of_fixes (ih _)]
    simp

theorem boundAddress_fixes (h : Handle) (why : String) : Fixes (boundAddress H h why) := by
  intro st
  simp only [boundAddress, ↓ends_bind, ↓ends_orCode, ↓ends_sys, ↓ends_system, ↓ends_rethrow]
  simp [Option.forall, ends_pure, ends_throw]

theorem clearNode_fixes (path : Value) : Fixes (clearNode H path) := by
  intro st
  simp only [clearNode, ↓ends_tryCatch, ↓ends_sys, ↓ends_ite, ↓ends_pure, ↓ends_throw]
  simp

theorem requireListener_fixes : Fixes (requireListener : SocketM σ Unit) := by
  intro st
  simp [requireListener, ends_bind, ends_current, ends_ite, ends_throw, ends_pure]

/-- One round of the accept loop: an interrupted accept is called again, on the system it left. -/
theorem acceptRetrying_succ (h : Handle) (n : Nat) (w : σ) :
    acceptRetrying H h (n + 1) w = match H.accept h w with
      | .ok a w' => .ok a w'
      | .error e w' => if e.isInterrupted then acceptRetrying H h n w' else .error e w' := by
  rw [acceptRetrying, tryCatch_run]
  rcases H.accept h w with ⟨a, w'⟩ | ⟨e, w'⟩
  · rfl
  · by_cases hi : e.isInterrupted = true
    · simp [hi]
    · simp only [hi, Bool.false_eq_true, if_false]
      rfl

/-- The accept loop ends as each of its calls does, when what an interrupted call leaves composes
with what the retry from there ends in. -/
theorem ends_acceptRetrying {h : Handle} {P : σ → Handle × Value → σ → Prop}
    {Q : σ → Failure → σ → Prop} (hacc : ∀ w, Ends (H.accept h) w (P w) (Q w))
    (hok : ∀ w e w' a w'', Q w e w' → e.isInterrupted = true → P w' a w'' → P w a w'')
    (herr : ∀ w e w' e' w'', Q w e w' → e.isInterrupted = true → Q w' e' w'' → Q w e' w'')
    (retries : Nat) (w : σ) : Ends (acceptRetrying H h retries) w (P w) (Q w) := by
  induction retries generalizing w with
  | zero => exact hacc w
  | succ n ih =>
    rw [acceptRetrying, ends_tryCatch]
    refine ends_mono (hacc w) (fun _ _ hp => hp) (fun e w' hq => ?_)
    by_cases hi : e.isInterrupted = true
    · -- the retry runs from the state the interrupted call left
      simp only [hi, if_true]
      exact ends_mono (ih w') (fun a w'' hp => hok w e w' a w'' hq hi hp)
        (fun e' w'' hq' => herr w e w' e' w'' hq hi hq')
    · simp only [hi, Bool.false_eq_true, if_false, ends_throw]
      exact hq

theorem acceptNative_fixes (h : Handle) : Fixes (acceptNative H h) := by
  intro st
  simp only [acceptNative, ↓ends_bind, ↓ends_orCode, ↓ends_sys, ↓ends_system, ↓ends_rethrow]
  simp [Option.forall, ends_pure, ends_throw, ends_bind, ends_sys]

theorem pollFor_fixes (fd : Int) (wait : Option Nat) (read write : Bool) :
    Fixes (pollFor H fd wait read write) := by
  intro st
  simp only [pollFor, ↓ends_bind, ↓ends_orCode, ↓ends_sys, ↓ends_pure]
  simp

theorem waitUntil_fixes (readable writable : Bool) : Fixes (waitUntil H readable writable) := by
  intro st
  simp only [waitUntil, ↓ends_bind, ↓ends_checkDescriptor, ↓ends_system,
    ↓ends_of_fixes (pollFor_fixes _ _ _ _ _), ↓ends_pure]
  simp

theorem connectTrial_fixes (trial : Handle) (sockaddr : Value) (timeout : Int) :
    Fixes (connectTrial H trial sockaddr timeout) := by
  intro st
  simp only [connectTrial, ↓ends_bind, ↓ends_current, ↓ends_ite, ↓ends_sys, ↓ends_pure,
    ↓ends_attempt, ↓ends_throw, ↓ends_system, ↓ends_of_fixes (pollFor_fixes _ _ _ _ _)]
  simp

theorem firstConnection_fixes (timeout : Int) (rs : List Resolved) (last : Option Failure) :
    Fixes (firstConnection H timeout rs last) := by
  induction rs generalizing last with
  | nil =>
    intro st
    simp [firstConnection, ends_throw]
  | cons r rest ih =>
    intro st
    simp only [firstConnection, ↓ends_bind, ↓ends_attempt, ↓ends_sys, ↓ends_pure, ↓ends_ite,
      ↓ends_throw, ↓ends_of_fixes (ih _), ↓ends_of_fixes (connectTrial_fixes _ _ _ _)]
    simp

/-! ## Steps of sending and receiving datagrams -/

theorem requireDatagram_fixes : Fixes (requireDatagram : SocketM σ Unit) := by
  intro st
  simp [requireDatagram, ends_bind, ends_current, ends_ite, ends_throw, ends_pure]

theorem recvDatagram_fixes : Fixes (recvDatagram H) := by
  intro st
  simp only [recvDatagram, ↓ends_bind, ↓ends_checkDescriptor, ↓ends_of_fixes requireDatagram_fixes,
    ↓ends_current, ↓ends_attempt, ↓ends_sys, ↓ends_system, ↓ends_ite, ↓ends_pure, ↓ends_throw]
  simp
  -- the sender's address is made after the receive, and may fail
  intro h _ _
  refine ends_of_forall (fun _ _ data raw w _ => ?_) (fun _ _ => trivial)
  split <;> rfl

theorem delegateSend_fixes (d : String) (data : List UInt8) (fuel : Nat) :
    Fixes (delegateSend H d data fuel) := by
  induction fuel with
  | zero =>
    intro st
    simp [delegateSend, ends_throw]
  | succ fuel ih =>
    intro st
    simp only [delegateSend, ↓ends_bind, ↓ends_current, ↓ends_attempt, ↓ends_sys, ↓ends_pure]
    refine ⟨by simp, fun e w _ => ?_⟩
    cases e <;> simp [ends_ite, ends_throw, ends_bind, ends_of_fixes (waitUntil_fixes _ _ _),
      ends_of_fixes ih]

theorem sendOnce_fixes (h : Handle) (data : List UInt8) : Fixes (sendOnce H h data) := by
  intro st
  simp only [sendOnce, ↓ends_bind, ↓ends_current]
  split <;> simp [ends_bind, ends_system, ends_of_fixes (delegateSend_fixes _ _ _ _), ends_sys]

theorem sendAll_fixes (h : Handle) (data : List UInt8) (sent fuel : Nat) :
    Fixes (sendAll H h data sent fuel) := by
  induction fuel generalizing sent with
  | zero =>
    intro st
    rfl
  | succ fuel ih =>
    intro st
    simp only [sendAll, ↓ends_ite, ↓ends_pure, ↓ends_bind, ↓ends_attempt,
      ↓ends_of_fixes (sendOnce_fixes _ _ _), ↓ends_current, ↓ends_throw, ↓ends_of_fixes (ih _)]
    simp

/-! ## Operations that fix the socket -/

theorem write_fixes (data : Value) : Fixes (write H data) := by
  intro st
  simp only [write, ↓ends_bind, ↓ends_rethrow, ↓ends_ite, ↓ends_pure, ↓ends_checkDescriptor,
    ↓ends_current, ↓ends_throw, ↓ends_of_fixes (sendAll_fixes _ _ _ _ _)]
  simp

theorem writeTo_fixes (data address : Value) : Fixes (writeTo H data address) := by
  intro st
  simp only [writeTo, ↓ends_bind, ↓ends_rethrow, ↓ends_checkDescriptor,
    ↓ends_of_fixes requireDatagram_fixes]
  -- the target is taken by the kind of `address`
  split <;> simp [ends_bind, ends_pure, ends_throw, ends_rethrow, ends_attempt, ends_sys, ends_ite,
    ends_current]

theorem readDatagramInto_fixes (buffer : List UInt8) : Fixes (readDatagramInto H buffer) := by
  intro st
  simp only [readDatagramInto, ↓ends_bind, ↓ends_ite, ↓ends_throw, ↓ends_pure,
    ↓ends_of_fixes (recvDatagram_fixes _)]
  simp

theorem setTimeout_fixes (opt : SockOpt) (code : ErrorCode) (ms : Value) :
    Fixes (setTimeout H opt code ms) := by
  intro st
  simp only [setTimeout, ↓ends_bind, ↓ends_rethrow, ↓ends_checkDescriptor, ↓ends_orCode,
    ↓ends_sys]
  simp

theorem udpBroadcast_fixes (enable : Value) : Fixes (udpBroadcast H enable) := by
  intro st
  simp only [udpBroadcast, ↓ends_bind, ↓ends_checkDescriptor,
    ↓ends_of_fixes requireDatagram_fixes, ↓ends_of_fixes (setOption_fixes _ _ _ _)]
  simp

theorem readiness_fixes (waitForever : Bool) (timeout : Value) :
    Fixes (readiness H waitForever timeout) := by
  intro st
  simp only [readiness, pollDescriptor, ↓ends_bind, ↓ends_checkDescriptor, ↓ends_current,
    ↓ends_ite, ↓ends_throw, ↓ends_system, ↓ends_rethrow, ↓ends_of_fixes (pollFor_fixes _ _ _ _ _),
    ↓ends_pure]
  simp

/-! ## Reading changes only what is stored -/

/-- The socket apart from what reading changes: the storage, and whether the remote side has
closed. -/
def apartFromReads (s : Socket) : Socket := { s with storage := [], remoteClosed := false }

theorem delegateRecv_fixes (d : String) (first : Bool) (fuel : Nat) :
    Fixes (delegateRecv H d first fuel) := by
  induction fuel with
  | zero =>
    intro st
    simp [delegateRecv, ends_throw]
  | succ fuel ih =>
    intro st
    simp only [delegateRecv, ↓ends_bind, ↓ends_current, ↓ends_attempt, ↓ends_sys, ↓ends_pure]
    refine ⟨by simp, fun e w _ => ?_⟩
    cases e <;> simp [ends_ite, ends_throw, ends_bind, ends_of_fixes (waitUntil_fixes _ _ _),
      ends_of_fixes ih]

theorem recvOnce_fixes (h : Handle) (first : Bool) : Fixes (recvOnce H h first) := by
  intro st
  simp only [recvOnce, ↓ends_bind, ↓ends_current]
  split <;> simp [ends_bind, ends_system, ends_of_fixes (delegateRecv_fixes _ _ _ _), ends_sys]

/-- A drain only adds to the storage and may mark the remote side closed. -/
theorem drain_keeps (h : Handle) (fuel : Nat) : Keeps apartFromReads (drain H h fuel) := by
  induction fuel with
  | zero =>
    intro st
    rfl
  | succ fuel ih =>
    intro st
    simp only [drain, ↓ends_bind, ↓ends_current, ↓ends_attempt, ↓ends_of_fixes (recvOnce_fixes _ _ _),
      ↓ends_ite, ↓ends_pure, ↓ends_throw, ↓ends_change]
    refine ends_of_forall (fun data w => ?_) (fun _ _ => by simp)
    -- the end of the stream, a short receive, or a full one and the drain goes on
    split
    · simp [apartFromReads]
    · split
      · simp [apartFromReads]
      · exact ih.ends (fun _ _ h => by simp_all [apartFromReads])
          (fun _ _ h => by simp_all [apartFromReads])

theorem fill_keeps : Keeps apartFromReads (fill H) := by
  intro st
  simp only [fill, ↓ends_bind, ↓ends_checkDescriptor, ↓ends_current, ↓ends_ite, ↓ends_throw,
    ↓ends_pure]
  simp
  intro h _ _ _ _
  exact (drain_keeps H h _).ends (fun _ _ h => by simp [h]) (fun _ _ h => h)

theorem takeStored_keeps (size : Nat) (truncate : Bool) :
    Keeps apartFromReads (takeStored size truncate : SocketM σ (List UInt8)) := by
  intro st
  simp [takeStored, ends_bind, ends_current, ends_ite, ends_throw, ends_change, ends_map,
    apartFromReads]

theorem readInto_keeps (buffer : List UInt8) (nbytes : Value) (truncate : Bool) :
    Keeps apartFromReads (readInto H buffer nbytes truncate) := by
  intro st
  -- once the arguments are checked, the storage is filled and then taken from
  have fill_take : ∀ size, Ends (fill H) st
      (fun filled st' =>
        if filled = true then
          Ends (takeStored size truncate) st'
            (fun _ st'' => st''.1.apartFromReads = st.1.apartFromReads)
            (fun _ st'' => st''.1.apartFromReads = st.1.apartFromReads)
        else st'.1.apartFromReads = st.1.apartFromReads)
      (fun _ st' => st'.1.apartFromReads = st.1.apartFromReads) := fun size =>
    (fill_keeps H).ends (fun filled st' hfill => by
        split
        · exact (takeStored_keeps size truncate).ends (fun _ _ h => h.trans hfill)
            (fun _ _ h => h.trans hfill)
        · exact hfill)
      (fun _ _ h => h)
  simp only [readInto, ↓ends_bind, ↓ends_rethrow, ↓ends_ite, ↓ends_throw, ↓ends_pure, ↓ends_map]
  simp
  split <;> simp [fill_take]

theorem readData_keeps : Keeps apartFromReads (readData H) := by
  -- fill the storage, then hand all of it out
  refine (fill_keeps H).bind fun filled => ?_
  cases filled
  · exact (Fixes.pure _).keepsView _
  · exact (current_fixes.keepsView _).bind fun s => takeStored_keeps _ true

/-! ## Settings change only the settings -/

/-- The socket apart from its settings: the delegate, whether it is prepared, and the size of
the read buffer. -/
def apartFromSettings (s : Socket) : Socket :=
  { s with delegate := none, delegateReady := false, readBufferSize := 0 }

theorem setDelegate_keeps (d : Option String) :
    Keeps apartFromSettings (setDelegate d : SocketM σ Unit) := by
  intro st
  simp only [setDelegate, ↓ends_bind, ↓ends_change, ↓ends_ite, ↓ends_pure]
  split <;> rfl

theorem resizeReadBuffer_keeps (size : Value) :
    Keeps apartFromSettings (resizeReadBuffer size : SocketM σ Nat) := by
  intro st
  simp only [resizeReadBuffer, ↓ends_bind, ↓ends_rethrow, ↓ends_current, ↓ends_ite, ↓ends_throw,
    ↓ends_change, ↓ends_pure]
  simp +contextual [apartFromSettings]

/-! ## The accept hook and the accepted socket -/

/-- A socket that waited for the accept hook, once the hook has run: it waits no more, and it is
secure when a delegate ran the hook. -/
def hooked (t : Socket) (secured : Bool) : Socket :=
  { t with
    awaitingAccept := false
    signature := if secured then { t.signature with isSecure := true } else t.signature }

/-- The accept hook runs only on a target that waits for it, and hands the target back hooked,
secured exactly when the listener has a delegate. The listener itself is left alone. -/
theorem invokeOnAccept_hooked (target : Socket) :
    Ends (invokeOnAccept H target) st
      (fun r st' => st'.1 = st.1 ∧ target.awaitingAccept = true ∧
        r = target.hooked st.1.delegate.isSome)
      (fun _ st' => st'.1 = st.1) := by
  cases hd : st.1.delegate <;>
    simp +contextual [invokeOnAccept, hd, ends_bind, ends_ite, ends_throw, ends_current, ends_pure, ends_map,
      ends_callDelegate, ends_sys, hooked]

theorem invokeOnAccept_fixes (target : Socket) : Fixes (invokeOnAccept H target) := fun _ =>
  ends_mono (invokeOnAccept_hooked H target) (fun _ _ h => h.1) (fun _ _ h => h)

/-- Accepting a client leaves the listener alone and hands out a fresh socket. -/
theorem acceptClient_fresh (invoke : Bool) :
    Ends (acceptClient H invoke) st (fun child st' => st'.1 = st.1 ∧ Fresh child)
      (fun _ st' => st'.1 = st.1) := by
  simp only [acceptClient, ↓ends_bind, ↓ends_checkDescriptor, ↓ends_of_fixes requireListener_fixes,
    ↓ends_of_fixes (acceptNative_fixes _ _), ↓ends_current, ↓ends_sys, ↓ends_ite, ↓ends_pure,
    ↓ends_attempt, ↓ends_within, ↓ends_rethrow, ↓ends_throw]
  simp +contextual
  intro h _ _
  refine ends_of_forall (fun _ w => ends_of_forall (fun conn w' child w'' hchild => ?_)
    (fun _ _ => trivial)) (fun _ _ => trivial)
  -- the new socket is made by `fromNative`, then perhaps hooked at once
  obtain ⟨⟨hl, hd, hs⟩, -⟩ := ok_of_ends (fromNative_fresh H _ _ _ _) hchild
  split
  · exact ⟨hl, hd, hs⟩
  · split
    · refine ends_mono (invokeOnAccept_hooked H _) (fun r st' hr => ?_) (fun _ _ h => h)
      obtain ⟨hst, -, rfl⟩ := hr
      simp [hst, hooked, hl, hd, hs]
    · exact ⟨hl, hd, hs⟩

/-- Being the target of a listener's accept hook either fails and leaves the socket alone, or
leaves it hooked, secured when the listener has a delegate. -/
theorem acceptedBy_hooked (listener : Socket) :
    Ends ((Op.acceptedBy listener).perform H) st
      (fun _ st' => st.1.awaitingAccept = true ∧ st'.1 = st.1.hooked listener.delegate.isSome)
      (fun _ st' => st'.1 = st.1) := by
  simp only [Op.perform, ↓ends_bind, ↓ends_current, ↓ends_within, ↓ends_rethrow, ↓ends_change,
    ↓ends_pure]
  refine ends_mono (invokeOnAccept_hooked H st.1) (fun r st' h => ?_) (fun _ _ _ => by simp)
  simp [h.2.1, h.2.2]

theorem acceptClient_fixes (invoke : Bool) : Fixes (acceptClient H invoke) := fun _ =>
  ends_mono (acceptClient_fresh H invoke) (fun _ _ h => h.1) (fun _ _ h => h)

end Socket

namespace Op

open Socket

variable {σ : Type} (H : Host σ)

/-- The operations that leave their own socket as it was. -/
def LeavesSocket : Op → Prop
  | .acceptClient _ | .invokeOnAccept _ | .write _ | .writeTo _ _ | .readDatagramInto _
  | .readDatagram | .setReadTimeout _ | .setWriteTimeout _ | .udpBroadcast _
  | .readiness _ _ => True
  | _ => False

theorem perform_fixes {op : Op} (h : op.LeavesSocket) : Fixes (op.perform H) := by
  cases op <;> simp only [LeavesSocket] at h
  case acceptClient invoke => exact (acceptClient_fixes H invoke).bind fun _ => .pure _
  case invokeOnAccept target => exact (invokeOnAccept_fixes H target).bind fun _ => .pure _
  case write data => exact (write_fixes H data).bind fun _ => .pure _
  case writeTo data address => exact (writeTo_fixes H data address).bind fun _ => .pure _
  case readDatagramInto buffer => exact (readDatagramInto_fixes H buffer).bind fun _ => .pure _
  case readDatagram => exact (recvDatagram_fixes H).bind fun _ => .pure _
  case setReadTimeout ms => exact (setTimeout_fixes H _ _ ms).bind fun _ => .pure _
  case setWriteTimeout ms => exact (setTimeout_fixes H _ _ ms).bind fun _ => .pure _
  case udpBroadcast enable => exact (udpBroadcast_fixes H enable).bind fun _ => .pure _
  case readiness waitForever timeout =>
    exact (readiness_fixes H waitForever timeout).bind fun _ => .pure _

end Op

end Sockets
