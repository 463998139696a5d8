import Mathlib.Tactic.Simps.Basic
import Sockets.Proofs.Frames

/-!
# A host that writes down what it is asked

Some properties of the library are about the calls a socket makes of its system: which of the
delegate's hooks it runs, and which bytes its receives return. `Host.recording H` is the host `H`
with a record: it runs every call as `H` does and writes down an `Event` for each preparation of
a delegate (with whether it returned), each undoing of one, and each stream receive that
returned bytes, native or through the delegate. Every other call leaves the record alone.

Since `H` is any host, a property of the library run on `H.recording` holds for every behaviour
of the system and the delegates, and speaks of the calls made as well.

*Writing nothing down.*  `Quiet prog` says that `prog` ends with the record it started with. The
steps that send, bind, connect, accept, receive datagrams or set options are quiet, and so are
the operations built of them alone; `ends_of_quiet` steps over a quiet program that fixes the
socket as over one call that keeps the record.
-/

namespace Sockets

/-- What the recording host writes down of a call. -/
inductive Event where
  /-- The delegate was asked to prepare, and returned (`true`) or failed. -/
  | setUp (d : String) (returned : Bool)
  /-- The delegate was asked to undo its preparation. -/
  | tearDown (d : String)
  /-- A stream receive returned these bytes. -/
  | received (data : List UInt8)
  deriving DecidableEq, Repr

namespace Host

variable {σ α : Type}

/-- A call run with a record: what it writes down is `onOk` of its result when it returns, and
`onError` when it fails. -/
def noting (act : EStateM Failure σ α) (onOk : α → List Event) (onError : List Event) :
    EStateM Failure (σ × List Event) α := fun (w, log) =>
  match act w with
  | .ok a w' => .ok a (w', log ++ onOk a)
  | .error e w' => .error e (w', log ++ onError)

/-- A call run with a record, which it leaves alone. -/
def unrecorded (act : EStateM Failure σ α) : EStateM Failure (σ × List Event) α := fun (w, log) =>
  match act w with
  | .ok a w' => .ok a (w', log)
  | .error e w' => .error e (w', log)

/-- The host `H`, writing down the preparations and undoings of delegates and the bytes of the
stream receives. -/
@[simps]
def recording (H : Host σ) : Host (σ × List Event) where
  fileno h w := H.fileno h w.1
  family h w := H.family h w.1
  socketType h w := H.socketType h w.1
  blocking h w := H.blocking h w.1
  interruptions h w := H.interruptions h w.1
  create family type proto := unrecorded (H.create family type proto)
  adopt fd := unrecorded (H.adopt fd)
  close h := unrecorded (H.close h)
  shutdown h how := unrecorded (H.shutdown h how)
  setBlocking h flag := unrecorded (H.setBlocking h flag)
  setOption h opt v := unrecorded (H.setOption h opt v)
  bind h address := unrecorded (H.bind h address)
  listen h backlog := unrecorded (H.listen h backlog)
  accept h := unrecorded (H.accept h)
  connect h address := unrecorded (H.connect h address)
  sockName h := unrecorded (H.sockName h)
  pendingError h := unrecorded (H.pendingError h)
  recv h size nowait := noting (H.recv h size nowait) (fun data => [.received data]) []
  recvFrom h size := unrecorded (H.recvFrom h size)
  send h data := unrecorded (H.send h data)
  sendTo h data address := unrecorded (H.sendTo h data address)
  select r w wait := unrecorded (H.select r w wait)
  unlink path := unrecorded (H.unlink path)
  resolve host port hints := unrecorded (H.resolve host port hints)
  delegates :=
    { setUp := fun d asServer =>
        noting (H.delegates.setUp d asServer) (fun _ => [.setUp d true]) [.setUp d false]
      tearDown := fun d => noting (H.delegates.tearDown d) (fun _ => [.tearDown d]) [.tearDown d]
      onAccept := fun d h => unrecorded (H.delegates.onAccept d h)
      onConnect := fun d h => unrecorded (H.delegates.onConnect d h)
      send := fun d h data => unrecorded (H.delegates.send d h data)
      recv := fun d h size =>
        noting (H.delegates.recv d h size) (fun data => [.received data]) []
      sendRetries := fun d w => H.delegates.sendRetries d w.1
      recvRetries := fun d w => H.delegates.recvRetries d w.1 }

end Host

namespace Socket

open Host

variable {σ α β : Type} {st : Socket × (σ × List Event)}
  {ok : α → Socket × (σ × List Event) → Prop} {err : Failure → Socket × (σ × List Event) → Prop}

theorem ends_sys_noting (act : EStateM Failure σ α) (onOk : α → List Event)
    (onError : List Event) :
    Ends (sys (noting act onOk onError)) st ok err =
      ((∀ a w, act st.2.1 = .ok a w → ok a (st.1, (w, st.2.2 ++ onOk a))) ∧
        ∀ e w, act st.2.1 = .error e w → err e (st.1, (w, st.2.2 ++ onError))) := by
  obtain ⟨s, w, log⟩ := st
  simp only [ends_sys, noting]
  cases act w <;> simp

theorem ends_sys_unrecorded (act : EStateM Failure σ α) :
    Ends (sys (unrecorded act)) st ok err =
      ((∀ a w, act st.2.1 = .ok a w → ok a (st.1, (w, st.2.2))) ∧
        ∀ e w, act st.2.1 = .error e w → err e (st.1, (w, st.2.2))) := by
  obtain ⟨s, w, log⟩ := st
  simp only [ends_sys, unrecorded]
  cases act w <;> simp

theorem ends_unrecorded (act : EStateM Failure σ α) {w : σ × List Event}
    {ok : α → σ × List Event → Prop} {err : Failure → σ × List Event → Prop} :
    Ends (unrecorded act) w ok err =
      ((∀ a w', act w.1 = .ok a w' → ok a (w', w.2)) ∧
        ∀ e w', act w.1 = .error e w' → err e (w', w.2)) := by
  obtain ⟨w, log⟩ := w
  simp only [Ends, unrecorded]
  cases act w <;> simp

/-! ## Writing nothing down -/

/-- `prog` ends with the record it started with, whether it returns or fails. -/
def Quiet (prog : SocketM (σ × List Event) α) : Prop :=
  ∀ st, Ends prog st (fun _ st' => st'.2.2 = st.2.2) (fun _ st' => st'.2.2 = st.2.2)

/-- A quiet program that fixes the socket is a call that keeps the record. -/
theorem ends_of_quiet {prog : SocketM (σ × List Event) α} (hf : Fixes prog) (hq : Quiet prog) :
    Ends prog st ok err =
      Ends (onSystem prog st.1) st.2 (fun a w => ok a (st.1, (w.1, st.2.2)))
        (fun e w => err e (st.1, (w.1, st.2.2))) := by
  have hlog := hq st
  rw [ends_of_fixes hf] at hlog ⊢
  obtain ⟨s, w, log⟩ := st
  rcases hp : onSystem prog s (w, log) with ⟨a, ⟨w', log'⟩⟩ | ⟨e, ⟨w', log'⟩⟩ <;>
    simp only [Ends, hp] at hlog ⊢ <;> subst hlog <;> rfl

theorem Quiet.bind {x : SocketM (σ × List Event) α} {f : α → SocketM (σ × List Event) β}
    (hx : Quiet x) (hf : ∀ a, Quiet (f a)) : Quiet (x >>= f) := by
  intro st
  rw [ends_bind]
  exact ends_mono (hx st) (fun a st' h => ends_mono (hf a st') (fun _ _ h' => h'.trans h)
    (fun _ _ h' => h'.trans h)) (fun _ _ h => h)

/-! ## Steps of serving and connecting -/

variable (H : Host σ)

theorem setOption_quiet (h : Handle) (opt : SockOpt) (v : Value) :
    Quiet (setOption H.recording h opt v) := by
  intro st
  simp [setOption, ends_orCode, ends_sys_unrecorded]

theorem sharePorts_quiet (h : Handle) : Quiet (sharePorts H.recording h) := by
  intro st
  simp only [sharePorts, recording_setOption, ↓ends_tryCatch, ↓ends_sys_unrecorded, ↓ends_ite,
    ↓ends_pure, ↓ends_throw]
  simp

theorem bindFirst_quiet (h : Handle) (rs : List Resolved) (last : Option Failure) :
    Quiet (bindFirst H.recording h rs last) := by
  induction rs generalizing last with
  | nil =>
    intro st
    simp [bindFirst, ends_throw]
  | cons r rest ih =>
    intro st
    simp only [bindFirst, recording_bind, ↓ends_bind, ↓ends_attempt, ↓ends_sys_unrecorded,
      ↓ends_pure, ↓ends_ite, ↓ends_throw, ↓ends_of_quiet (bindFirst_fixes _ _ _ _) (ih _)]
    simp

theorem boundAddress_quiet (h : Handle) (why : String) :
    Quiet (boundAddress H.recording h why) := by
  intro st
  simp only [boundAddress, recording_sockName, ↓ends_bind, ↓ends_orCode, ↓ends_sys_unrecorded,
    ↓ends_system, ↓ends_rethrow]
  simp [Option.forall, ends_pure, ends_throw]

theorem clearNode_quiet (path : Value) : Quiet (clearNode H.recording path) := by
  intro st
  simp only [clearNode, recording_unlink, ↓ends_tryCatch, ↓ends_sys_unrecorded, ↓ends_ite,
    ↓ends_pure, ↓ends_throw]
  simp

theorem requireListener_quiet : Quiet (requireListener : SocketM (σ × List Event) Unit) := by
  intro st
  simp [requireListener, ends_bind, ends_current, ends_ite, ends_throw, ends_pure]

/-- The accept loop writes nothing down, however often a signal interrupts it. -/
theorem acceptRetrying_quiet (h : Handle) (retries : Nat) :
    ∀ w : σ × List Event, Ends (acceptRetrying H.recording h retries) w (fun _ w' => w'.2 = w.2)
      (fun _ w' => w'.2 = w.2) :=
  ends_acceptRetrying H.recording (fun _ => by simp [recording_accept, ends_unrecorded])
    (fun _ _ _ _ _ hq _ hp => hp.trans hq) (fun _ _ _ _ _ hq _ hq' => hq'.trans hq) retries

theorem acceptNative_quiet (h : Handle) : Quiet (acceptNative H.recording h) := by
  intro st
  simp only [acceptNative, recording_close, ↓ends_bind, ↓ends_orCode,
    ↓ends_sys_of (acceptRetrying_quiet _ _ _), ↓ends_system, ↓ends_rethrow]
  simp +contextual [Option.forall, ends_pure, ends_throw, ends_bind, ends_sys_unrecorded]

theorem pollFor_quiet (fd : Int) (wait : Option Nat) (read write : Bool) :
    Quiet (pollFor H.recording fd wait read write) := by
  intro st
  simp only [pollFor, recording_select, ↓ends_bind, ↓ends_orCode, ↓ends_sys_unrecorded,
    ↓ends_pure]
  simp

theorem waitUntil_quiet (readable writable : Bool) :
    Quiet (waitUntil H.recording readable writable) := by
  intro st
  simp only [waitUntil, ↓ends_bind, ↓ends_checkDescriptor, ↓ends_system,
    ↓ends_of_quiet (pollFor_fixes _ _ _ _ _) (pollFor_quiet _ _ _ _ _), ↓ends_pure]
  simp

theorem connectTrial_quiet (trial : Handle) (sockaddr : Value) (timeout : Int) :
    Quiet (connectTrial H.recording trial sockaddr timeout) := by
  intro st
  simp only [connectTrial, recording_setBlocking, recording_connect, recording_pendingError,
    ↓ends_bind, ↓ends_current, ↓ends_ite, ↓ends_sys_unrecorded, ↓ends_pure, ↓ends_attempt,
    ↓ends_throw, ↓ends_system, ↓ends_of_quiet (pollFor_fixes _ _ _ _ _) (pollFor_quiet _ _ _ _ _)]
  simp

theorem firstConnection_quiet (timeout : Int) (rs : List Resolved) (last : Option Failure) :
    Quiet (firstConnection H.recording timeout rs last) := by
  induction rs generalizing last with
  | nil =>
    intro st
    simp [firstConnection, ends_throw]
  | cons r rest ih =>
    intro st
    simp only [firstConnection, recording_create, recording_close, ↓ends_bind, ↓ends_attempt,
      ↓ends_sys_unrecorded, ↓ends_pure, ↓ends_ite, ↓ends_throw,
      ↓ends_of_quiet (firstConnection_fixes _ _ _ _) (ih _),
      ↓ends_of_quiet (connectTrial_fixes _ _ _ _) (connectTrial_quiet _ _ _ _)]
    simp

/-! ## Steps of sending and receiving datagrams -/

theorem requireDatagram_quiet : Quiet (requireDatagram : SocketM (σ × List Event) Unit) := by
  intro st
  simp [requireDatagram, ends_bind, ends_current, ends_ite, ends_throw, ends_pure]

theorem recvDatagram_quiet : Quiet (recvDatagram H.recording) := by
  intro st
  simp only [recvDatagram, recording_recvFrom, ↓ends_bind, ↓ends_checkDescriptor,
    ↓ends_of_quiet requireDatagram_fixes requireDatagram_quiet, ↓ends_current, ↓ends_attempt,
    ↓ends_sys_unrecorded, ↓ends_system, ↓ends_ite, ↓ends_pure, ↓ends_throw]
  simp
  -- the sender's address is made after the receive, and may fail
  intro h _ _
  refine ends_of_forall (fun _ _ data raw w _ => ?_) (fun _ _ => trivial)
  split <;> rfl

theorem delegateSend_quiet (d : String) (data : List UInt8) (fuel : Nat) :
    Quiet (delegateSend H.recording d data fuel) := by
  induction fuel with
  | zero =>
    intro st
    simp [delegateSend, ends_throw]
  | succ fuel ih =>
    intro st
    simp only [delegateSend, recording_delegates_send, ↓ends_bind, ↓ends_current, ↓ends_attempt,
      ↓ends_sys_unrecorded, ↓ends_pure]
    refine ⟨by simp, fun e w _ => ?_⟩
    cases e <;> simp [ends_ite, ends_throw, ends_bind,
      ends_of_quiet (waitUntil_fixes _ _ _) (waitUntil_quiet _ _ _),
      ends_of_quiet (delegateSend_fixes _ _ _ _) ih]

theorem sendOnce_quiet (h : Handle) (data : List UInt8) : Quiet (sendOnce H.recording h data) := by
  intro st
  simp only [sendOnce, ↓ends_bind, ↓ends_current]
  split <;> simp [ends_bind, ends_system,
    ends_of_quiet (delegateSend_fixes _ _ _ _) (delegateSend_quiet _ _ _ _), ends_sys_unrecorded]

theorem sendAll_quiet (h : Handle) (data : List UInt8) (sent fuel : Nat) :
    Quiet (sendAll H.recording h data sent fuel) := by
  induction fuel generalizing sent with
  | zero =>
    intro st
    rfl
  | succ fuel ih =>
    intro st
    simp only [sendAll, ↓ends_ite, ↓ends_pure, ↓ends_bind, ↓ends_attempt,
      ↓ends_of_quiet (sendOnce_fixes _ _ _) (sendOnce_quiet _ _ _), ↓ends_current, ↓ends_throw,
      ↓ends_of_quiet (sendAll_fixes _ _ _ _ _) (ih _)]
    simp

/-! ## Operations that write nothing down -/

theorem write_quiet (data : Value) : Quiet (write H.recording data) := by
  intro st
  simp only [write, ↓ends_bind, ↓ends_rethrow, ↓ends_ite, ↓ends_pure, ↓ends_checkDescriptor,
    ↓ends_current, ↓ends_throw, ↓ends_of_quiet (sendAll_fixes _ _ _ _ _) (sendAll_quiet _ _ _ _ _)]
  simp

theorem writeTo_quiet (data address : Value) : Quiet (writeTo H.recording data address) := by
  intro st
  simp only [writeTo, recording_sendTo, ↓ends_bind, ↓ends_rethrow, ↓ends_checkDescriptor,
    ↓ends_of_quiet requireDatagram_fixes requireDatagram_quiet]
  -- the target is taken by the kind of `address`
  split <;> simp [ends_bind, ends_pure, ends_throw, ends_rethrow, ends_attempt, ends_sys_unrecorded,
    ends_ite, ends_current]

theorem readDatagramInto_quiet (buffer : List UInt8) :
    Quiet (readDatagramInto H.recording buffer) := by
  intro st
  simp only [readDatagramInto, ↓ends_bind, ↓ends_ite, ↓ends_throw, ↓ends_pure,
    ↓ends_of_quiet (recvDatagram_fixes _) (recvDatagram_quiet _)]
  simp

theorem setTimeout_quiet (opt : SockOpt) (code : ErrorCode) (ms : Value) :
    Quiet (setTimeout H.recording opt code ms) := by
  intro st
  simp only [setTimeout, recording_setOption, ↓ends_bind, ↓ends_rethrow, ↓ends_checkDescriptor,
    ↓ends_orCode, ↓ends_sys_unrecorded]
  simp

theorem udpBroadcast_quiet (enable : Value) : Quiet (udpBroadcast H.recording enable) := by
  intro st
  simp only [udpBroadcast, ↓ends_bind, ↓ends_checkDescriptor,
    ↓ends_of_quiet requireDatagram_fixes requireDatagram_quiet,
    ↓ends_of_quiet (setOption_fixes _ _ _ _) (setOption_quiet _ _ _ _)]
  simp

theorem readiness_quiet (waitForever : Bool) (timeout : Value) :
    Quiet (readiness H.recording waitForever timeout) := by
  intro st
  simp only [readiness, pollDescriptor, ↓ends_bind, ↓ends_checkDescriptor, ↓ends_current,
    ↓ends_ite, ↓ends_throw, ↓ends_system, ↓ends_rethrow,
    ↓ends_of_quiet (pollFor_fixes _ _ _ _ _) (pollFor_quiet _ _ _ _ _), ↓ends_pure]
  simp

/-! ## Closing, securing and the accept hook -/

theorem closeNative_quiet (native : Option Handle) (listening : Bool) :
    Quiet (closeNative H.recording native listening) := by
  intro st
  simp only [closeNative, recording_shutdown, recording_close]
  split
  · simp [ends_bind, ends_ite, ends_attempt, ends_sys_unrecorded]
  · rfl

theorem invokeOnAccept_quiet (target : Socket) : Quiet (invokeOnAccept H.recording target) := by
  intro st
  cases hd : st.1.delegate <;>
    simp [invokeOnAccept, hd, ends_bind, ends_ite, ends_throw, ends_current, ends_pure, ends_map,
      ends_callDelegate, ends_sys_unrecorded]

end Socket

/-! ## Recorded runs -/

/-- One step of a recorded run: the socket before it, the operation, the bytes it handed out,
the events it wrote down, and the socket after it. -/
structure Entry where
  /-- The socket before the step. -/
  before : Socket
  /-- The operation. -/
  op : Op
  /-- The bytes the step handed out; none when it failed. -/
  handed : List UInt8
  /-- The events written down during the step. -/
  written : List Event
  /-- The socket after the step. -/
  after : Socket

variable {σ : Type}

/-- A run of a socket on the recording host, each step with what it handed out and wrote down;
`allowed` says which steps the run may take. The state of the system before a step is any at all,
as in `Reaches`, and so is the record. -/
inductive Recorded (H : Host σ) (allowed : Socket → Op → Prop) :
    Socket → List Entry → Socket → Prop
  /-- A run of no steps. -/
  | nil (s : Socket) : Recorded H allowed s [] s
  /-- A run and one more allowed step, with what the step handed out and wrote down. -/
  | step {s t u : Socket} {log : List Entry} {op : Op} {handed : List UInt8}
      {written : List Event} (w : σ) (past : List Event) (hrun : Recorded H allowed s log t)
      (hallowed : allowed t op)
      (hstep : Ends (op.perform H.recording) (t, (w, past))
        (fun r st => r = handed ∧ st.1 = u ∧ st.2.2 = past ++ written)
        (fun _ st => handed = [] ∧ st.1 = u ∧ st.2.2 = past ++ written)) :
      Recorded H allowed s (log ++ [⟨t, op, handed, written, u⟩]) u

/-- What every run of `op` from `t` ends in, with the bytes it hands out and the events it adds
to the record, holds of a recorded step of `op` from `t`. -/
theorem Recorded.observed {H : Host σ} {P : List UInt8 → List Event → Socket → Prop} {op : Op}
    {t u : Socket} {w : σ} {past : List Event} {handed : List UInt8} {written : List Event}
    (hkeep : Ends (op.perform H.recording) (t, (w, past))
      (fun r st => ∃ new, st.2.2 = past ++ new ∧ P r new st.1)
      (fun _ st => ∃ new, st.2.2 = past ++ new ∧ P [] new st.1))
    (hstep : Ends (op.perform H.recording) (t, (w, past))
      (fun r st => r = handed ∧ st.1 = u ∧ st.2.2 = past ++ written)
      (fun _ st => handed = [] ∧ st.1 = u ∧ st.2.2 = past ++ written)) :
    P handed written u := by
  have hboth := ends_and hkeep hstep
  -- the run ends one way; in it the events added are the ones the step wrote down
  have hconst : Ends (op.perform H.recording) (t, (w, past)) (fun _ _ => P handed written u)
      (fun _ _ => P handed written u) := by
    refine ends_mono hboth (fun r st h => ?_) (fun _ st h => ?_)
    all_goals
      obtain ⟨⟨new, hlog, hp⟩, hr, rfl, hwritten⟩ := h
      have hnew : new = written := List.append_cancel_left (hlog.symm.trans hwritten)
      subst hnew
    · exact hr ▸ hp
    · exact hr ▸ hp
  simpa using hconst

end Sockets
