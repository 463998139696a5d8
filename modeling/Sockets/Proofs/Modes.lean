import Mathlib.Logic.Basic
import Sockets.Proofs.Closed

/-!
# The blocking flag mirrors the native socket
-/

namespace Sockets

/-- A flag that fits a machine word is set exactly when the value is true. -/
theorem Value.truthy_of_toMachineInt {v : Value} {n : Int} (h : v.toMachineInt = .ok n) :
    (n != 0) = v.truthy := by
  -- the word check passes the index through unchanged
  have hi : v.index = .ok n := by
    unfold Value.toMachineInt at h
    cases hv : v.index with
    | error f => simp [hv, bind, Except.bind] at h
    | ok m =>
      simp only [hv, bind, Except.bind] at h
      split at h <;> simp_all [pure, Except.pure, throw, throwThe, MonadExceptOf.throw]
  cases v <;> simp [Value.index, Value.asInt?] at hi
  case int m => simp [Value.truthy, hi]
  case bool b => cases b <;> simp [Value.truthy, ← hi]

namespace Host

variable {σ : Type} (H : Host σ)

/-- The mode of each native socket in `w`, or none while it is closed. -/
def modes (w : σ) (h : Handle) : Option Bool :=
  if 0 ≤ H.fileno h w then some (H.blocking h w) else none

/-- While the native socket `h` is open in `w`, its mode is `m`. -/
def Agrees (h : Handle) (m : Bool) (w : σ) : Prop :=
  H.modes w h ≠ some !m

/-- A native call that leaves every native socket as it found it. -/
def KeepsModes {α : Type} (act : EStateM Failure σ α) : Prop :=
  ∀ w, Ends act w (fun _ w' => ∀ h, H.modes w' h = H.modes w h)
    (fun _ w' => ∀ h, H.modes w' h = H.modes w h)

/-- What the native calls and the delegate's hooks may do to the modes of native sockets. -/
structure ModeLaws : Prop where
  /-- A made native socket was closed before, and blocks; nothing else changes. -/
  create : ∀ family type proto w, Ends (H.create family type proto) w
    (fun nh w' => H.modes w nh = none ∧ H.Agrees nh true w' ∧
      ∀ h, h ≠ nh → H.modes w' h = H.modes w h)
    (fun _ w' => ∀ h, H.modes w' h = H.modes w h)
  /-- An accepted native socket was closed before; nothing else changes. -/
  accept : ∀ h w, Ends (H.accept h) w
    (fun r w' => H.modes w r.1 = none ∧ ∀ h', h' ≠ r.1 → H.modes w' h' = H.modes w h')
    (fun _ w' => ∀ h', H.modes w' h' = H.modes w h')
  /-- Closing touches no other native socket, whether it succeeds or not. -/
  close : ∀ h w, Ends (H.close h) w (fun _ w' => ∀ h', h ≠ h' → H.modes w' h' = H.modes w h')
    (fun _ w' => ∀ h', h ≠ h' → H.modes w' h' = H.modes w h')
  /-- Setting the mode sets it and touches no other native socket; a refused setting touches
  none. -/
  setBlocking : ∀ h b w, Ends (H.setBlocking h b) w
    (fun _ w' => H.Agrees h b w' ∧ ∀ h', h ≠ h' → H.modes w' h' = H.modes w h')
    (fun _ w' => ∀ h', H.modes w' h' = H.modes w h')
  shutdown : ∀ h how, H.KeepsModes (H.shutdown h how)
  setOption : ∀ h opt v, H.KeepsModes (H.setOption h opt v)
  bind : ∀ h address, H.KeepsModes (H.bind h address)
  listen : ∀ h backlog, H.KeepsModes (H.listen h backlog)
  connect : ∀ h address, H.KeepsModes (H.connect h address)
  sockName : ∀ h, H.KeepsModes (H.sockName h)
  pendingError : ∀ h, H.KeepsModes (H.pendingError h)
  recv : ∀ h size nowait, H.KeepsModes (H.recv h size nowait)
  recvFrom : ∀ h size, H.KeepsModes (H.recvFrom h size)
  send : ∀ h data, H.KeepsModes (H.send h data)
  sendTo : ∀ h data address, H.KeepsModes (H.sendTo h data address)
  select : ∀ readable writable wait, H.KeepsModes (H.select readable writable wait)
  unlink : ∀ path, H.KeepsModes (H.unlink path)
  resolve : ∀ host port hints, H.KeepsModes (H.resolve host port hints)
  setUp : ∀ d asServer, H.KeepsModes (H.delegates.setUp d asServer)
  tearDown : ∀ d, H.KeepsModes (H.delegates.tearDown d)
  onAccept : ∀ d h, H.KeepsModes (H.delegates.onAccept d h)
  onConnect : ∀ d h, H.KeepsModes (H.delegates.onConnect d h)
  delegateSend : ∀ d h data, H.KeepsModes (H.delegates.send d h data)
  delegateRecv : ∀ d h size, H.KeepsModes (H.delegates.recv d h size)

variable {H}

theorem agrees_iff {h : Handle} {m : Bool} {w : σ} :
    H.Agrees h m w ↔ (0 ≤ H.fileno h w → H.blocking h w = m) := by
  unfold Agrees modes
  split
  · cases m <;> simp_all
  · exact ⟨fun _ ho => absurd ho ‹_›, fun _ => by simp⟩

@[simp] theorem agrees_blocking (h : Handle) (w : σ) : H.Agrees h (H.blocking h w) w :=
  agrees_iff.2 fun _ => rfl

/-- The mode a native socket has, as `Agrees` reads it. -/
@[simp] theorem modes_ne_not_blocking (h : Handle) (w : σ) :
    H.modes w h ≠ some !(H.blocking h w) := by
  unfold modes
  split <;> simp

/-- A native socket is closed exactly when it has no mode; stated this way round, so that a check
of the descriptor speaks of the same `modes` as the steps that keep them. -/
theorem fileno_neg_iff {w : σ} {h : Handle} : H.fileno h w < 0 ↔ H.modes w h = none := by
  unfold modes
  split <;> simp_all

/-- A native socket closed in `w` is none of those open in `w`. -/
theorem ne_of_modes {w : σ} {h h' : Handle} (hh : H.modes w h = none) (hh' : H.modes w h' ≠ none) :
    h ≠ h' := fun e => hh' (e ▸ hh)

variable (hL : H.ModeLaws)
include hL

/-- An accepted native socket is none of those open before. -/
theorem ModeLaws.accept_fresh (h : Handle) (w : σ) :
    Ends (H.accept h) w
      (fun r w' => (∀ h', H.modes w h' ≠ none → r.1 ≠ h' ∧ h' ≠ r.1) ∧
        ∀ h', r.1 ≠ h' → H.modes w' h' = H.modes w h')
      (fun _ w' => ∀ h', H.modes w' h' = H.modes w h') :=
  ends_mono (hL.accept h w)
    (fun _ _ hr => ⟨fun _ hh => ⟨ne_of_modes hr.1 hh, (ne_of_modes hr.1 hh).symm⟩,
      fun h' hne => hr.2 h' (Ne.symm hne)⟩)
    (fun _ _ he => he)

/-- A made native socket is none of those open before, and blocks. -/
theorem ModeLaws.create_fresh (family type proto : Int) (w : σ) :
    Ends (H.create family type proto) w
      (fun nh w' => (∀ h, H.modes w h ≠ none → nh ≠ h ∧ h ≠ nh) ∧ H.Agrees nh true w' ∧
        ∀ h, nh ≠ h → H.modes w' h = H.modes w h)
      (fun _ w' => ∀ h, H.modes w' h = H.modes w h) :=
  ends_mono (hL.create family type proto w)
    (fun _ _ hr => ⟨fun _ hh => ⟨ne_of_modes hr.1 hh, (ne_of_modes hr.1 hh).symm⟩, hr.2.1,
      fun h hne => hr.2.2 h (Ne.symm hne)⟩)
    (fun _ _ he => he)

end Host

/-! ## Tables of native sockets

A host may keep its native sockets in a list, native socket `n` at entry `n`: making one adds an
entry at the end, and a call on one changes its own entry only. Two native sockets have two
entries, and adding an entry moves no other one. -/

theorem Handle.id_ne_of_ne {h h' : Handle} (hne : h ≠ h') : h.id ≠ h'.id :=
  fun e => hne (congrArg Handle.mk e)

/-- An entry added at the end of a table leaves the entry of every other index. -/
theorem getElem?_append_singleton_of_ne {α : Type} {w : List α} {a : α} {i : Nat}
    (hi : i ≠ w.length) : (w ++ [a])[i]? = w[i]? := by
  rcases Nat.lt_or_gt_of_ne hi with hlt | hgt
  · exact List.getElem?_append_left hlt
  · -- past the new entry both tables have nothing
    rw [List.getElem?_append_right (Nat.le_of_lt hgt), List.getElem?_eq_none (by simp; omega),
      List.getElem?_eq_none (by omega)]

namespace Socket

variable {σ α β : Type} (H : Host σ)

/-- The socket's flag is the mode of its native socket, while that is open. -/
def Mirrors (st : Socket × σ) : Prop :=
  ∀ h, st.1.native = some h → H.Agrees h st.1.blocking st.2

/-- From `st` to `st'` the socket keeps its native socket and its flag, and every native socket
keeps its mode. -/
def Calm (st st' : Socket × σ) : Prop :=
  st'.1.native = st.1.native ∧ st'.1.blocking = st.1.blocking ∧
    ∀ h, H.modes st'.2 h = H.modes st.2 h

/-- `prog` ends calm, whether it returns or fails. -/
def StaysCalm (prog : SocketM σ α) : Prop :=
  ∀ st, Ends prog st (fun _ st' => Calm H st st') (fun _ st' => Calm H st st')

/-- From `st` to `st'` the socket keeps its native socket and its flag, and its native socket
keeps its mode. -/
def Steady (st st' : Socket × σ) : Prop :=
  st'.1.native = st.1.native ∧ st'.1.blocking = st.1.blocking ∧
    ∀ h, st.1.native = some h → H.modes st'.2 h = H.modes st.2 h

/-- From `st` to `st'` the socket came to hold another native socket, under the flag it had
before. -/
def Stale (st st' : Socket × σ) : Prop :=
  st'.1.native ≠ st.1.native ∧ st'.1.blocking = st.1.blocking

/-- From `st` to `st'` the socket keeps its native socket and its flag, and every native socket
open in `st` keeps its mode. -/
def Spares (st st' : Socket × σ) : Prop :=
  st'.1.native = st.1.native ∧ st'.1.blocking = st.1.blocking ∧
    ∀ h, H.modes st.2 h ≠ none → H.modes st'.2 h = H.modes st.2 h

variable {H} {st : Socket × σ} {ok : α → Socket × σ → Prop} {err : Failure → Socket × σ → Prop}

theorem Calm.trans {st₁ st₂ : Socket × σ} (h₁ : Calm H st st₁) (h₂ : Calm H st₁ st₂) :
    Calm H st st₂ :=
  ⟨h₂.1.trans h₁.1, h₂.2.1.trans h₁.2.1, fun h => (h₂.2.2 h).trans (h₁.2.2 h)⟩

/-- What is open in `st` is open in `st₁` with the same mode, so a step that spares what is open
in `st₁` spares it too. -/
theorem Spares.trans {st₁ st₂ : Socket × σ} (h₁ : Spares H st st₁) (h₂ : Spares H st₁ st₂) :
    Spares H st st₂ := by
  refine ⟨h₂.1.trans h₁.1, h₂.2.1.trans h₁.2.1, fun h hh => ?_⟩
  have hmode := h₁.2.2 h hh
  rw [h₂.2.2 h (hmode ▸ hh), hmode]

theorem Calm.steady {st' : Socket × σ} (hc : Calm H st st') : Steady H st st' :=
  ⟨hc.1, hc.2.1, fun h _ => hc.2.2 h⟩

theorem Mirrors.of_steady {st' : Socket × σ} (hm : Mirrors H st) (hs : Steady H st st') :
    Mirrors H st' := by
  obtain ⟨hn, hb, hs⟩ := hs
  intro h hh
  have ha := hm h (hn ▸ hh)
  unfold Host.Agrees at ha ⊢
  rwa [hb, hs h (hn ▸ hh)]

theorem Mirrors.of_calm {st' : Socket × σ} (hm : Mirrors H st) (hc : Calm H st st') :
    Mirrors H st' :=
  hm.of_steady hc.steady

/-- A socket mirrors the native socket it holds when that has the socket's mode. -/
theorem mirrors_of_agrees {s : Socket} {w : σ} {h : Handle} (hn : s.native = some h)
    (ha : H.Agrees h s.blocking w) : Mirrors H (s, w) := by
  intro h' hh'
  rw [hn, Option.some.injEq] at hh'
  exact hh' ▸ ha

/-- A socket that came to hold a native socket other than its own, under its old flag. -/
theorem stale_of_native {s : Socket} {w : σ} {h : Handle} (hn : s.native = some h)
    (hne : st.1.native ≠ some h) (hb : s.blocking = st.1.blocking) : Stale st (s, w) :=
  ⟨fun e => hne (e ▸ hn), hb⟩

theorem ends_sys_keeps {act : EStateM Failure σ α} (hk : H.KeepsModes act) :
    Ends (sys act) st ok err =
      ((∀ a w, act st.2 = .ok a w → (∀ h, H.modes w h = H.modes st.2 h) → ok a (st.1, w)) ∧
        ∀ e w, act st.2 = .error e w → (∀ h, H.modes w h = H.modes st.2 h) → err e (st.1, w)) :=
  ends_sys_of hk

/-- A program is stepped over, from one state, with what it is known to end in from there. -/
theorem ends_at {ε S : Type} {prog : EStateM ε S α} {st : S} {P : α → S → Prop}
    {Q : ε → S → Prop} (hp : Ends prog st P Q) {ok : α → S → Prop} {err : ε → S → Prop} :
    Ends prog st ok err =
      ((∀ a st', prog st = .ok a st' → P a st' → ok a st') ∧
        ∀ e st', prog st = .error e st' → Q e st' → err e st') := by
  unfold Ends at hp ⊢
  split at hp <;> simp_all

/-- A program is stepped over with what it is known to end in. -/
theorem ends_of {ε S : Type} {prog : EStateM ε S α} {P : S → α → S → Prop}
    {Q : S → ε → S → Prop} (hp : ∀ st, Ends prog st (P st) (Q st)) {st : S}
    {ok : α → S → Prop} {err : ε → S → Prop} :
    Ends prog st ok err =
      ((∀ a st', prog st = .ok a st' → P st a st' → ok a st') ∧
        ∀ e st', prog st = .error e st' → Q st e st' → err e st') :=
  ends_at (hp st)

theorem ends_of_calm {prog : SocketM σ α} (hp : StaysCalm H prog) :
    Ends prog st ok err =
      ((∀ a st', prog st = .ok a st' → Calm H st st' → ok a st') ∧
        ∀ e st', prog st = .error e st' → Calm H st st' → err e st') :=
  ends_of hp

/-- A calm program run after a calm stretch ends calm from where the stretch began. -/
theorem StaysCalm.after {prog : SocketM σ α} (hp : StaysCalm H prog) {st₁ : Socket × σ}
    (hc : Calm H st st₁) :
    Ends prog st₁ (fun _ st' => Calm H st st') (fun _ st' => Calm H st st') :=
  ends_mono (hp st₁) (fun _ _ h => hc.trans h) (fun _ _ h => hc.trans h)

theorem StaysCalm.pure (a : α) : StaysCalm H (pure a : SocketM σ α) := fun _ =>
  ⟨rfl, rfl, fun _ => rfl⟩

theorem StaysCalm.bind {x : SocketM σ α} {f : α → SocketM σ β} (hx : StaysCalm H x)
    (hf : ∀ a, StaysCalm H (f a)) : StaysCalm H (x >>= f) := by
  intro st
  simp only [ends_bind, ↓ends_of_calm hx]
  exact ⟨fun a _ _ hc => StaysCalm.after (hf a) hc, fun _ _ _ hc => hc⟩

/-! ## Steps that call no native socket -/

theorem checkDescriptor_calm : StaysCalm H (checkDescriptor H) := by
  intro st
  simp only [ends_checkDescriptor]
  simp +contextual [Calm]

theorem requireListener_calm (H : Host σ) : StaysCalm H (requireListener : SocketM σ Unit) := by
  intro st
  simp [requireListener, ends_bind, ends_current, ends_ite, ends_throw, ends_pure, Calm]

theorem requireDatagram_calm (H : Host σ) : StaysCalm H (requireDatagram : SocketM σ Unit) := by
  intro st
  simp [requireDatagram, ends_bind, ends_current, ends_ite, ends_throw, ends_pure, Calm]

theorem takeStored_calm (H : Host σ) (size : Nat) (truncate : Bool) :
    StaysCalm H (takeStored size truncate : SocketM σ (List UInt8)) := by
  intro st
  simp [takeStored, ends_bind, ends_current, ends_ite, ends_throw, ends_map, ends_change, Calm]

theorem setDelegate_calm (H : Host σ) (d : Option String) : StaysCalm H (setDelegate d : SocketM σ Unit) := by
  intro st
  simp [setDelegate, ends_bind, ends_change, ends_ite, ends_pure, Calm]

theorem resizeReadBuffer_calm (H : Host σ) (size : Value) :
    StaysCalm H (resizeReadBuffer size : SocketM σ Nat) := by
  intro st
  simp only [resizeReadBuffer, ↓ends_bind, ↓ends_rethrow, ↓ends_current, ↓ends_ite, ↓ends_throw,
    ↓ends_change, ↓ends_pure]
  simp [Calm]

/-- A hook that keeps every native socket keeps them when run through the delegate. -/
theorem callDelegate_calm {act : EStateM Failure σ α} (hk : H.KeepsModes act) :
    StaysCalm H (callDelegate act) := by
  intro st
  simp only [ends_callDelegate, ↓ends_sys_keeps hk]
  simp +contextual [Calm]

theorem secureWith_calm {hook : String → Option Handle → EStateM Failure σ Unit}
    (hk : ∀ d n, H.KeepsModes (hook d n)) : StaysCalm H (secureWith hook) := by
  intro st
  simp only [ends_secureWith, ↓ends_sys_keeps (hk _ _)]
  simp +contextual [Calm]

section Laws

variable (hL : H.ModeLaws)
include hL

theorem prepareDelegate_calm (asServer : Bool) : StaysCalm H (prepareDelegate H asServer) := by
  intro st
  simp only [ends_prepareDelegate, ↓ends_sys_keeps (hL.setUp _ _)]
  simp +contextual [Calm]

theorem invokeOnAccept_calm (target : Socket) : StaysCalm H (invokeOnAccept H target) := by
  intro st
  cases hd : st.1.delegate <;>
    simp only [invokeOnAccept, hd, ↓ends_bind, ↓ends_ite, ↓ends_throw, ↓ends_current,
      ↓ends_pure, ↓ends_of_calm (callDelegate_calm (hL.onAccept _ _))] <;>
    simp +contextual [Calm]

/-! ## Steps of serving and connecting -/

theorem setOption_calm (h : Handle) (opt : SockOpt) (v : Value) :
    StaysCalm H (setOption H h opt v) := by
  intro st
  simp only [setOption, ↓ends_orCode, ↓ends_sys_keeps (hL.setOption _ _ _)]
  simp +contextual [Calm]

theorem sharePorts_calm (h : Handle) : StaysCalm H (sharePorts H h) := by
  intro st
  simp only [sharePorts, ↓ends_tryCatch, ↓ends_sys_keeps (hL.setOption _ _ _),
    ↓ends_ite, ↓ends_pure, ↓ends_throw]
  simp +contextual [Calm]

theorem bindFirst_calm (h : Handle) (rs : List Resolved) (last : Option Failure) :
    StaysCalm H (bindFirst H h rs last) := by
  induction rs generalizing last with
  | nil =>
    intro st
    simp [bindFirst, ends_throw, Calm]
  | cons r rest ih =>
    intro st
    simp only [bindFirst, ↓ends_bind, ↓ends_attempt, ↓ends_sys_keeps (hL.bind _ _),
      ↓ends_pure, ↓ends_ite, ↓ends_throw, ↓ends_of_calm (ih _)]
    simp +contextual [Calm]

theorem boundAddress_calm (h : Handle) (why : String) : StaysCalm H (boundAddress H h why) := by
  intro st
  simp only [boundAddress, ↓ends_bind, ↓ends_orCode,
    ↓ends_sys_keeps (hL.sockName _), ↓ends_system, ↓ends_rethrow]
  simp +contextual [Option.forall, ends_pure, ends_throw, Calm]

theorem clearNode_calm (path : Value) : StaysCalm H (clearNode H path) := by
  intro st
  simp only [clearNode, ↓ends_tryCatch, ↓ends_sys_keeps (hL.unlink _), ↓ends_ite,
    ↓ends_pure, ↓ends_throw]
  simp +contextual [Calm]

theorem pollFor_calm (fd : Int) (wait : Option Nat) (read write : Bool) :
    StaysCalm H (pollFor H fd wait read write) := by
  intro st
  simp only [pollFor, ↓ends_bind, ↓ends_orCode, ↓ends_sys_keeps (hL.select _ _ _),
    ↓ends_pure]
  simp +contextual [Calm]

theorem waitUntil_calm (readable writable : Bool) : StaysCalm H (waitUntil H readable writable) := by
  intro st
  simp only [waitUntil, ↓ends_bind, ↓ends_of_calm checkDescriptor_calm,
    ↓ends_system, ↓ends_of_calm (pollFor_calm hL _ _ _ _), ↓ends_pure]
  simp +contextual [Calm]

/-! ## Steps of sending and receiving -/

theorem recvDatagram_calm : StaysCalm H (recvDatagram H) := by
  intro st
  simp only [recvDatagram, ↓ends_bind, ↓ends_of_calm checkDescriptor_calm,
    ↓ends_of_calm (requireDatagram_calm H), ↓ends_current, ↓ends_attempt,
    ↓ends_sys_keeps (hL.recvFrom _ _), ↓ends_system, ↓ends_ite, ↓ends_pure, ↓ends_throw]
  simp +contextual [Calm]
  -- the sender's address is made after the receive, and may be refused
  intros
  split <;> simp [ends_pure, ends_throw, *]

theorem delegateSend_calm (d : String) (data : List UInt8) (fuel : Nat) :
    StaysCalm H (delegateSend H d data fuel) := by
  induction fuel with
  | zero =>
    intro st
    simp [delegateSend, ends_throw, Calm]
  | succ fuel ih =>
    intro st
    simp only [delegateSend, ↓ends_bind, ↓ends_current, ↓ends_attempt,
      ↓ends_sys_keeps (hL.delegateSend _ _ _), ↓ends_pure]
    refine ⟨fun _ _ _ hw => ⟨rfl, rfl, hw⟩, fun e w' _ hw => ?_⟩
    -- a delegate's request to retry waits and sends again; any other failure is raised
    have hcalm : Calm H st (st.1, w') := ⟨rfl, rfl, hw⟩
    cases e
    case delegate e =>
      simp only [↓ends_ite]
      split
      · exact hcalm
      · exact StaysCalm.after (StaysCalm.bind (waitUntil_calm hL _ _) fun _ => ih) hcalm
    all_goals exact hcalm

theorem sendOnce_calm (h : Handle) (data : List UInt8) : StaysCalm H (sendOnce H h data) := by
  intro st
  simp only [sendOnce, ↓ends_bind, ↓ends_current]
  split <;> simp +contextual [ends_bind, ends_system, ends_of_calm (delegateSend_calm hL _ _ _),
    ends_sys_keeps (hL.send _ _), Calm]

theorem sendAll_calm (h : Handle) (data : List UInt8) (sent fuel : Nat) :
    StaysCalm H (sendAll H h data sent fuel) := by
  induction fuel generalizing sent with
  | zero =>
    intro st
    simp [sendAll, ends_pure, Calm]
  | succ fuel ih =>
    intro st
    simp only [sendAll, ↓ends_ite, ↓ends_pure, ↓ends_bind, ↓ends_attempt,
      ↓ends_of_calm (sendOnce_calm hL _ _), ↓ends_current, ↓ends_throw,
      ↓ends_of_calm (ih _)]
    simp +contextual [Calm]

theorem delegateRecv_calm (d : String) (first : Bool) (fuel : Nat) :
    StaysCalm H (delegateRecv H d first fuel) := by
  induction fuel generalizing first with
  | zero =>
    intro st
    simp [delegateRecv, ends_throw, Calm]
  | succ fuel ih =>
    intro st
    simp only [delegateRecv, ↓ends_bind, ↓ends_current, ↓ends_attempt,
      ↓ends_sys_keeps (hL.delegateRecv _ _ _), ↓ends_pure]
    refine ⟨fun _ _ _ hw => ⟨rfl, rfl, hw⟩, fun e w' _ hw => ?_⟩
    -- a delegate's request to retry waits and receives again; any other failure is raised
    have hcalm : Calm H st (st.1, w') := ⟨rfl, rfl, hw⟩
    cases e
    case delegate e =>
      simp only [↓ends_ite]
      split
      · exact hcalm
      split
      · exact hcalm
      · exact StaysCalm.after (StaysCalm.bind (waitUntil_calm hL _ _) fun _ => ih _) hcalm
    all_goals exact hcalm

theorem recvOnce_calm (h : Handle) (first : Bool) : StaysCalm H (recvOnce H h first) := by
  intro st
  simp only [recvOnce, ↓ends_bind, ↓ends_current]
  split <;> simp +contextual [ends_bind, ends_system, ends_of_calm (delegateRecv_calm hL _ _ _),
    ends_sys_keeps (hL.recv _ _ _), Calm]

theorem drain_calm (h : Handle) (fuel : Nat) : StaysCalm H (drain H h fuel) := by
  induction fuel with
  | zero =>
    intro st
    simp [drain, ends_map, ends_current, Calm]
  | succ fuel ih =>
    intro st
    simp only [drain, ↓ends_bind, ↓ends_current, ↓ends_attempt,
      ↓ends_of_calm (recvOnce_calm hL _ _), ↓ends_ite, ↓ends_pure, ↓ends_throw,
      ↓ends_change, ↓ends_of_calm ih]
    simp +contextual [Calm]

theorem fill_calm : StaysCalm H (fill H) := by
  intro st
  simp only [fill, ↓ends_bind, ↓ends_of_calm checkDescriptor_calm, ↓ends_current,
    ↓ends_ite, ↓ends_throw, ↓ends_pure, ↓ends_of_calm (drain_calm hL _ _)]
  simp +contextual [Calm]

/-! ## Operations that keep every native socket -/

theorem listen_calm (port backlog reuse dualStack : Value) :
    StaysCalm H (listen H port backlog reuse dualStack) := by
  intro st
  simp only [listen, ↓ends_bind, ↓ends_of_calm checkDescriptor_calm,
    ↓ends_current, ↓ends_ite, ↓ends_throw, ↓ends_rethrow, ↓ends_keepBacklog,
    ↓ends_of_calm (setOption_calm hL _ _ _), ↓ends_of_calm (sharePorts_calm hL _),
    ↓ends_pure, ↓ends_of_calm (prepareDelegate_calm hL _), ↓ends_orCode,
    ↓ends_sys_keeps (hL.resolve _ _ _), ↓ends_of_calm (bindFirst_calm hL _ _ _),
    ↓ends_of_calm (boundAddress_calm hL _ _), ↓ends_changeSignature,
    ↓ends_sys_keeps (hL.listen _ _), ↓ends_change]
  simp +contextual [Calm]

theorem listenUnix_calm (path backlog : Value) : StaysCalm H (listenUnix H path backlog) := by
  intro st
  simp only [listenUnix, ↓ends_bind, ↓ends_of_calm checkDescriptor_calm,
    ↓ends_current, ↓ends_ite, ↓ends_throw, ↓ends_keepBacklog,
    ↓ends_of_calm (setOption_calm hL _ _ _), ↓ends_rethrow,
    ↓ends_of_calm (clearNode_calm hL _), ↓ends_orCode, ↓ends_sys_keeps (hL.bind _ _),
    ↓ends_change, ↓ends_sys_keeps (hL.listen _ _), ↓ends_changeSignature]
  simp +contextual [Calm]

theorem connectUnix_calm (path : Value) : StaysCalm H (connectUnix H path) := by
  intro st
  simp only [connectUnix, ↓ends_bind, ↓ends_of_calm checkDescriptor_calm,
    ↓ends_current, ↓ends_ite, ↓ends_throw, ↓ends_rethrow, ↓ends_orCode,
    ↓ends_sys_keeps (hL.connect _ _), ↓ends_change]
  simp +contextual [Calm]

theorem readInto_calm (buffer : List UInt8) (nbytes : Value) (truncate : Bool) :
    StaysCalm H (readInto H buffer nbytes truncate) := by
  intro st
  simp only [readInto, ↓ends_bind, ↓ends_rethrow, ↓ends_ite, ↓ends_throw, ↓ends_map,
    ↓ends_pure, ↓ends_of_calm (fill_calm hL), ↓ends_of_calm (takeStored_calm H _ _)]
  simp +contextual [Calm]

theorem readData_calm : StaysCalm H (readData H) := by
  intro st
  simp only [readData, ↓ends_bind, ↓ends_of_calm (fill_calm hL), ↓ends_ite,
    ↓ends_pure, ↓ends_current, ↓ends_of_calm (takeStored_calm H _ _)]
  simp +contextual [Calm]

theorem readDatagram_calm : StaysCalm H (readDatagram H) :=
  recvDatagram_calm hL

theorem readDatagramInto_calm (buffer : List UInt8) : StaysCalm H (readDatagramInto H buffer) := by
  intro st
  simp only [readDatagramInto, ↓ends_bind, ↓ends_ite, ↓ends_throw, ↓ends_pure,
    ↓ends_of_calm (recvDatagram_calm hL)]
  simp +contextual [Calm]

theorem listenForMessage_calm (buffer : List UInt8) (port backlog : Value) :
    StaysCalm H (listenForMessage H buffer port backlog) := by
  intro st
  simp only [listenForMessage, ↓ends_bind, ↓ends_ite, ↓ends_throw,
    ↓ends_of_calm checkDescriptor_calm, ↓ends_of_calm (requireDatagram_calm H),
    ↓ends_current, ↓ends_of_calm (listen_calm hL _ _ _ _), ↓ends_change,
    ↓ends_of_calm (readDatagramInto_calm hL _)]
  simp +contextual [Calm]

theorem write_calm (data : Value) : StaysCalm H (write H data) := by
  intro st
  simp only [write, ↓ends_bind, ↓ends_rethrow, ↓ends_ite, ↓ends_pure,
    ↓ends_of_calm checkDescriptor_calm, ↓ends_current, ↓ends_throw,
    ↓ends_of_calm (sendAll_calm hL _ _ _ _)]
  simp +contextual [Calm]

theorem writeTo_calm (data address : Value) : StaysCalm H (writeTo H data address) := by
  intro st
  simp only [writeTo, ↓ends_bind, ↓ends_rethrow, ↓ends_of_calm checkDescriptor_calm,
    ↓ends_of_calm (requireDatagram_calm H)]
  -- the target is taken by the kind of `address`
  split <;> simp only [↓ends_bind, ↓ends_pure, ↓ends_throw, ↓ends_rethrow, ↓ends_attempt,
    ↓ends_sys_keeps (hL.sendTo _ _ _), ↓ends_ite, ↓ends_current] <;> simp +contextual [Calm]

theorem setTimeout_calm (opt : SockOpt) (code : ErrorCode) (ms : Value) :
    StaysCalm H (setTimeout H opt code ms) := by
  intro st
  simp only [setTimeout, ↓ends_bind, ↓ends_rethrow,
    ↓ends_of_calm checkDescriptor_calm, ↓ends_orCode, ↓ends_sys_keeps (hL.setOption _ _ _)]
  simp +contextual [Calm]

theorem setReadTimeout_calm (ms : Value) : StaysCalm H (setReadTimeout H ms) :=
  setTimeout_calm hL _ _ ms

theorem setWriteTimeout_calm (ms : Value) : StaysCalm H (setWriteTimeout H ms) :=
  setTimeout_calm hL _ _ ms

theorem udpBroadcast_calm (enable : Value) : StaysCalm H (udpBroadcast H enable) := by
  intro st
  simp only [udpBroadcast, ↓ends_bind, ↓ends_of_calm checkDescriptor_calm,
    ↓ends_of_calm (requireDatagram_calm H), ↓ends_of_calm (setOption_calm hL _ _ _)]
  simp +contextual [Calm]

theorem readiness_calm (waitForever : Bool) (timeout : Value) :
    StaysCalm H (readiness H waitForever timeout) := by
  intro st
  simp only [readiness, pollDescriptor, ↓ends_bind,
    ↓ends_of_calm checkDescriptor_calm, ↓ends_current, ↓ends_ite, ↓ends_throw, ↓ends_system,
    ↓ends_rethrow, ↓ends_of_calm (pollFor_calm hL _ _ _ _), ↓ends_pure]
  simp +contextual [Calm]

/-! ## Closing -/

theorem removeOwnedPath_calm : StaysCalm H (removeOwnedPath H) := by
  intro st
  simp only [removeOwnedPath, ↓ends_bind, ↓ends_current]
  split
  · simp +contextual [ends_bind, ends_change, ends_tryCatch, ends_sys_keeps (hL.unlink _),
      ends_ite, ends_pure, ends_throw, Calm]
  · simp [ends_pure, Calm]

/-- Closing a native socket touches no other, whether it succeeds or not. -/
theorem closeNative_spec (native : Option Handle) (listening : Bool) :
    Ends (closeNative H native listening) st
      (fun _ st' => st'.1 = st.1 ∧ ∀ h, native ≠ some h → H.modes st'.2 h = H.modes st.2 h)
      (fun _ st' => st'.1 = st.1 ∧ ∀ h, native ≠ some h → H.modes st'.2 h = H.modes st.2 h) := by
  simp only [closeNative]
  split
  · simp +contextual [ends_bind, ends_ite, ends_attempt, ends_sys_keeps (hL.shutdown _ _),
      ends_sys_of (hL.close _)]
  · simp [ends_pure]

/-- Closing ends with no native socket and the flag as it was, and touches no native socket but
the one closed. -/
theorem closeWith_spec (teardown : Bool) :
    Ends (closeWith H teardown) st
      (fun _ st' => st'.1.native = none ∧ st'.1.blocking = st.1.blocking ∧
        ∀ h, st.1.native ≠ some h → H.modes st'.2 h = H.modes st.2 h)
      (fun _ st' => st'.1.native = none ∧ st'.1.blocking = st.1.blocking ∧
        ∀ h, st.1.native ≠ some h → H.modes st'.2 h = H.modes st.2 h) := by
  cases hd : st.1.delegate <;>
    simp only [closeWith, hd, ↓ends_bind, ↓ends_current, ↓ends_change, ↓ends_attempt, ↓ends_ite,
      ↓ends_pure, ↓ends_throw, ↓ends_of_calm (callDelegate_calm (hL.tearDown _)),
      ↓ends_of (fun _ => closeNative_spec hL _ _), ↓ends_of_calm (removeOwnedPath_calm hL)] <;>
    simp +contextual [Calm]

/-! ## Accepting -/

/-- The native socket the accept loop takes is none of those open before: each interrupted call
changed no mode. -/
theorem acceptRetrying_fresh (h : Handle) (retries : Nat) :
    ∀ w, Ends (acceptRetrying H h retries) w
      (fun r w' => (∀ h', H.modes w h' ≠ none → r.1 ≠ h' ∧ h' ≠ r.1) ∧
        ∀ h', r.1 ≠ h' → H.modes w' h' = H.modes w h')
      (fun _ w' => ∀ h', H.modes w' h' = H.modes w h') :=
  ends_acceptRetrying H (hL.accept_fresh h) (fun _ _ _ _ _ hq _ hp => by simp_all)
    (fun _ _ _ _ _ hq _ hq' => by simp_all) retries

/-- The accepted native socket is none of those open before, and nothing else changes; a
failure may have closed it again. -/
theorem acceptNative_spec (h : Handle) :
    Ends (acceptNative H h) st
      (fun r st' => st'.1 = st.1 ∧ (∀ h', H.modes st.2 h' ≠ none → r.1 ≠ h' ∧ h' ≠ r.1) ∧
        ∀ h', r.1 ≠ h' → H.modes st'.2 h' = H.modes st.2 h')
      (fun _ st' => st'.1 = st.1 ∧ ∀ h', H.modes st.2 h' ≠ none → H.modes st'.2 h' = H.modes st.2 h') := by
  simp only [acceptNative, ↓ends_bind, ↓ends_orCode, ↓ends_sys_of (acceptRetrying_fresh hL _ _),
    ↓ends_system, ↓ends_rethrow]
  simp +contextual [Option.forall, ends_pure, ends_throw, ends_bind, ends_sys_of (hL.close _)]

/-- A connected native socket is wrapped with its own mode, or closed. -/
theorem fromNative_spec (h : Handle) (address path : Value) (d : Option String) (w : σ) :
    Ends (fromNative H h address path d) w
      (fun s w' => s.native = some h ∧ s.blocking = H.blocking h w ∧ w' = w)
      (fun _ w' => ∀ h', h ≠ h' → H.modes w' h' = H.modes w h') := by
  simp only [fromNative, ↓ends_bind, ↓ends_get]
  split
  · simp [ends_wrap]
  · simp [ends_bind, ends_throw, ends_of (hL.close _)]

/-- The accept hook keeps every native socket, and hands its target back with the target's
native socket and flag. -/
theorem invokeOnAccept_spec (target : Socket) :
    Ends (invokeOnAccept H target) st
      (fun r st' => Calm H st st' ∧ r.native = target.native ∧ r.blocking = target.blocking)
      (fun _ st' => Calm H st st') :=
  ends_mono (ends_and (invokeOnAccept_calm hL target st) (invokeOnAccept_hooked H target))
    (fun _ _ h => ⟨h.1, by simp [h.2.2.2, hooked]⟩) (fun _ _ h => h.1)

/-- Accepting a client keeps the listener's native socket, and the new socket's flag mirrors its
native socket. -/
theorem acceptClient_spec (invoke : Bool) :
    Ends (acceptClient H invoke) st (fun t st' => Steady H st st' ∧ Mirrors H (t, st'.2))
      (fun _ st' => Steady H st st') := by
  simp only [acceptClient, ↓ends_bind, ↓ends_checkDescriptor, ↓ends_ite, ↓ends_throw,
    ↓ends_of_calm (requireListener_calm H), ↓ends_of (fun _ => acceptNative_spec hL _),
    ↓ends_current, ↓ends_sys_of (fromNative_spec hL _ _ _ _), ↓ends_pure,
    ↓ends_attempt, ↓ends_of (fun _ => invokeOnAccept_spec hL _), ↓ends_within, close,
    ↓ends_of (fun _ => closeWith_spec hL _), ite_prop_iff_and]
  simp +contextual [rethrow, ends_throw, ends_pure, Calm, Steady, Mirrors, Host.Agrees,
    Host.fileno_neg_iff]

/-! ## Setting the mode -/

/-- Setting the mode sets the native socket's and the flag alike; a refused setting changes
neither. -/
theorem setBlocking_spec (v : Value) :
    Ends (setBlocking H v) st
      (fun _ st' => st'.1.native = st.1.native ∧ st'.1.blocking = v.truthy ∧
        ∀ h, st.1.native = some h → H.Agrees h v.truthy st'.2)
      (fun _ st' => Steady H st st') := by
  rcases hv : v.toMachineInt with f | n
  · simp [setBlocking, hv, ends_bind, ends_checkDescriptor, ends_rethrow, Steady]
  · have hn := Value.truthy_of_toMachineInt hv
    simp only [setBlocking, hv, ↓ends_bind, ↓ends_checkDescriptor, ↓ends_rethrow,
      ↓ends_orCode, ↓ends_sys_of (hL.setBlocking _ _), ↓ends_change, ite_prop_iff_and]
    simp +contextual [Steady, hn]

/-! ## Connecting -/

/-- A trial of a non-blocking socket, or one with a timeout, is made non-blocking; one that
blocks with no timeout keeps the mode it was made with. Nothing but the trial changes. -/
theorem connectTrial_spec (trial : Handle) (sockaddr : Value) (timeout : Int) :
    Ends (connectTrial H trial sockaddr timeout) st
      (fun _ st' => st'.1.native = st.1.native ∧ st'.1.blocking = st.1.blocking ∧
        (∀ h, trial ≠ h → H.modes st'.2 h = H.modes st.2 h) ∧
        (H.Agrees trial true st.2 →
          H.Agrees trial (!(!st.1.blocking || decide (timeout > 0))) st'.2))
      (fun _ st' => st'.1.native = st.1.native ∧ st'.1.blocking = st.1.blocking ∧
        ∀ h, trial ≠ h → H.modes st'.2 h = H.modes st.2 h) := by
  simp only [connectTrial, ↓ends_bind, ↓ends_current, ↓ends_ite,
    ↓ends_sys_of (hL.setBlocking _ _), ↓ends_sys_keeps (hL.connect _ _),
    ↓ends_sys_keeps (hL.pendingError _), ↓ends_pure, ↓ends_attempt, ↓ends_throw,
    ↓ends_system, ↓ends_of_calm (pollFor_calm hL _ _ _ _), ite_prop_iff_and]
  simp +contextual only [Calm, Host.Agrees, Bool.not_eq_true, Bool.not_true, Bool.not_false,
    implies_true, ne_eq, and_self, not_false_eq_true]

/-- The trial that connects is none of the native sockets open before, and has the mode its
trial gave it; every native socket open before is spared, whichever trials were made and
closed. -/
theorem firstConnection_spec (timeout : Int) (rs : List Resolved) (last : Option Failure) :
    Ends (firstConnection H timeout rs last) st
      (fun r st' => Spares H st st' ∧ (∀ h, H.modes st.2 h ≠ none → r.1 ≠ h) ∧
        H.Agrees r.1 (!(!st.1.blocking || decide (timeout > 0))) st'.2)
      (fun _ st' => Spares H st st') := by
  induction rs generalizing last st with
  | nil => simp [firstConnection, ends_throw, Spares]
  | cons r rest ih =>
    cases hk : r.known with
    | false =>
      -- a candidate of a family the library does not know is passed over
      simp only [firstConnection, hk, Bool.not_false, if_true]
      exact ih last
    | true =>
      simp only [firstConnection, hk, Bool.not_true, Bool.false_eq_true, if_false, ↓ends_bind,
        ↓ends_attempt, ↓ends_sys_of (hL.create_fresh _ _ _), ↓ends_sys_of (hL.close _),
        ↓ends_pure, ↓ends_ite, ↓ends_throw, ↓ends_of (fun _ => ih _),
        ↓ends_of (fun _ => connectTrial_spec hL _ _ _), ite_prop_iff_and]
      refine ⟨fun trial w₁ _ hmade => ?_, fun _ w₁ _ hkept => ?_⟩
      · -- a trial is made: until it is closed, only the trial changes
        obtain ⟨hfresh, hblocks, hothers⟩ := hmade
        have hspare : ∀ st' : Socket × σ, st'.1.native = st.1.native →
            st'.1.blocking = st.1.blocking → (∀ h, trial ≠ h → H.modes st'.2 h = H.modes w₁ h) →
            Spares H st st' := fun st' hn hb hm =>
          ⟨hn, hb, fun h hh => (hm h (hfresh h hh).1).trans (hothers h (hfresh h hh).1)⟩
        refine ⟨fun _ st₂ _ h₂ => ⟨hspare st₂ h₂.1 h₂.2.1 h₂.2.2.1, fun h hh => (hfresh h hh).1,
          h₂.2.2.2 hblocks⟩, fun _ st₂ _ h₂ => ?_⟩
        -- a trial that fails is closed, and what was open before is as it was
        have hclosed : ∀ w₃ : σ, (∀ h, trial ≠ h → H.modes w₃ h = H.modes st₂.2 h) →
            Spares H st (st₂.1, w₃) := fun w₃ hw₃ =>
          hspare (st₂.1, w₃) h₂.1 h₂.2.1 fun h hne => (hw₃ h hne).trans (h₂.2.2 h hne)
        refine ⟨fun _ w₃ _ hw₃ => ⟨fun _ => ⟨fun _ st₄ _ hnext => ?_,
          fun _ _ _ hsp₄ => (hclosed w₃ hw₃).trans hsp₄⟩, fun _ => hclosed w₃ hw₃⟩,
          fun _ w₃ _ hw₃ => hclosed w₃ hw₃⟩
        -- the next address is tried from where this trial was closed
        obtain ⟨hsp₄, hfresh₄, hag₄⟩ := hnext
        have hsp₃ := hclosed w₃ hw₃
        refine ⟨hsp₃.trans hsp₄, fun h hh => hfresh₄ h ?_, ?_⟩
        · rw [hsp₃.2.2 h hh]
          exact hh
        · rwa [hsp₃.2.1] at hag₄
      · -- no trial could be made: the next address, or the failure
        have hsp : Spares H st (st.1, w₁) := ⟨rfl, rfl, fun h _ => hkept h⟩
        refine ⟨fun _ => ⟨fun _ _ _ hnext => ?_, fun _ _ _ hsp₄ => hsp.trans hsp₄⟩, fun _ => hsp⟩
        obtain ⟨hsp₄, hfresh₄, hag₄⟩ := hnext
        exact ⟨hsp.trans hsp₄, fun h hh => hfresh₄ h (by rwa [hkept h]), hag₄⟩

/-! ## Taking a new native socket in place of the old -/

/-- Accepting in place of listening ends with the flag read from the accepted native socket;
a failure before it is read leaves the flag of the listener on the accepted native socket. -/
theorem acceptConnection_mirrors (hm : Mirrors H st) :
    Ends (acceptConnection H) st (fun _ st' => Mirrors H st')
      (fun _ st' => Mirrors H st' ∨ Stale st st') := by
  unfold Mirrors Host.Agrees at hm
  simp only [acceptConnection, ↓ends_bind, ↓ends_checkDescriptor,
    ↓ends_of_calm (requireListener_calm H), ↓ends_of (fun _ => acceptNative_spec hL _),
    ↓ends_current, ↓ends_attempt, ↓ends_of (fun _ => closeWith_spec hL _), ↓ends_change,
    ↓ends_rethrow, ↓ends_system, ↓ends_changeSignature,
    ↓ends_of_calm (secureWith_calm hL.onAccept), ite_prop_iff_and]
  simp +contextual [Mirrors, Stale, Calm, Host.Agrees, Host.fileno_neg_iff, hm]

/-- Connecting ends with the flag restored on the trial that connected; a failure before it is
restored leaves the flag on a trial that may not have it. -/
theorem connect_mirrors (host port timeout : Value) (hm : Mirrors H st) :
    Ends (connect H host port timeout) st (fun _ st' => Mirrors H st')
      (fun _ st' => Mirrors H st' ∨ Stale st st') := by
  simp only [connect, ↓ends_bind, ↓ends_checkDescriptor, ↓ends_current, ↓ends_ite,
    ↓ends_throw, ↓ends_rethrow, ↓ends_of_calm (prepareDelegate_calm hL _), ↓ends_tryCatch,
    ↓ends_sys_keeps (hL.resolve _ _ _), ↓ends_of (fun _ => firstConnection_spec hL _ _ _),
    ↓ends_attempt, ↓ends_of (fun _ => closeWith_spec hL _), ↓ends_change,
    ↓ends_sys_of (hL.setBlocking _ _), ↓ends_of_calm (secureWith_calm hL.onConnect),
    ite_prop_iff_and, reduceCtorEq, false_implies, implies_true, forall_const, true_and, and_true]
  -- a refusal before the first trial leaves everything as it was
  refine ⟨fun h hh => ⟨fun _ => .inl hm, fun hopen => ?_⟩, fun _ => .inl hm⟩
  refine ⟨fun _ => .inl hm, fun _ => ⟨fun _ => .inl hm, fun _ =>
    ⟨fun _ _ => ⟨fun _ => .inl hm, fun _ => ⟨fun t _ => ?_, fun _ _ => .inl hm⟩⟩, fun _ _ => .inl hm⟩⟩⟩
  refine ⟨fun _ st₁ _ hc₁ => ⟨fun infos w _ hw => ?_, fun _ w _ hw => ?_⟩,
    fun _ st₁ _ hc₁ => .inl (hm.of_calm hc₁)⟩
  -- the trials
  · have hopen₁ : H.modes w h ≠ none := by
      rw [hw, hc₁.2.2]
      simpa [Host.fileno_neg_iff] using hopen
    -- until the trial is in place, the socket's native socket keeps its mode
    have hsteady : ∀ st₂ : Socket × σ, st₂.1.native = st₁.1.native →
        st₂.1.blocking = st₁.1.blocking → H.modes st₂.2 h = H.modes w h → Steady H st st₂ := by
      intro st₂ hn₂ hb₂ hmode
      refine ⟨hn₂.trans hc₁.1, hb₂.trans hc₁.2.1, fun h' hh' => ?_⟩
      obtain rfl : h' = h := Option.some.inj (hh'.symm.trans hh)
      rw [hmode, hw, hc₁.2.2]
    refine ⟨fun r st₂ _ hfirst => ?_, fun _ st₂ _ h₂ =>
      .inl (hm.of_steady (hsteady st₂ h₂.1 h₂.2.1 (h₂.2.2 h hopen₁)))⟩
    obtain ⟨⟨hn₂, hb₂, hkept⟩, hfresh, hag⟩ := hfirst
    -- the trial that connected is none of the native sockets open before
    have hne : st.1.native ≠ some r.1 := fun e =>
      hfresh h hopen₁ (Option.some.inj (hh.symm.trans e)).symm
    have hb₂' : st₂.1.blocking = st.1.blocking := hb₂.trans hc₁.2.1
    -- once the trial is in place, the socket mirrors it exactly when the trial has its flag
    have hsec : ∀ Y : Socket × σ, Y.1.native = some r.1 → H.Agrees r.1 Y.1.blocking Y.2 →
        (∀ u st₄, secureWith H.delegates.onConnect Y = .ok u st₄ → Calm H Y st₄ →
          Mirrors H st₄) ∧
        (∀ e st₄, secureWith H.delegates.onConnect Y = .error e st₄ → Calm H Y st₄ →
          Mirrors H st₄ ∨ Stale st st₄) := by
      intro Y hn ha
      have hY : Mirrors H Y := mirrors_of_agrees hn ha
      exact ⟨fun _ _ _ hc => hY.of_calm hc, fun _ _ _ hc => .inl (hY.of_calm hc)⟩
    refine ⟨fun addr _ => ⟨fun _ st₃ _ h₃ => ?_, fun _ st₃ _ h₃ _ _ =>
      .inr (stale_of_native rfl hne (h₃.2.1.trans hb₂'))⟩,
      fun _ _ => .inl (hm.of_steady (hsteady st₂ hn₂ hb₂ (hkept h hopen₁)))⟩
    obtain ⟨-, hb₃, hkept₃⟩ := h₃
    -- closing the old native socket leaves the trial's mode as the trial set it
    have hflag : st₃.1.blocking = st.1.blocking := hb₃.trans hb₂'
    have hag₃ : H.Agrees r.1 (!(!st.1.blocking || decide (t.asInt?.getD 0 > 0))) st₃.2 := by
      unfold Host.Agrees at hag ⊢
      rwa [hkept₃ r.1 (hn₂.trans hc₁.1 ▸ hh ▸ hne), ← hc₁.2.1]
    refine ⟨fun g _ => ⟨fun hup => ⟨fun _ w₄ _ h₄ => hsec _ rfl ?_,
      fun _ w₄ _ _ => .inr (stale_of_native rfl hne hflag)⟩,
      fun hkeep => hsec _ rfl ?_⟩, fun _ _ => .inr (stale_of_native rfl hne hflag)⟩
    · -- a blocking socket with a timeout has its trial made blocking again
      show H.Agrees r.1 st₃.1.blocking w₄
      rw [Bool.and_eq_true] at hup
      rw [hup.1]
      exact h₄.1
    · -- otherwise the trial kept the mode of the socket
      show H.Agrees r.1 st₃.1.blocking st₃.2
      rw [hflag] at hkeep ⊢
      have hmode : (!(!st.1.blocking || decide (t.asInt?.getD 0 > 0))) = st.1.blocking := by
        revert hkeep
        generalize st.1.blocking = b
        cases b <;> simp
      rwa [hmode] at hag₃
  -- a failed resolution changes no native socket
  · have hs : Steady H st (st₁.1, w) := ⟨hc₁.1, hc₁.2.1, fun h' _ => by rw [hw, hc₁.2.2]⟩
    exact ⟨fun _ => .inl (hm.of_steady hs), fun _ => .inl (hm.of_steady hs)⟩

/-- Connecting to what a signature describes mirrors as connecting to a host does; connecting to
a path or to an address changes no native socket. -/
theorem connectUsing_mirrors (g : Signature) (hm : Mirrors H st) :
    Ends (connectUsing H g) st (fun _ st' => Mirrors H st')
      (fun _ st' => Mirrors H st' ∨ Stale st st') := by
  simp only [connectUsing, ↓ends_bind, ↓ends_checkDescriptor, ↓ends_ite, ↓ends_throw,
    ↓ends_current, ↓ends_of_calm (connectUnix_calm hL _), ↓ends_at (connect_mirrors hL _ _ _ hm),
    ↓ends_of_calm (prepareDelegate_calm hL _)]
  simp +contextual [hm, hm.of_calm]
  -- connecting the native socket to the signature's address changes no native socket
  intro h _ _ _ _ _ _ _ s₁ w₁ _ hc₁
  have hm₁ : Mirrors H (s₁, w₁) := hm.of_calm hc₁
  split
  · simp only [↓ends_bind, ↓ends_orCode, ↓ends_sys_keeps (hL.connect _ _), ↓ends_change,
      ↓ends_of_calm (secureWith_calm hL.onConnect)]
    refine ⟨fun _ w _ hw => ⟨fun _ _ _ hc => ?_, fun _ _ _ hc => .inl ?_⟩,
      fun _ w _ hw => .inl (hm₁.of_calm ⟨rfl, rfl, hw⟩)⟩ <;>
      refine Mirrors.of_calm ?_ hc <;>
      exact hm₁.of_calm ⟨rfl, rfl, hw⟩
  · simp [ends_bind, ends_throw, hm₁]

end Laws


end Socket

end Sockets
