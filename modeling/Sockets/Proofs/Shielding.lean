import Sockets.Proofs.Refusal

/-!
# Delegate failures do not escape

A delegate reports its own failures (`Failure.delegate`), and the library turns every one of them
into something else before the caller sees it. A program is `Shielded` when it never fails with a
delegate's own failure. On a host whose native calls fail as a system fails, never with a
delegate's failure (`Host.SystemFailures`), every operation is shielded, whatever the delegate's
hooks return or raise at any call (`Op.perform_shielded`).

The failures are turned over in three places:

* a hook of the delegate's life (prepare, undo, secure an accepted or a made connection) runs
  through `callDelegate`, whose failure is the socket failure with the delegate's code and
  reason (`delegated`), a request to retry included;
* a send that the delegate asks to retry waits until the socket is writable and sends again
  (`delegateSend`), and any other failure of the delegate is the socket failure again;
* a receive likewise (`delegateRecv`), except that a request to retry after the first receive of
  a drain ends the drain as a receive that would have to wait does.

A socket failure's code names one of the library's codes exactly when it lies in
`-9999..-9965` (`ErrorCode.ofInt?_isSome_iff`); a delegate's own code outside that range stays a
plain number.
-/

namespace Sockets

/-- Whether a failure is a delegate's own, as the delegate raised it. -/
def Failure.isDelegate : Failure → Bool
  | .delegate _ => true
  | _ => false

@[simp] theorem Failure.isDelegate_socket (e : SocketError) :
    (Failure.socket e).isDelegate = false := rfl

@[simp] theorem Failure.isDelegate_code (c : ErrorCode) (r : Option String) :
    (Failure.code c r).isDelegate = false := rfl

@[simp] theorem Failure.isDelegate_errno (n : Int) : (Failure.errno n).isDelegate = false := rfl

@[simp] theorem Failure.isDelegate_valueError (m : String) :
    (Failure.valueError m).isDelegate = false := rfl

@[simp] theorem Failure.isDelegate_typeError (m : String) :
    (Failure.typeError m).isDelegate = false := rfl

@[simp] theorem Failure.isDelegate_attributeError (m : String) :
    (Failure.attributeError m).isDelegate = false := rfl

theorem Failure.isDelegate_of_isRefusal {f : Failure} (h : f.isRefusal) : f.isDelegate = false := by
  cases f <;> simp_all [isRefusal, isDelegate]

/-- A result that, if it fails, does not fail with a delegate's failure. -/
abbrev Failure.NoDelegate {α : Type} (r : Except Failure α) : Prop :=
  Failure.FailsWith (fun f => f.isDelegate = false) r

open Failure (NoDelegate OnlyRefuses FailsWith)

theorem Failure.OnlyRefuses.noDelegate {α : Type} {r : Except Failure α} (h : OnlyRefuses r) :
    NoDelegate r :=
  FailsWith.mono h fun _ => Failure.isDelegate_of_isRefusal

/-! ## What the library's own checks fail with -/

theorem Checks.packLong_noDelegate (n : Int) : NoDelegate (Checks.packLong n) := by
  unfold Checks.packLong
  split
  · exact FailsWith.error rfl
  · exact FailsWith.ok _

theorem Checks.packTimeout_noDelegate (ms : Value) : NoDelegate (Checks.packTimeout ms) := by
  unfold Checks.packTimeout
  refine FailsWith.bind (Value.compareWith_int_onlyRefuses _ _ _).noDelegate fun negative _ => ?_
  cases negative <;> simp only [Bool.false_eq_true, ↓reduceIte]
  case true => exact FailsWith.bind (FailsWith.error rfl) fun _ h => by cases h
  split
  · exact FailsWith.bind (Checks.packLong_noDelegate _) fun _ _ =>
      FailsWith.bind (Checks.packLong_noDelegate _) fun _ _ => FailsWith.ok _
  · exact FailsWith.error rfl

theorem Value.toMachineInt_noDelegate (v : Value) : NoDelegate v.toMachineInt := by
  unfold Value.toMachineInt
  refine FailsWith.bind (Value.index_onlyRefuses v).noDelegate fun _ _ => ?_
  split
  · exact FailsWith.bind (FailsWith.error rfl) fun _ h => by cases h
  · exact FailsWith.ok _

theorem Signature.fromValues_onlyRefuses (family type proto address : Value) :
    OnlyRefuses (Signature.fromValues family type proto address) := by
  unfold Signature.fromValues
  split
  · exact FailsWith.bind (Signature.checkTypeAndProtocol_onlyRefuses _ _)
      fun _ _ => FailsWith.ok _
  · exact FailsWith.error (by decide)

theorem Signature.forEndpoint_onlyRefuses (family type proto address hostname port : Value) :
    OnlyRefuses (Signature.forEndpoint family type proto address hostname port) := by
  unfold Signature.forEndpoint
  dsimp only
  split
  · exact FailsWith.ite (FailsWith.error (by decide))
      (FailsWith.bind (Signature.checkTypeAndProtocol_onlyRefuses _ _) fun _ _ => FailsWith.ok _)
  · exact FailsWith.error (by decide)

theorem Address.build_onlyRefuses (f : Family) (args : List Value) :
    OnlyRefuses (Address.build f args) := by
  unfold Address.build
  dsimp only
  refine FailsWith.ite (FailsWith.error rfl) (FailsWith.ite (FailsWith.error rfl) ?_)
  split <;> exact FailsWith.ok _

theorem Address.sliceItems_onlyRefuses (v : Value) (n : Nat) :
    OnlyRefuses (Address.sliceItems v n) := by
  unfold Address.sliceItems
  split
  · exact FailsWith.ok _
  · exact FailsWith.error rfl

theorem Address.ofNative_onlyRefuses (addr family : Value) :
    OnlyRefuses (Address.ofNative addr family) := by
  unfold Address.ofNative
  split
  case h_1 =>
    exact FailsWith.bind (Address.sliceItems_onlyRefuses _ _) fun _ _ =>
      Address.build_onlyRefuses _ _
  case h_2 =>
    split
    · exact Address.build_onlyRefuses _ _
    · exact FailsWith.error rfl
  case h_3 =>
    split
    · exact FailsWith.ok _
    · exact FailsWith.ok _
    · exact FailsWith.error rfl
  case h_4 => exact FailsWith.error rfl

theorem Failure.FailsWith.map {α β : Type} {P : Failure → Prop} {x : Except Failure α}
    (f : α → β) (hx : FailsWith P x) : FailsWith P (x.map f) := by
  intro e h
  cases x with
  | error e' =>
    cases h
    exact hx _ rfl
  | ok a => cases h

theorem Address.ofSyscall_onlyRefuses (family raw : Value) :
    OnlyRefuses (Address.ofSyscall family raw) := by
  unfold Address.ofSyscall
  split
  · exact FailsWith.ok _
  · split
    · exact FailsWith.ite ((Address.ofNative_onlyRefuses _ _).map _) (FailsWith.ok _)
    · exact (Address.ofNative_onlyRefuses _ _).map _

/-- The signature of a connected socket is refused, or, for an address that is no address at
all, missing an attribute. -/
theorem Socket.connectedSignature_noDelegate (type : SocketType) (address path : Value) :
    NoDelegate (Socket.connectedSignature type address path) := by
  unfold Socket.connectedSignature
  split
  · exact FailsWith.ite (Signature.forPath_onlyRefuses _ _ _).noDelegate
      (Signature.fromValues_onlyRefuses _ _ _ _).noDelegate
  · exact (Signature.forEndpoint_onlyRefuses _ _ _ _ _ _).noDelegate
  · exact FailsWith.error rfl

/-! ## Programs that never fail with a delegate's failure -/

section Shielded

variable {S α : Type} {st : S} {ok : α → S → Prop} {err : Failure → S → Prop}

/-- `prog` never fails with a delegate's own failure, from whatever state it starts. -/
def Shielded (prog : EStateM Failure S α) : Prop :=
  ∀ st, Ends prog st (fun _ _ => True) (fun f _ => f.isDelegate = false)

/-- A shielded program ends in `err` where it fails when `err` holds of every failure that is
not a delegate's. -/
theorem ends_of_shielded {prog : EStateM Failure S α} (h : Shielded prog) :
    Ends prog st ok err =
      ((∀ a st', prog st = .ok a st' → ok a st') ∧
        ∀ e st', prog st = .error e st' → e.isDelegate = false → err e st') := by
  have hst := h st
  unfold Ends at hst ⊢
  split <;> simp_all

theorem Shielded.pure (a : α) : Shielded (pure a : EStateM Failure S α) := fun _ => trivial

theorem Shielded.bind {β : Type} {x : EStateM Failure S α} {f : α → EStateM Failure S β}
    (hx : Shielded x) (hf : ∀ a, Shielded (f a)) : Shielded (x >>= f) := by
  intro st
  rw [ends_bind]
  exact ends_mono (hx st) (fun a st' _ => hf a st') (fun _ _ h => h)

end Shielded

variable {σ : Type}

/-- A host whose native calls fail as a system fails: none of them with a delegate's failure.
The delegate hooks may return or fail with anything, at any call. -/
structure Host.SystemFailures (H : Host σ) : Prop where
  create : ∀ family type proto, Shielded (H.create family type proto)
  adopt : ∀ fd, Shielded (H.adopt fd)
  close : ∀ h, Shielded (H.close h)
  shutdown : ∀ h how, Shielded (H.shutdown h how)
  setBlocking : ∀ h blocking, Shielded (H.setBlocking h blocking)
  setOption : ∀ h opt v, Shielded (H.setOption h opt v)
  bind : ∀ h address, Shielded (H.bind h address)
  listen : ∀ h backlog, Shielded (H.listen h backlog)
  accept : ∀ h, Shielded (H.accept h)
  connect : ∀ h address, Shielded (H.connect h address)
  sockName : ∀ h, Shielded (H.sockName h)
  pendingError : ∀ h, Shielded (H.pendingError h)
  recv : ∀ h size nowait, Shielded (H.recv h size nowait)
  recvFrom : ∀ h size, Shielded (H.recvFrom h size)
  send : ∀ h data, Shielded (H.send h data)
  sendTo : ∀ h data address, Shielded (H.sendTo h data address)
  select : ∀ readable writable wait, Shielded (H.select readable writable wait)
  unlink : ∀ path, Shielded (H.unlink path)
  resolve : ∀ host port hints, Shielded (H.resolve host port hints)

namespace Socket

@[simp] theorem coded_isDelegate (c : ErrorCode) (f : Failure) :
    (coded c f).isDelegate = f.isDelegate := by
  unfold coded
  split
  -- an OS error is never a delegate's
  case isTrue hos => cases f <;> simp [Failure.isOsError] at hos <;> rfl
  case isFalse => rfl

@[simp] theorem delegated_isDelegate (f : Failure) : (delegated f).isDelegate = false := by
  cases f <;> rfl

@[simp] theorem streamError_isDelegate (f : Failure) (fallback : ErrorCode) :
    (streamError f fallback).isDelegate = false := rfl

variable {α : Type} {st : Socket × σ} {ok : α → Socket × σ → Prop}
  {err : Failure → Socket × σ → Prop}

theorem ends_sys_shielded {act : EStateM Failure σ α} (h : Shielded act) :
    Ends (sys act) st ok err =
      ((∀ a w, act st.2 = .ok a w → ok a (st.1, w)) ∧
        ∀ e w, act st.2 = .error e w → e.isDelegate = false → err e (st.1, w)) := by
  rw [ends_sys]
  have hw := h st.2
  unfold Ends at hw
  split at hw <;> simp_all

theorem ends_rethrow_noDelegate {r : Except Failure α} (h : NoDelegate r) :
    Ends (rethrow r) st ok err =
      ((∀ a, r = .ok a → ok a st) ∧ ∀ e, r = .error e → e.isDelegate = false → err e st) := by
  rw [ends_rethrow]
  cases r with
  | ok a => simp
  | error e => simp [h e rfl]

/-! ## Steps that call no native socket -/

theorem requireListener_shielded : Shielded (requireListener : SocketM σ Unit) := by
  intro st
  simp [requireListener, ends_bind, ends_current, ends_ite, ends_throw, ends_pure]

theorem requireDatagram_shielded : Shielded (requireDatagram : SocketM σ Unit) := by
  intro st
  simp [requireDatagram, ends_bind, ends_current, ends_ite, ends_throw, ends_pure]

theorem checkDescriptor_shielded (H : Host σ) : Shielded (checkDescriptor H) := by
  intro st
  simp only [ends_checkDescriptor]
  simp +contextual

theorem takeStored_shielded (size : Nat) (truncate : Bool) :
    Shielded (takeStored size truncate : SocketM σ (List UInt8)) := by
  intro st
  simp [takeStored, ends_bind, ends_current, ends_ite, ends_throw, ends_map, ends_change]

/-- A lifecycle hook's failure comes back as a socket failure, so whatever the hook does, running
it through the delegate is shielded. -/
theorem callDelegate_shielded (act : EStateM Failure σ α) : Shielded (callDelegate act) := by
  intro st
  simp [ends_callDelegate]

theorem prepareDelegate_shielded (H : Host σ) (asServer : Bool) :
    Shielded (prepareDelegate H asServer) := by
  intro st
  simp [ends_prepareDelegate]

theorem secureWith_shielded (hook : String → Option Handle → EStateM Failure σ Unit) :
    Shielded (secureWith hook) := by
  intro st
  simp [ends_secureWith]

theorem invokeOnAccept_shielded (H : Host σ) (target : Socket) :
    Shielded (invokeOnAccept H target) := by
  intro st
  cases hd : st.1.delegate <;>
    simp [invokeOnAccept, hd, ends_bind, ends_ite, ends_throw, ends_current, ends_pure, ends_map,
      ends_callDelegate]

theorem setDelegate_shielded (d : Option String) : Shielded (setDelegate d : SocketM σ Unit) := by
  intro st
  simp [setDelegate, ends_bind, ends_change, ends_ite, ends_pure]

theorem resizeReadBuffer_shielded (size : Value) :
    Shielded (resizeReadBuffer size : SocketM σ Nat) := by
  intro st
  simp only [resizeReadBuffer, ↓ends_bind,
    ↓ends_rethrow_noDelegate (Checks.validateBufferSize_onlyRefuses _).noDelegate, ↓ends_current,
    ↓ends_ite, ↓ends_throw, ↓ends_change, ↓ends_pure]
  simp [Value.indexOverflow, Failure.isDelegate]

/-! ## Steps of serving and connecting -/

section Natives

variable {H : Host σ} (hH : H.SystemFailures)
include hH

theorem setOption_shielded (h : Handle) (opt : SockOpt) (v : Value) :
    Shielded (setOption H h opt v) := by
  intro st
  simp [setOption, ends_orCode, ends_sys_shielded (hH.setOption _ _ _)]

theorem sharePorts_shielded (h : Handle) : Shielded (sharePorts H h) := by
  intro st
  simp only [sharePorts, ↓ends_tryCatch, ↓ends_sys_shielded (hH.setOption _ _ _), ↓ends_ite,
    ↓ends_pure, ↓ends_throw]
  simp +contextual

theorem bindFirst_shielded (h : Handle) (rs : List Resolved) (last : Option Failure) :
    Shielded (bindFirst H h rs last) := by
  induction rs generalizing last with
  | nil =>
    intro st
    simp [bindFirst, ends_throw]
  | cons r rest ih =>
    intro st
    simp only [bindFirst, ↓ends_bind, ↓ends_attempt, ↓ends_sys_shielded (hH.bind _ _),
      ↓ends_pure, ↓ends_ite, ↓ends_throw, ↓ends_of_shielded (ih _)]
    simp +contextual

theorem boundAddress_shielded (h : Handle) (why : String) :
    Shielded (boundAddress H h why) := by
  intro st
  simp only [boundAddress, ↓ends_bind, ↓ends_orCode, ↓ends_sys_shielded (hH.sockName _),
    ↓ends_system, ↓ends_rethrow_noDelegate (Address.ofSyscall_onlyRefuses _ _).noDelegate]
  simp +contextual [Option.forall, ends_pure, ends_throw]

theorem clearNode_shielded (path : Value) : Shielded (clearNode H path) := by
  intro st
  simp only [clearNode, ↓ends_tryCatch, ↓ends_sys_shielded (hH.unlink _), ↓ends_ite,
    ↓ends_pure, ↓ends_throw]
  simp +contextual

/-- The accept loop raises no delegate failure: an interrupted call is no delegate's. -/
theorem acceptRetrying_shielded (h : Handle) (retries : Nat) :
    Shielded (acceptRetrying H h retries) :=
  ends_acceptRetrying H (hH.accept h) (fun _ _ _ _ _ _ _ _ => trivial)
    (fun _ _ _ _ _ _ _ hq' => hq') retries

theorem acceptNative_shielded (h : Handle) : Shielded (acceptNative H h) := by
  intro st
  simp only [acceptNative, ↓ends_bind, ↓ends_orCode,
    ↓ends_sys_shielded (acceptRetrying_shielded hH _ _),
    ↓ends_system, ↓ends_rethrow_noDelegate (Address.ofSyscall_onlyRefuses _ _).noDelegate]
  simp +contextual [Option.forall, ends_pure, ends_throw, ends_bind,
    ends_sys_shielded (hH.close _)]

theorem pollFor_shielded (fd : Int) (wait : Option Nat) (read write : Bool) :
    Shielded (pollFor H fd wait read write) := by
  intro st
  simp only [pollFor, ↓ends_bind, ↓ends_orCode, ↓ends_sys_shielded (hH.select _ _ _),
    ↓ends_pure]
  simp +contextual

theorem waitUntil_shielded (readable writable : Bool) :
    Shielded (waitUntil H readable writable) := by
  intro st
  simp only [waitUntil, ↓ends_bind, ↓ends_of_shielded (checkDescriptor_shielded H),
    ↓ends_system, ↓ends_of_shielded (pollFor_shielded hH _ _ _ _), ↓ends_pure]
  simp

theorem connectTrial_shielded (trial : Handle) (sockaddr : Value) (timeout : Int) :
    Shielded (connectTrial H trial sockaddr timeout) := by
  intro st
  simp only [connectTrial, ↓ends_bind, ↓ends_current, ↓ends_ite,
    ↓ends_sys_shielded (hH.setBlocking _ _), ↓ends_sys_shielded (hH.connect _ _),
    ↓ends_sys_shielded (hH.pendingError _), ↓ends_pure, ↓ends_attempt, ↓ends_throw,
    ↓ends_system, ↓ends_of_shielded (pollFor_shielded hH _ _ _ _)]
  simp +contextual

theorem firstConnection_shielded (timeout : Int) (rs : List Resolved) (last : Option Failure) :
    Shielded (firstConnection H timeout rs last) := by
  induction rs generalizing last with
  | nil =>
    intro st
    simp [firstConnection, ends_throw]
  | cons r rest ih =>
    intro st
    simp only [firstConnection, ↓ends_bind, ↓ends_attempt, ↓ends_sys_shielded (hH.create _ _ _),
      ↓ends_sys_shielded (hH.close _), ↓ends_pure, ↓ends_ite, ↓ends_throw,
      ↓ends_of_shielded (ih _), ↓ends_of_shielded (connectTrial_shielded hH _ _ _)]
    simp +contextual

/-! ## Steps of sending and receiving -/

theorem recvDatagram_shielded : Shielded (recvDatagram H) := by
  intro st
  simp only [recvDatagram, ↓ends_bind, ↓ends_of_shielded (checkDescriptor_shielded H),
    ↓ends_of_shielded requireDatagram_shielded, ↓ends_current, ↓ends_attempt,
    ↓ends_sys_shielded (hH.recvFrom _ _), ↓ends_system, ↓ends_ite, ↓ends_pure, ↓ends_throw]
  simp +contextual
  -- the sender's address is made after the receive, and may be refused
  intro h _ _ _ _ _ _ _ data raw w _
  split
  · trivial
  · exact (Address.ofSyscall_onlyRefuses _ _).noDelegate _ ‹_›

/-- A send that the delegate asks to retry waits until the socket is writable and asks again;
any other failure of the delegate comes back as a socket failure. -/
theorem delegateSend_shielded (d : String) (data : List UInt8) (fuel : Nat) :
    Shielded (delegateSend H d data fuel) := by
  induction fuel with
  | zero =>
    intro st
    simp [delegateSend, ends_throw, wouldWait]
  | succ fuel ih =>
    intro st
    simp only [delegateSend, ↓ends_bind, ↓ends_current, ↓ends_attempt, ↓ends_sys, ↓ends_pure]
    refine ⟨by simp, fun e w _ => ?_⟩
    cases e <;> simp [ends_ite, ends_throw, ends_bind, Failure.isDelegate,
      ends_of_shielded (waitUntil_shielded hH _ _), ends_of_shielded ih]

theorem sendOnce_shielded (h : Handle) (data : List UInt8) : Shielded (sendOnce H h data) := by
  intro st
  simp only [sendOnce, ↓ends_bind, ↓ends_current]
  split <;> simp [ends_bind, ends_system, ends_of_shielded (delegateSend_shielded hH _ _ _),
    ends_sys_shielded (hH.send _ _)]

theorem sendAll_shielded (h : Handle) (data : List UInt8) (sent fuel : Nat) :
    Shielded (sendAll H h data sent fuel) := by
  induction fuel generalizing sent with
  | zero =>
    intro st
    trivial
  | succ fuel ih =>
    intro st
    simp only [sendAll, ↓ends_ite, ↓ends_pure, ↓ends_bind, ↓ends_attempt,
      ↓ends_of_shielded (sendOnce_shielded hH _ _), ↓ends_current, ↓ends_throw,
      ↓ends_of_shielded (ih _)]
    simp +contextual

/-- A receive that the delegate asks to retry waits until the socket is readable and asks again
when it is the first of a drain, and ends as a receive that would have to wait otherwise; any
other failure of the delegate comes back as a socket failure. -/
theorem delegateRecv_shielded (d : String) (first : Bool) (fuel : Nat) :
    Shielded (delegateRecv H d first fuel) := by
  induction fuel with
  | zero =>
    intro st
    simp [delegateRecv, ends_throw, wouldWait]
  | succ fuel ih =>
    intro st
    simp only [delegateRecv, ↓ends_bind, ↓ends_current, ↓ends_attempt, ↓ends_sys, ↓ends_pure]
    refine ⟨by simp, fun e w _ => ?_⟩
    cases e <;> simp [ends_ite, ends_throw, ends_bind, Failure.isDelegate, wouldWait,
      Failure.errno, ends_of_shielded (waitUntil_shielded hH _ _), ends_of_shielded ih]

theorem recvOnce_shielded (h : Handle) (first : Bool) : Shielded (recvOnce H h first) := by
  intro st
  simp only [recvOnce, ↓ends_bind, ↓ends_current]
  split <;> simp [ends_bind, ends_system, ends_of_shielded (delegateRecv_shielded hH _ _ _),
    ends_sys_shielded (hH.recv _ _ _)]

theorem drain_shielded (h : Handle) (fuel : Nat) : Shielded (drain H h fuel) := by
  induction fuel with
  | zero =>
    intro st
    trivial
  | succ fuel ih =>
    intro st
    simp only [drain, ↓ends_bind, ↓ends_current, ↓ends_attempt,
      ↓ends_of_shielded (recvOnce_shielded hH _ _), ↓ends_ite, ↓ends_pure, ↓ends_throw,
      ↓ends_change, ↓ends_of_shielded ih]
    simp +contextual

theorem fill_shielded : Shielded (fill H) := by
  intro st
  simp only [fill, ↓ends_bind, ↓ends_of_shielded (checkDescriptor_shielded H), ↓ends_current,
    ↓ends_ite, ↓ends_throw, ↓ends_pure, ↓ends_of_shielded (drain_shielded hH _ _)]
  simp

/-! ## Serving -/

theorem listen_shielded (port backlog reuse dualStack : Value) :
    Shielded (listen H port backlog reuse dualStack) := by
  intro st
  simp only [listen, ↓ends_bind, ↓ends_of_shielded (checkDescriptor_shielded H), ↓ends_current,
    ↓ends_ite, ↓ends_throw, ↓ends_rethrow_noDelegate (Checks.portOk_onlyRefuses _ _).noDelegate,
    ↓ends_keepBacklog, ↓ends_of_shielded (setOption_shielded hH _ _ _),
    ↓ends_of_shielded (sharePorts_shielded hH _), ↓ends_pure,
    ↓ends_of_shielded (prepareDelegate_shielded H _), ↓ends_orCode,
    ↓ends_sys_shielded (hH.resolve _ _ _), ↓ends_of_shielded (bindFirst_shielded hH _ _ _),
    ↓ends_of_shielded (boundAddress_shielded hH _ _),
    ↓ends_rethrow_noDelegate (Address.ofNative_onlyRefuses _ _).noDelegate, ↓ends_changeSignature,
    ↓ends_sys_shielded (hH.listen _ _), ↓ends_change]
  simp +contextual

theorem listenUnix_shielded (path backlog : Value) : Shielded (listenUnix H path backlog) := by
  intro st
  simp only [listenUnix, ↓ends_bind, ↓ends_of_shielded (checkDescriptor_shielded H),
    ↓ends_current, ↓ends_ite, ↓ends_throw, ↓ends_keepBacklog,
    ↓ends_of_shielded (setOption_shielded hH _ _ _),
    ↓ends_rethrow_noDelegate (Signature.forPath_onlyRefuses _ _ _).noDelegate,
    ↓ends_of_shielded (clearNode_shielded hH _), ↓ends_orCode, ↓ends_sys_shielded (hH.bind _ _),
    ↓ends_change, ↓ends_sys_shielded (hH.listen _ _), ↓ends_changeSignature]
  simp +contextual

/-- An accepted connection is wrapped, or, when no signature can be made for it, closed. -/
theorem fromNative_shielded (h : Handle) (address path : Value) (d : Option String) :
    Shielded (fromNative H h address path d) := by
  intro w
  simp only [fromNative, ↓ends_bind, ↓ends_get]
  split
  · simp [ends_wrap]
  · simp [ends_bind, ends_of_shielded (hH.close _), ends_throw,
      connectedSignature_noDelegate _ _ _ _ ‹_›]

theorem closeNative_shielded (native : Option Handle) (listening : Bool) :
    Shielded (closeNative H native listening) := by
  intro st
  simp only [closeNative]
  split
  · simp [ends_bind, ends_ite, ends_attempt, ends_sys_shielded (hH.close _)]
  · trivial

theorem removeOwnedPath_shielded : Shielded (removeOwnedPath H) := by
  intro st
  simp only [removeOwnedPath, ↓ends_bind, ↓ends_current]
  split
  · simp +contextual [ends_bind, ends_change, ends_tryCatch, ends_sys_shielded (hH.unlink _),
      ends_ite, ends_pure, ends_throw]
  · trivial

/-- Closing fails with the failure of the native close or of removing the node, else with the
delegate's undoing, which comes back as a socket failure. -/
theorem closeWith_shielded (teardown : Bool) : Shielded (closeWith H teardown) := by
  intro st
  cases hd : st.1.delegate <;>
    simp only [closeWith, hd, ↓ends_bind, ↓ends_current, ↓ends_change, ↓ends_attempt, ↓ends_ite,
      ↓ends_pure, ↓ends_throw, ↓ends_of_shielded (callDelegate_shielded _),
      ↓ends_of_shielded (closeNative_shielded hH _ _),
      ↓ends_of_shielded (removeOwnedPath_shielded hH)] <;>
    simp +contextual

theorem close_shielded : Shielded (close H) := closeWith_shielded hH true

theorem acceptClient_shielded (invoke : Bool) : Shielded (acceptClient H invoke) := by
  intro st
  simp only [acceptClient, ↓ends_bind, ↓ends_of_shielded (checkDescriptor_shielded H),
    ↓ends_of_shielded requireListener_shielded, ↓ends_of_shielded (acceptNative_shielded hH _),
    ↓ends_current, ↓ends_sys_shielded (fromNative_shielded hH _ _ _ _), ↓ends_ite, ↓ends_pure,
    ↓ends_attempt, ↓ends_of_shielded (invokeOnAccept_shielded H _), ↓ends_within,
    ↓ends_of_shielded (close_shielded hH), ↓ends_throw]
  simp +contextual [rethrow, ends_throw, ends_pure]

theorem acceptConnection_shielded : Shielded (acceptConnection H) := by
  intro st
  simp only [acceptConnection, ↓ends_bind, ↓ends_of_shielded (checkDescriptor_shielded H),
    ↓ends_of_shielded requireListener_shielded, ↓ends_of_shielded (acceptNative_shielded hH _),
    ↓ends_current, ↓ends_attempt, ↓ends_of_shielded (closeWith_shielded hH _), ↓ends_change,
    ↓ends_system, ↓ends_changeSignature, ↓ends_of_shielded (secureWith_shielded _)]
  simp +contextual [rethrow, ends_throw, ends_pure]

/-! ## Connecting -/

theorem connect_shielded (host port timeout : Value) : Shielded (connect H host port timeout) := by
  intro st
  simp only [connect, ↓ends_bind, ↓ends_of_shielded (checkDescriptor_shielded H), ↓ends_current,
    ↓ends_ite, ↓ends_throw, ↓ends_rethrow_noDelegate (Checks.portOk_onlyRefuses _ _).noDelegate,
    ↓ends_rethrow_noDelegate (Checks.validateTimeout_onlyRefuses _).noDelegate,
    ↓ends_of_shielded (prepareDelegate_shielded H _), ↓ends_tryCatch,
    ↓ends_sys_shielded (hH.resolve _ _ _), ↓ends_of_shielded (firstConnection_shielded hH _ _ _),
    ↓ends_rethrow_noDelegate (Address.ofNative_onlyRefuses _ _).noDelegate, ↓ends_attempt,
    ↓ends_of_shielded (closeWith_shielded hH _), ↓ends_change,
    ↓ends_rethrow_noDelegate (Signature.forEndpoint_onlyRefuses _ _ _ _ _ _).noDelegate,
    ↓ends_sys_shielded (hH.setBlocking _ _), ↓ends_of_shielded (secureWith_shielded _)]
  simp +contextual [rethrow, ends_throw, ends_pure]

theorem connectUnix_shielded (path : Value) : Shielded (connectUnix H path) := by
  intro st
  simp only [connectUnix, ↓ends_bind, ↓ends_of_shielded (checkDescriptor_shielded H),
    ↓ends_current, ↓ends_ite, ↓ends_throw,
    ↓ends_rethrow_noDelegate (Signature.forPath_onlyRefuses _ _ _).noDelegate, ↓ends_orCode,
    ↓ends_sys_shielded (hH.connect _ _), ↓ends_change]
  simp +contextual

theorem connectUsing_shielded (g : Signature) : Shielded (connectUsing H g) := by
  intro st
  simp only [connectUsing, ↓ends_bind, ↓ends_of_shielded (checkDescriptor_shielded H),
    ↓ends_ite, ↓ends_of_shielded (connectUnix_shielded hH _),
    ↓ends_of_shielded (connect_shielded hH _ _ _), ↓ends_current, ↓ends_throw,
    ↓ends_of_shielded (prepareDelegate_shielded H _)]
  simp +contextual
  intro h _ _ _ _ _ _ _ _ _ _ _
  -- a resolved address is the target; any other value has none
  split <;> simp +contextual [ends_bind, ends_throw, ends_orCode,
    ends_sys_shielded (hH.connect _ _), ends_change, ends_of_shielded (secureWith_shielded _)]

/-! ## Reading -/

theorem readInto_shielded (buffer : List UInt8) (nbytes : Value) (truncate : Bool) :
    Shielded (readInto H buffer nbytes truncate) := by
  intro st
  have hlt : NoDelegate (nbytes.lt (.int 0)) := (Value.compareWith_int_onlyRefuses _ _ _).noDelegate
  have hgt : NoDelegate (nbytes.gt (.int buffer.length)) :=
    (Value.compareWith_int_onlyRefuses _ _ _).noDelegate
  simp only [readInto, ↓ends_bind, ↓ends_rethrow_noDelegate hlt, ↓ends_rethrow_noDelegate hgt,
    ↓ends_ite, ↓ends_throw, ↓ends_map,
    ↓ends_rethrow_noDelegate (Value.sliceEnd_onlyRefuses _).noDelegate, ↓ends_pure,
    ↓ends_of_shielded (fill_shielded hH), ↓ends_of_shielded (takeStored_shielded _ _)]
  simp +contextual

theorem readData_shielded : Shielded (readData H) := by
  intro st
  simp only [readData, ↓ends_bind, ↓ends_of_shielded (fill_shielded hH), ↓ends_ite, ↓ends_pure,
    ↓ends_current, ↓ends_of_shielded (takeStored_shielded _ _)]
  simp

theorem readDatagramInto_shielded (buffer : List UInt8) :
    Shielded (readDatagramInto H buffer) := by
  intro st
  simp only [readDatagramInto, ↓ends_bind, ↓ends_ite, ↓ends_throw, ↓ends_pure,
    ↓ends_of_shielded (recvDatagram_shielded hH)]
  simp

theorem listenForMessage_shielded (buffer : List UInt8) (port backlog : Value) :
    Shielded (listenForMessage H buffer port backlog) := by
  intro st
  simp only [listenForMessage, ↓ends_bind, ↓ends_ite, ↓ends_throw,
    ↓ends_of_shielded (checkDescriptor_shielded H), ↓ends_of_shielded requireDatagram_shielded,
    ↓ends_current, ↓ends_of_shielded (listen_shielded hH _ _ _ _), ↓ends_change,
    ↓ends_of_shielded (readDatagramInto_shielded hH _)]
  simp

/-! ## Writing -/

theorem write_shielded (data : Value) : Shielded (write H data) := by
  intro st
  simp only [write, ↓ends_bind, ↓ends_rethrow_noDelegate (payload_onlyRefuses _).noDelegate,
    ↓ends_ite, ↓ends_pure, ↓ends_of_shielded (checkDescriptor_shielded H), ↓ends_current,
    ↓ends_throw, ↓ends_of_shielded (sendAll_shielded hH _ _ _ _)]
  simp

theorem writeTo_shielded (data address : Value) : Shielded (writeTo H data address) := by
  intro st
  simp only [writeTo, ↓ends_bind, ↓ends_rethrow_noDelegate (encodeText_onlyRefuses _).noDelegate,
    ↓ends_of_shielded (checkDescriptor_shielded H), ↓ends_of_shielded requireDatagram_shielded]
  -- the target is taken by the kind of `address`
  split <;> simp only [↓ends_bind, ↓ends_pure, ↓ends_throw,
    ↓ends_rethrow_noDelegate (sendBuffer_onlyRefuses _).noDelegate, ↓ends_attempt,
    ↓ends_sys_shielded (hH.sendTo _ _ _), ↓ends_ite, ↓ends_current] <;> simp +contextual

/-! ## Settings and readiness -/

theorem setBlocking_shielded (v : Value) : Shielded (setBlocking H v) := by
  intro st
  simp only [setBlocking, ↓ends_bind, ↓ends_of_shielded (checkDescriptor_shielded H),
    ↓ends_rethrow_noDelegate (Value.toMachineInt_noDelegate _), ↓ends_orCode,
    ↓ends_sys_shielded (hH.setBlocking _ _), ↓ends_change]
  simp +contextual

theorem setTimeout_shielded (opt : SockOpt) (code : ErrorCode) (ms : Value) :
    Shielded (setTimeout H opt code ms) := by
  intro st
  simp only [setTimeout, ↓ends_bind,
    ↓ends_rethrow_noDelegate (Checks.validateTimeout_onlyRefuses _).noDelegate,
    ↓ends_of_shielded (checkDescriptor_shielded H),
    ↓ends_rethrow_noDelegate (Checks.packTimeout_noDelegate _), ↓ends_orCode,
    ↓ends_sys_shielded (hH.setOption _ _ _)]
  simp +contextual

theorem udpBroadcast_shielded (enable : Value) : Shielded (udpBroadcast H enable) := by
  intro st
  simp only [udpBroadcast, ↓ends_bind, ↓ends_of_shielded (checkDescriptor_shielded H),
    ↓ends_of_shielded requireDatagram_shielded, ↓ends_of_shielded (setOption_shielded hH _ _ _)]
  simp

theorem readiness_shielded (waitForever : Bool) (timeout : Value) :
    Shielded (readiness H waitForever timeout) := by
  intro st
  simp only [readiness, pollDescriptor, ↓ends_bind, ↓ends_of_shielded (checkDescriptor_shielded H),
    ↓ends_current, ↓ends_ite, ↓ends_throw, ↓ends_system,
    ↓ends_rethrow_noDelegate (waitLimit_onlyRefuses _ _).noDelegate,
    ↓ends_of_shielded (pollFor_shielded hH _ _ _ _), ↓ends_pure]
  simp

/-! ## Making sockets -/

theorem create_shielded (family type proto : Value) (d : Option String) :
    Shielded (create H family type proto d) := by
  intro w
  simp only [create, ↓ends_bind, ↓ends_liftExcept, ↓ends_tryCatch,
    ↓ends_of_shielded (hH.create _ _ _), ↓ends_ite, ↓ends_throw, ↓ends_wrap]
  simp +contextual
  exact fun e he => (Signature.fromValues_onlyRefuses _ _ _ _).noDelegate e he

theorem adopt_shielded (fd address : Value) (d : Option String) :
    Shielded (adopt H fd address d) := by
  intro w
  simp only [adopt]
  -- a missing address is refused first, then a descriptor that is no integer
  split
  · rfl
  · split
    · simp only [↓ends_bind, ↓ends_tryCatch, ↓ends_of_shielded (hH.adopt _), ↓ends_ite,
        ↓ends_throw, ↓ends_of_shielded (fromNative_shielded hH _ _ _ _)]
      simp +contextual
    · rfl

/-- A socket made for a signature fails with the failure of connecting it, or of closing it after
that failed. -/
theorem createConnected_shielded (g : Signature) (d : Option String) :
    Shielded (createConnected H g d) := by
  intro w
  have hcreate := create_shielded hH (.int g.family.value) (.int g.type.value)
    (.int g.protocol.value) d w
  unfold createConnected Ends at *
  simp only [bind, EStateM.bind]
  rcases hc : create H _ _ _ d w with ⟨s, w₁⟩ | ⟨f, w₁⟩
  · have hconn := connectUsing_shielded hH g (s, w₁)
    unfold Ends at hconn
    rcases h : connectUsing H g (s, w₁) with ⟨_, ⟨s', w'⟩⟩ | ⟨f, ⟨s', w'⟩⟩
    · simp [h]
    · -- a failed connection is closed, and the failure of one or the other reported
      have hclose := close_shielded hH (s', w')
      unfold Ends at hclose
      rw [h] at hconn
      rcases hcl : close H (s', w') with ⟨_, ⟨_, w''⟩⟩ | ⟨f', ⟨_, w''⟩⟩ <;> simp_all
  · simp_all

end Natives

/-! ## What becomes of a delegate's failure -/

section Hooks

variable {α : Type} {H : Host σ} {st : Socket × σ} {e : DelegateError} {w : σ}

theorem sys_error {act : EStateM Failure σ α} {f : Failure} (h : act st.2 = .error f w) :
    sys act st = .error f (st.1, w) := by
  obtain ⟨s, w₀⟩ := st
  simp only at h
  simp [sys, h]

theorem attempt_error {op : SocketM σ α} {f : Failure} {st' : Socket × σ}
    (h : op st = .error f st') : attempt op st = .ok (.error f) st' := by
  have hmap : ((Except.ok : α → Except Failure α) <$> op) st = .error f st' := by
    simp only [Functor.map, EStateM.map, h]
  change EStateM.tryCatch (Except.ok <$> op) _ st = _
  delta EStateM.tryCatch
  dsimp only
  rw [hmap]
  rfl

/-- A lifecycle hook's failure reaches the caller as the socket failure with the delegate's code
and reason; a request to retry is no exception. -/
theorem callDelegate_delegate {act : EStateM Failure σ α} (h : act st.2 = .error (.delegate e) w) :
    callDelegate act st = .error (.socket { code := e.code, reason := some e.reason }) (st.1, w) := by
  obtain ⟨s, w₀⟩ := st
  simp only at h
  change EStateM.tryCatch (sys act) _ (s, w₀) = _
  delta EStateM.tryCatch
  dsimp only
  rw [sys_error h]
  rfl

/-- A send that the delegate asks to retry waits until the socket is writable and asks again;
any other failure of the delegate's comes back as the socket failure with its code and reason. -/
theorem delegateSend_delegate {d : String} {data : List UInt8} {fuel : Nat}
    (h : H.delegates.send d st.1.native data st.2 = .error (.delegate e) w) :
    delegateSend H d data (fuel + 1) st =
      if e.isRetry then (waitUntil H false true >>= fun _ => delegateSend H d data fuel) (st.1, w)
      else .error (.socket { code := e.code, reason := some e.reason }) (st.1, w) := by
  rw [delegateSend, bind_run current_run, bind_run (attempt_error (sys_error h))]
  cases hr : e.isRetry
  case false =>
    simp [hr]
    rfl
  case true => simp [hr]

/-- A receive that the delegate asks to retry waits until the socket is readable and asks again
when it is the first of a drain, and fails as a receive that would have to wait otherwise; any
other failure of the delegate's comes back as the socket failure with its code and reason. -/
theorem delegateRecv_delegate {d : String} {first : Bool} {fuel : Nat}
    (h : H.delegates.recv d st.1.native st.1.readBufferSize st.2 = .error (.delegate e) w) :
    delegateRecv H d first (fuel + 1) st =
      if e.isRetry then
        if first then (waitUntil H true false >>= fun _ => delegateRecv H d true fuel) (st.1, w)
        else .error wouldWait (st.1, w)
      else .error (.socket { code := e.code, reason := some e.reason }) (st.1, w) := by
  rw [delegateRecv, bind_run current_run, bind_run (attempt_error (sys_error h))]
  cases hr : e.isRetry
  case false =>
    simp [hr]
    rfl
  case true =>
    cases first
    case false =>
      simp [hr]
      rfl
    case true => simp [hr]

/-- A request to retry a receive after the first of a drain ends the drain as a receive that
would have to wait does: with what is stored so far. -/
theorem drain_retry_later {h : Handle} {d : String} {fuel : Nat} (hd : st.1.delegate = some d)
    (hs : st.1.storage ≠ [])
    (hrecv : H.delegates.recv d st.1.native st.1.readBufferSize st.2 = .error (.delegate e) w)
    (hr : e.isRetry = true) :
    drain H h (fuel + 1) st = .ok st.1.storage.length (st.1, w) := by
  -- the receive is not the first, so the retry comes back as the would-block failure
  have hrecvOnce : recvOnce H h false st = .error wouldWait (st.1, w) := by
    rw [recvOnce, bind_run current_run]
    simp only [hd]
    show delegateRecv H d false (H.delegates.recvRetries d st.2 + 1) st = _
    simp [delegateRecv_delegate hrecv, hr]
  have hfalse : st.1.storage.isEmpty = false := by simpa using hs
  rw [drain, bind_run current_run, hfalse, bind_run (attempt_error hrecvOnce)]
  rfl

end Hooks

end Socket

namespace Op

open Socket

theorem acceptedBy_shielded (H : Host σ) (listener : Socket) :
    Shielded ((Op.acceptedBy listener).perform H) := by
  intro st
  simp only [perform, ↓ends_bind, ↓ends_current, ↓ends_within,
    ↓ends_of_shielded (invokeOnAccept_shielded H _)]
  simp +contextual [rethrow, ends_throw, ends_pure, ends_change]

variable {H : Host σ} (hH : H.SystemFailures)
include hH

/-- On a host whose native calls fail as a system does, no operation fails with a delegate's own
failure, whatever the delegate's hooks return or fail with. -/
theorem perform_shielded (op : Op) : Shielded (op.perform H) := by
  cases op
  case listen => exact (listen_shielded hH _ _ _ _).bind fun _ => .pure _
  case listenUnix => exact (listenUnix_shielded hH _ _).bind fun _ => .pure _
  case connect => exact (connect_shielded hH _ _ _).bind fun _ => .pure _
  case connectUnix => exact (connectUnix_shielded hH _).bind fun _ => .pure _
  case connectUsing => exact (connectUsing_shielded hH _).bind fun _ => .pure _
  case acceptClient => exact (acceptClient_shielded hH _).bind fun _ => .pure _
  case acceptConnection => exact (acceptConnection_shielded hH).bind fun _ => .pure _
  case invokeOnAccept => exact (invokeOnAccept_shielded H _).bind fun _ => .pure _
  case acceptedBy listener => exact acceptedBy_shielded H listener
  case write => exact (write_shielded hH _).bind fun _ => .pure _
  case writeTo => exact (writeTo_shielded hH _ _).bind fun _ => .pure _
  case readInto => exact (readInto_shielded hH _ _ _).bind fun _ => .pure _
  case readData => exact readData_shielded hH
  case readString => exact readData_shielded hH
  case readDatagramInto => exact (readDatagramInto_shielded hH _).bind fun _ => .pure _
  case readDatagram => exact (recvDatagram_shielded hH).bind fun _ => .pure _
  case listenForMessage => exact (listenForMessage_shielded hH _ _ _).bind fun _ => .pure _
  case setBlocking => exact (setBlocking_shielded hH _).bind fun _ => .pure _
  case setReadTimeout => exact (setTimeout_shielded hH _ _ _).bind fun _ => .pure _
  case setWriteTimeout => exact (setTimeout_shielded hH _ _ _).bind fun _ => .pure _
  case udpBroadcast => exact (udpBroadcast_shielded hH _).bind fun _ => .pure _
  case resizeReadBuffer => exact (resizeReadBuffer_shielded _).bind fun _ => .pure _
  case setDelegate => exact (setDelegate_shielded _).bind fun _ => .pure _
  case readiness => exact (readiness_shielded hH _ _).bind fun _ => .pure _
  case close => exact (close_shielded hH).bind fun _ => .pure _

end Op

/-! ## The codes a failure carries -/

theorem ErrorCode.index_lt (c : ErrorCode) : c.index < 35 := by
  cases c <;> decide

/-- A code names one of the library's codes exactly when it lies in `-9999..-9965`. -/
theorem ErrorCode.ofInt?_isSome_iff (n : Int) :
    (ErrorCode.ofInt? n).isSome ↔ -9999 ≤ n ∧ n ≤ -9965 := by
  constructor
  · intro h
    obtain ⟨c, hc⟩ := Option.isSome_iff_exists.1 h
    have hv := ErrorCode.value_ofInt? hc
    have hi := c.index_lt
    simp only [ErrorCode.value] at hv
    omega
  · rintro ⟨hlo, hhi⟩
    -- every offset from the first code is the position of some code
    have hall : ∀ k : Nat, k < 35 → (ErrorCode.ofInt? (-9999 + (k : Int))).isSome := by decide
    have hn := hall (n + 9999).toNat (by omega)
    rwa [show -9999 + ((n + 9999).toNat : Int) = n by omega] at hn

/-! ## Delegate failures reach the caller translated -/

/-- On a host whose native calls fail as a system does, a delegate's own failure never reaches
the caller of an operation, of the making of a socket, or of its adoption, whatever the hooks
return or fail with at any call. A lifecycle hook's failure comes back as the socket failure with
the delegate's code and reason, a request to retry included. A send the delegate asks to retry
waits until writable and asks again, and so does the first receive of a drain, until readable; a
later receive's request ends the drain with what is stored, as a receive that would wait does.
Any other failure of a send or a receive comes back as the socket failure with the delegate's
code and reason, and that code names one of the library's codes exactly when it lies in
`-9999..-9965`. -/
theorem delegate_failures_translated {σ : Type} (H : Host σ) (hH : H.SystemFailures) :
    (∀ op : Op, Shielded (op.perform H)) ∧
    (∀ family type proto d, Shielded (Socket.create H family type proto d)) ∧
    (∀ g d, Shielded (Socket.createConnected H g d)) ∧
    (∀ fd address d, Shielded (Socket.adopt H fd address d)) ∧
    (∀ (α : Type) (act : EStateM Failure σ α) (st : Socket × σ) (e : DelegateError) (w : σ),
      act st.2 = .error (.delegate e) w →
        Socket.callDelegate act st =
          .error (.socket { code := e.code, reason := some e.reason }) (st.1, w)) ∧
    (∀ d data fuel (st : Socket × σ) (e : DelegateError) w,
      H.delegates.send d st.1.native data st.2 = .error (.delegate e) w →
        Socket.delegateSend H d data (fuel + 1) st =
          if e.isRetry then
            (Socket.waitUntil H false true >>= fun _ => Socket.delegateSend H d data fuel) (st.1, w)
          else .error (.socket { code := e.code, reason := some e.reason }) (st.1, w)) ∧
    (∀ d first fuel (st : Socket × σ) (e : DelegateError) w,
      H.delegates.recv d st.1.native st.1.readBufferSize st.2 = .error (.delegate e) w →
        Socket.delegateRecv H d first (fuel + 1) st =
          if e.isRetry then
            if first then
              (Socket.waitUntil H true false >>= fun _ => Socket.delegateRecv H d true fuel) (st.1, w)
            else .error Socket.wouldWait (st.1, w)
          else .error (.socket { code := e.code, reason := some e.reason }) (st.1, w)) ∧
    (∀ h d fuel (st : Socket × σ) (e : DelegateError) w, st.1.delegate = some d →
      st.1.storage ≠ [] →
      H.delegates.recv d st.1.native st.1.readBufferSize st.2 = .error (.delegate e) w →
      e.isRetry = true → Socket.drain H h (fuel + 1) st = .ok st.1.storage.length (st.1, w)) ∧
    (∀ n, (ErrorCode.ofInt? n).isSome ↔ -9999 ≤ n ∧ n ≤ -9965) :=
  ⟨Op.perform_shielded hH, Socket.create_shielded hH, Socket.createConnected_shielded hH,
    Socket.adopt_shielded hH, fun _ _ _ _ _ h => Socket.callDelegate_delegate h,
    fun _ _ _ _ _ _ h => Socket.delegateSend_delegate h,
    fun _ _ _ _ _ _ h => Socket.delegateRecv_delegate h,
    fun _ _ _ _ _ _ hd hs h hr => Socket.drain_retry_later hd hs h hr, ErrorCode.ofInt?_isSome_iff⟩

/-- A host on which every native call succeeds at once and every delegate hook asks to be called
again, more often than the delegates say they will. -/
def retryingHost : Host Unit where
  fileno _ _ := 3
  family _ _ := 2
  socketType _ _ := 1
  blocking _ _ := true
  interruptions _ _ := 0
  create _ _ _ := pure ⟨1⟩
  adopt _ := pure ⟨1⟩
  close _ := pure ()
  shutdown _ _ := pure ()
  setBlocking _ _ := pure ()
  setOption _ _ _ := pure ()
  bind _ _ := pure ()
  listen _ _ := pure ()
  accept _ := pure (⟨2⟩, .none)
  connect _ _ := pure ()
  sockName _ := pure .none
  pendingError _ := pure 0
  recv _ _ _ := pure []
  recvFrom _ _ := pure ([], .none)
  send _ data := pure data.length
  sendTo _ data _ := pure data.length
  select readable writable _ := pure (readable, writable)
  unlink _ := pure ()
  resolve _ _ _ := pure []
  delegates :=
    { setUp := fun _ _ => throw (.delegate .retry)
      tearDown := fun _ => throw (.delegate .retry)
      onAccept := fun _ _ => throw (.delegate .retry)
      onConnect := fun _ _ => throw (.delegate .retry)
      send := fun _ _ _ => throw (.delegate .retry)
      recv := fun _ _ _ => throw (.delegate .retry)
      sendRetries := fun _ _ => 0
      recvRetries := fun _ _ => 0 }

theorem retryingHost_systemFailures : retryingHost.SystemFailures where
  create _ _ _ _ := trivial
  adopt _ _ := trivial
  close _ _ := trivial
  shutdown _ _ _ := trivial
  setBlocking _ _ _ := trivial
  setOption _ _ _ _ := trivial
  bind _ _ _ := trivial
  listen _ _ _ := trivial
  accept _ _ := trivial
  connect _ _ _ := trivial
  sockName _ _ := trivial
  pendingError _ _ := trivial
  recv _ _ _ _ := trivial
  recvFrom _ _ _ := trivial
  send _ _ _ := trivial
  sendTo _ _ _ _ := trivial
  select _ _ _ _ := trivial
  unlink _ _ := trivial
  resolve _ _ _ _ := trivial

/-- Though every hook of this host fails with a delegate's failure, no operation does. -/
theorem retrying_hooks_never_escape :
    retryingHost.SystemFailures ∧ ∀ op : Op, Shielded (op.perform retryingHost) :=
  ⟨retryingHost_systemFailures,
    (delegate_failures_translated retryingHost retryingHost_systemFailures).1⟩

end Sockets
