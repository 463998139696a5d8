import Sockets.Proofs.Tracing
import Sockets.Proofs.Written
import Sockets.Proofs.Closed

/-!
# What closing calls

On a tracing host, closing a socket makes its calls in a fixed order, and what it raises is read
off their answers (`close_answered`):

* *Undoing the preparation.*  When the socket is prepared, its delegate is asked once to undo the
  preparation, and the socket forgets it first (`undoCalls`, `undoResult`).
* *Letting go.*  A listener is shut down, whatever that answers, and the native socket closed
  (`nativeCalls`); then the node the socket owns is forgotten and unlinked, a node gone already
  being no failure, unless closing the native socket failed (`releaseCalls`, `releaseResult`).
* *Reporting.*  A failure to let go is raised before a failure to undo the preparation
  (`closeFailure`).

Whatever the answers, the socket ends closed (`closeWith_lands`). A closed socket that owns no
node and has nothing to undo is `Settled`, and closing it again makes no call and changes
nothing, on every host (`close_settled`).
-/

namespace Sockets

namespace Socket

open Host

variable {σ : Type} (H : Host σ)

/-! ## The calls of closing, from their answers -/

/-- Whether closing the native socket of `s` failed, by its answer. -/
def nativeRefused (s : Socket) (released : Except Failure Unit) : Bool :=
  match released with
  | .error _ => s.native.isSome
  | .ok _ => false

/-- The node closing `s` keeps: the one it owns, when closing its native socket failed. -/
def keptNode (s : Socket) (released : Except Failure Unit) : Option Value :=
  if nativeRefused s released then s.ownedPath else none

/-- The call undoing the delegate's preparation, with its answer: one, when the socket is
prepared and has a delegate. -/
def undoCalls (s : Socket) (undone : Except Failure Unit) : List HostCall :=
  if s.delegateReady then s.delegate.toList.map fun d => .tearDown d undone else []

/-- What undoing the preparation gives: the delegate's failure, as the socket's. -/
def undoResult (s : Socket) (undone : Except Failure Unit) : Except Failure Unit :=
  if s.delegateReady && s.delegate.isSome then
    match undone with
    | .error f => .error (delegated f)
    | .ok _ => .ok ()
  else .ok ()

/-- The calls closing a native socket makes, with the answer of the closing: a listener is shut
down first. -/
def nativeCalls (native : Option Handle) (listening : Bool) (released : Except Failure Unit) :
    List HostCall :=
  match native with
  | some h => (if listening then [.shutdown h 2] else []) ++ [.close h released]
  | none => []

/-- The call unlinking a node, with its answer. -/
def unlinkCalls (node : Option Value) (unlinked : Except Failure Unit) : List HostCall :=
  node.toList.map fun p => .unlink p unlinked

/-- What unlinking a node gives: its failure, unless the node is gone already. -/
def unlinkResult (node : Option Value) (unlinked : Except Failure Unit) : Except Failure Unit :=
  match node with
  | some _ =>
    match unlinked with
    | .error f => if f.errno? == some Errno.enoent then .ok () else .error f
    | .ok _ => .ok ()
  | none => .ok ()

/-- The calls letting the native socket and the node of `s` go make: the node is unlinked after
the native socket is closed, and not at all when that failed. -/
def releaseCalls (s : Socket) (released unlinked : Except Failure Unit) : List HostCall :=
  nativeCalls s.native s.listening released ++
    if nativeRefused s released then [] else unlinkCalls s.ownedPath unlinked

/-- What letting them go gives: the native socket's failure to close, else the node's. -/
def releaseResult (s : Socket) (released unlinked : Except Failure Unit) : Except Failure Unit :=
  if nativeRefused s released then released else unlinkResult s.ownedPath unlinked

/-- The calls closing `s` makes: the preparation is undone before the native socket and the
node are let go. -/
def closeCalls (s : Socket) (undone released unlinked : Except Failure Unit) : List HostCall :=
  undoCalls s undone ++ releaseCalls s released unlinked

/-- The failure closing `s` raises, none when it returns: letting go fails first, undoing the
preparation after. -/
def closeFailure (s : Socket) (undone released unlinked : Except Failure Unit) :
    Option Failure :=
  match releaseResult s released unlinked, undoResult s undone with
  | .error f, _ => some f
  | .ok _, .error f => some f
  | .ok _, .ok _ => none

/-- What closing `s` after `trace` leaves of the trace and the node, having raised `raised`
(none when it returned): for the answers its calls got, the calls are written after `trace`, the
node is the one kept, and the failure is the one those answers make. -/
def Answered (s : Socket) (trace : List HostCall) (raised : Option Failure)
    (st' : Socket × (σ × List HostCall)) : Prop :=
  ∃ undone released unlinked, st'.2.2 = trace ++ closeCalls s undone released unlinked ∧
    st'.1.ownedPath = keptNode s released ∧ raised = closeFailure s undone released unlinked

/-! ## Running the steps of closing on a tracing host -/

variable {t : Socket} {w : σ} {trace : List HostCall}

theorem closeNative_traced (native : Option Handle) (listening : Bool) :
    Ends (closeNative H.tracing native listening) (t, (w, trace))
      (fun _ st' => st'.1 = t ∧ st'.2.2 = trace ++ nativeCalls native listening (.ok ()))
      (fun e st' => native.isSome ∧ st'.1 = t ∧
        st'.2.2 = trace ++ nativeCalls native listening (.error e)) := by
  cases native with
  | none => simp [closeNative, nativeCalls, ends_pure]
  | some h =>
    -- the shutdown's answer is written down and then let go
    cases listening <;>
      simp [closeNative, nativeCalls, ends_bind, ends_attempt, ends_sys_traced]

theorem removeOwnedPath_traced :
    Ends (removeOwnedPath H.tracing) (t, (w, trace))
      (fun _ st' => st'.1.ownedPath = none ∧
        ∃ unlinked, unlinkResult t.ownedPath unlinked = .ok () ∧
          st'.2.2 = trace ++ unlinkCalls t.ownedPath unlinked)
      (fun e st' => st'.1.ownedPath = none ∧
        ∃ unlinked, unlinkResult t.ownedPath unlinked = .error e ∧
          st'.2.2 = trace ++ unlinkCalls t.ownedPath unlinked) := by
  cases ho : t.ownedPath with
  | none => simp [ends_removeOwnedPath, ho, unlinkResult, unlinkCalls]
  | some p =>
    -- a node that is gone already is no failure
    simp [ends_removeOwnedPath, ho, ends_tryCatch, ends_sys_traced, ends_ite, ends_pure,
      ends_throw, unlinkResult, unlinkCalls]

/-- Letting the native socket and the node go, as closing does it, never fails: it gives the
failure its answers make, and forgets the node unless closing the native socket failed. -/
theorem release_traced (s : Socket) (ho : t.ownedPath = s.ownedPath) :
    Ends (attempt (closeNative H.tracing s.native s.listening >>= fun _ =>
        removeOwnedPath H.tracing)) (t, (w, trace))
      (fun second st' => ∃ released unlinked, second = releaseResult s released unlinked ∧
        st'.1.ownedPath = keptNode s released ∧
        st'.2.2 = trace ++ releaseCalls s released unlinked)
      (fun _ _ => False) := by
  simp only [ends_attempt, ↓ends_bind]
  refine ends_mono (closeNative_traced H s.native s.listening) ?_ ?_
  · -- the native socket is closed: the node is removed
    rintro - ⟨t', w', tr'⟩ ⟨rfl, htr⟩
    refine ends_mono (removeOwnedPath_traced H) ?_ ?_
    · rintro - st' ⟨hnone, unlinked, hres, htr'⟩
      refine ⟨.ok (), unlinked, ?_, ?_, ?_⟩ <;>
        simp_all [releaseResult, keptNode, nativeRefused, releaseCalls]
    · rintro e st' ⟨hnone, unlinked, hres, htr'⟩
      refine ⟨.ok (), unlinked, ?_, ?_, ?_⟩ <;>
        simp_all [releaseResult, keptNode, nativeRefused, releaseCalls]
  · -- closing the native socket failed: the node is kept
    rintro e ⟨t', w', tr'⟩ ⟨hsome, rfl, htr⟩
    refine ⟨.error e, .ok (), ?_, ?_, ?_⟩ <;>
      simp_all [releaseResult, keptNode, nativeRefused, releaseCalls]

/-- Closing on a tracing host: the calls it makes and the failure it raises are those of the
answers the calls got, and it forgets the node unless closing the native socket failed. -/
theorem close_answered (s : Socket) (w : σ) (trace : List HostCall) :
    Ends (close H.tracing) (s, (w, trace)) (fun _ st' => Answered s trace none st')
      (fun e st' => Answered s trace (some e) st') := by
  simp only [close, closeWith, ↓ends_bind, ↓ends_current, ↓ends_change]
  refine ends_mono (show Ends _ _ (fun first st₁ => ∃ undone, first = undoResult s undone ∧
      st₁.1.ownedPath = s.ownedPath ∧ st₁.2.2 = trace ++ undoCalls s undone)
      (fun _ _ => False) from ?undo) ?_ (fun _ _ h => h.elim)
  case undo =>
    -- the preparation is undone only when the socket is prepared and has a delegate
    cases hr : s.delegateReady <;> cases hd : s.delegate <;>
      simp [hr, hd, ends_attempt, ends_bind, ends_change, ends_pure, ends_callDelegate,
        ends_sys_traced, undoResult, undoCalls]
  rintro first ⟨t₁, w₁, tr₁⟩ ⟨undone, rfl, ho₁, rfl⟩
  refine ends_mono (release_traced H s ho₁) ?_ (fun _ _ h => h.elim)
  rintro second st₂ ⟨released, unlinked, rfl, ho₂, htr₂⟩
  -- letting go fails first, undoing the preparation after
  cases hrel : releaseResult s released unlinked <;> cases hun : undoResult s undone <;>
    simp only [ends_throw, ends_pure] <;>
    exact ⟨undone, released, unlinked, by simp [closeCalls, htr₂], ho₂,
      by simp [closeFailure, hrel, hun]⟩

/-! ## Closing again -/

/-- A socket that closing leaves as it is: closed, owning no node, and with no preparation to
undo. -/
structure Settled (s : Socket) : Prop extends Closed s where
  noNode : s.ownedPath = none
  nothingToUndo : (s.delegateReady && s.delegate.isSome) = false

/-- Closing a settled socket returns and changes nothing, on every host: no call is made. -/
theorem close_settled {τ : Type} (H' : Host τ) {s : Socket} (hs : Settled s) (v : τ) :
    close H' (s, v) = .ok () (s, v) := by
  -- every field closing resets already has the value it resets it to
  obtain ⟨native, ⟨family, type, protocol, hostname, port, path, address, isSecure, isBound⟩,
    delegate, ready, awaiting, connected, listening, blocking, remoteClosed, size, storage,
    backlog, ownedPath⟩ := s
  obtain ⟨⟨⟨hn, hc, hl, hst, hh, hp, hpath⟩, hsec⟩, ho, hd⟩ := hs
  simp only at hn hc hl hst hh hp hpath hsec ho hd
  subst hn hc hl hst hh hp hpath hsec ho
  apply eq_ok_of_ends
  cases ready <;> cases delegate <;> simp_all [close, closeWith, closeNative, ends_bind,
    ends_current, ends_change, ends_attempt, ends_pure, ends_removeOwnedPath,
    ends_tryCatch]

/-- The socket closing leaves, owning no node, is settled. -/
theorem afterClose_settled (s : Socket) : Settled (s.afterClose true none) := by
  refine ⟨⟨?_, ?_⟩, rfl, ?_⟩ <;> cases s.delegate <;> simp [afterClose]

/-! ## Closing -/

/-- What a close of `s` after `trace` that raised `raised` (none when it returned) leaves in
`st'`: the calls of `closeCalls` written after `trace`, with the failure their answers make; a
closed socket without descriptor; and, unless it still owns a node, one that closing again
leaves as it is, on every host. -/
structure ClosesOnce (s : Socket) (trace : List HostCall) (raised : Option Failure)
    (st' : Socket × (σ × List HostCall)) : Prop where
  answered : Answered s trace raised st'
  closed : Closed st'.1
  noDescriptor : ∀ {τ : Type} (H' : Host τ) (v : τ), descriptor H' st'.1 v = -1
  again : st'.1.ownedPath = none → ∀ {τ : Type} (H' : Host τ) (v : τ),
    close H' (st'.1, v) = .ok () (st'.1, v)

theorem ClosesOnce.of_answered {s : Socket} {raised : Option Failure}
    {st' : Socket × (σ × List HostCall)} (hans : Answered s trace raised st')
    (hland : st'.1 = s.afterClose true st'.1.ownedPath) : ClosesOnce s trace raised st' where
  answered := hans
  closed := by rw [hland]; simp [afterClose]
  noDescriptor := fun {_} H' v => by rw [hland]; rfl
  again := fun ho {_} H' v => by
    rw [hland, ho]
    exact close_settled H' (afterClose_settled s) v

/-- Closing, on every host and from every socket, whether it returns or fails, leaves the socket
closed with descriptor -1. The calls it makes are those of `closeCalls` with the answers they
got: the delegate's preparation undone once if the socket was prepared, a listener shut down
before its native socket is closed, whatever the shutdown answered, and the node the socket
owns unlinked unless closing the native socket failed. It fails with the failure those answers
make, and closing again, but for a node kept, makes no call and changes nothing. -/
theorem close_resets_once (s : Socket) (w : σ) (trace : List HostCall) :
    Ends (close H.tracing) (s, (w, trace)) (fun _ st' => ClosesOnce s trace none st')
      (fun e st' => ClosesOnce s trace (some e) st') :=
  ends_mono (ends_and (close_answered H s w trace) (closeWith_lands H.tracing true (s, (w, trace))))
    (fun _ _ h => ClosesOnce.of_answered h.1 h.2) (fun _ _ h => ClosesOnce.of_answered h.1 h.2)

end Socket

end Sockets
