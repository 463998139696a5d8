import Sockets.Socket.Basic

/-!
# What a program ends in

A program of the library is a function from a state to a result: a value or a failure, each
with the state left behind. `Ends prog st ok err` says that `prog`, run from `st`, ends in `ok`
when it returns and in `err` when it fails.

*Running a program on paper.*  The equations of this file push `Ends` through the monad and
through the socket's own steps. Used as pre-order rewrites (`simp only [↓ends_bind, …]`) they
run a program from its first step: a branch that fails stops there, before its continuation is
looked at, so the join points of `do` blocks are never unfolded into dead code. A system call
becomes two implications, one for each way it can end, so a property that does not depend on
what the system answered simplifies away.

*Leaving the socket alone.*  `Fixes prog` says that `prog` ends with the socket it started
with, whatever it does to the system. Checks, system calls and reads of the socket fix it; the
only step that changes it is `change`. `Keeps view prog` says less: the socket may change, but
not in what `view` shows of it.
-/

namespace Sockets

/-- Running `prog` from `st` ends in `ok` when it returns and in `err` when it fails, each
applied to the state left behind. -/
def Ends {ε S α : Type} (prog : EStateM ε S α) (st : S) (ok : α → S → Prop)
    (err : ε → S → Prop) : Prop :=
  match prog st with
  | .ok a st' => ok a st'
  | .error e st' => err e st'

/-! ## The monad -/

section Monad

variable {ε S α β : Type} {st : S} {ok : β → S → Prop} {err : ε → S → Prop}

theorem ends_pure (a : β) : Ends (pure a : EStateM ε S β) st ok err = ok a st := rfl

theorem ends_throw (e : ε) : Ends (throw e : EStateM ε S β) st ok err = err e st := rfl

theorem ends_bind (x : EStateM ε S α) (f : α → EStateM ε S β) :
    Ends (x >>= f) st ok err = Ends x st (fun a st' => Ends (f a) st' ok err) err := by
  simp only [Ends, bind, EStateM.bind]
  cases x st <;> rfl

theorem ends_map (x : EStateM ε S α) (f : α → β) :
    Ends (f <$> x) st ok err = Ends x st (fun a st' => ok (f a) st') err := by
  simp only [Ends, Functor.map, EStateM.map]
  cases x st <;> rfl

/-- A handler runs from the state the failure left: the library's programs do not roll back. -/
theorem tryCatch_run (x : EStateM ε S β) (h : ε → EStateM ε S β) (st : S) :
    (tryCatch x h : EStateM ε S β) st = match x st with
      | .ok a s => .ok a s
      | .error e s => h e s := by
  -- the state is not backtrackable, so nothing is saved before `x` runs
  change EStateM.tryCatch x h st = _
  delta EStateM.tryCatch
  dsimp only
  cases x st <;> rfl

/-- A handler sees the state the failure left. -/
theorem ends_tryCatch (x : EStateM ε S β) (h : ε → EStateM ε S β) :
    Ends (tryCatch x h) st ok err = Ends x st ok (fun e st' => Ends (h e) st' ok err) := by
  simp only [Ends, tryCatch_run]
  cases x st <;> rfl

theorem ends_ite (c : Prop) [Decidable c] (x y : EStateM ε S β) :
    Ends (if c then x else y) st ok err = if c then Ends x st ok err else Ends y st ok err := by
  split <;> rfl

theorem ends_mono {prog : EStateM ε S β} {ok' : β → S → Prop} {err' : ε → S → Prop}
    (h : Ends prog st ok err) (hok : ∀ a st', ok a st' → ok' a st')
    (herr : ∀ e st', err e st' → err' e st') : Ends prog st ok' err' := by
  unfold Ends at h ⊢
  split at h <;> simp_all

theorem ends_and {ok' : β → S → Prop} {err' : ε → S → Prop} {prog : EStateM ε S β}
    (h : Ends prog st ok err) (h' : Ends prog st ok' err') :
    Ends prog st (fun a st' => ok a st' ∧ ok' a st') (fun e st' => err e st' ∧ err' e st') := by
  unfold Ends at h h' ⊢
  split at h <;> simp_all

/-- A step the equations do not see into ends in `ok` wherever it returns and in `err` wherever
it fails. -/
theorem ends_eq (prog : EStateM ε S β) :
    Ends prog st ok err =
      ((∀ a st', prog st = .ok a st' → ok a st') ∧ ∀ e st', prog st = .error e st' → err e st') := by
  unfold Ends
  split <;> simp_all

theorem ends_of_forall {prog : EStateM ε S β} (hok : ∀ a st', ok a st')
    (herr : ∀ e st', err e st') : Ends prog st ok err := by
  unfold Ends
  split
  · exact hok _ _
  · exact herr _ _

/-- A run that ends in `ok` wherever it returns ends there. -/
theorem ok_of_ends {prog : EStateM ε S β} {st' : S} {a : β} (h : Ends prog st ok err)
    (hrun : prog st = .ok a st') : ok a st' := by
  unfold Ends at h
  rw [hrun] at h
  exact h

/-- A run that ends in `err` wherever it fails ends there. -/
theorem err_of_ends {prog : EStateM ε S β} {st' : S} {e : ε} (h : Ends prog st ok err)
    (hrun : prog st = .error e st') : err e st' := by
  unfold Ends at h
  rw [hrun] at h
  exact h

/-- A run known to return ends as `ok` says. -/
theorem ends_of_ok {prog : EStateM ε S β} {st' : S} {a : β} (hrun : prog st = .ok a st') :
    Ends prog st ok err = ok a st' := by
  simp only [Ends, hrun]

/-- A run known to fail ends as `err` says. -/
theorem ends_of_error {prog : EStateM ε S β} {st' : S} {e : ε} (hrun : prog st = .error e st') :
    Ends prog st ok err = err e st' := by
  simp only [Ends, hrun]

/-- A run that ends in `ok` only with `a` and `st'`, and never fails, returns `a` in `st'`. -/
theorem eq_ok_of_ends {prog : EStateM ε S β} {st' : S} {a : β}
    (h : Ends prog st (fun r s => r = a ∧ s = st') (fun _ _ => False)) : prog st = .ok a st' := by
  unfold Ends at h
  split at h
  · obtain ⟨rfl, rfl⟩ := h
    assumption
  · exact h.elim

/-- A run that never returns and fails only with `e` in `st'` fails so. -/
theorem eq_error_of_ends {prog : EStateM ε S β} {st' : S} {e : ε}
    (h : Ends prog st (fun _ _ => False) (fun e' s => e' = e ∧ s = st')) :
    prog st = .error e st' := by
  unfold Ends at h
  split at h
  · exact h.elim
  · obtain ⟨rfl, rfl⟩ := h
    assumption

theorem ends_get {ok : S → S → Prop} : Ends (get : EStateM ε S S) st ok err = ok st st := rfl

/-- A property of nothing but the program's having ended holds at the end when it holds now. -/
@[simp] theorem ends_const (prog : EStateM ε S β) (p : Prop) :
    Ends prog st (fun _ _ => p) (fun _ _ => p) = p := by
  unfold Ends
  split <;> rfl

end Monad

/-! ## The steps of a socket operation -/

namespace Socket

variable {σ α : Type} {st : Socket × σ} {ok : α → Socket × σ → Prop}
  {err : Failure → Socket × σ → Prop}

/-- A system call ends with the socket it found, in whatever system the call leaves. -/
theorem ends_sys (act : EStateM Failure σ α) :
    Ends (sys act) st ok err =
      ((∀ a w, act st.2 = .ok a w → ok a (st.1, w)) ∧
        ∀ e w, act st.2 = .error e w → err e (st.1, w)) := by
  obtain ⟨s, w⟩ := st
  simp only [Ends, sys]
  cases act w <;> simp

/-- A native call is stepped over with what it is known to end in. -/
theorem ends_sys_of {act : EStateM Failure σ α} {P : σ → α → σ → Prop}
    {Q : σ → Failure → σ → Prop} (hact : ∀ w, Ends act w (P w) (Q w)) :
    Ends (sys act) st ok err =
      ((∀ a w, act st.2 = .ok a w → P st.2 a w → ok a (st.1, w)) ∧
        ∀ e w, act st.2 = .error e w → Q st.2 e w → err e (st.1, w)) := by
  have hw := hact st.2
  rw [ends_sys]
  unfold Ends at hw
  split at hw <;> simp_all

/-- A system call whose answer is known returns it. -/
theorem ends_sys_ok {s : Socket} {w w' : σ} {act : EStateM Failure σ α} {a : α}
    (hrun : act w = .ok a w') : Ends (sys act) (s, w) ok err = ok a (s, w') := by
  simp [ends_sys, hrun]

/-- A system call whose failure is known raises it. -/
theorem ends_sys_error {s : Socket} {w w' : σ} {act : EStateM Failure σ α} {e : Failure}
    (hrun : act w = .error e w') : Ends (sys act) (s, w) ok err = err e (s, w') := by
  simp [ends_sys, hrun]

theorem ends_current {ok : Socket → Socket × σ → Prop} :
    Ends current st ok err = ok st.1 st := rfl

theorem ends_system {ok : σ → Socket × σ → Prop} :
    Ends system st ok err = ok st.2 st := rfl

theorem ends_change (f : Socket → Socket) {ok : Unit → Socket × σ → Prop} :
    Ends (change f) st ok err = ok () (f st.1, st.2) := rfl

theorem ends_changeSignature (f : Signature → Signature) {ok : Unit → Socket × σ → Prop} :
    Ends (changeSignature f) st ok err =
      ok () ({ st.1 with signature := f st.1.signature }, st.2) := rfl

theorem ends_attempt (op : SocketM σ α) {ok : Except Failure α → Socket × σ → Prop} :
    Ends (attempt op) st ok err = Ends op st (fun a => ok (.ok a)) (fun e => ok (.error e)) := by
  simp only [attempt, ends_tryCatch, ends_map, ends_pure]

theorem ends_rethrow (r : Except Failure α) :
    Ends (rethrow r) st ok err = ((∀ a, r = .ok a → ok a st) ∧ ∀ e, r = .error e → err e st) := by
  cases r <;> simp [rethrow, ends_pure, ends_throw]

/-- The failure `orCode` turns a failure into: an OS error becomes the code with its text. -/
def coded (code : ErrorCode) (f : Failure) : Failure :=
  if f.isOsError then Failure.code code (some f.reason) else f

theorem ends_orCode (code : ErrorCode) (op : SocketM σ α) :
    Ends (orCode code op) st ok err = Ends op st ok (fun e => err (coded code e)) := by
  simp only [orCode, coded, ends_tryCatch]
  congr 1
  funext e st'
  split <;> rfl

/-- The failure `callDelegate` turns a failure into: a delegate's own failure becomes a socket
failure. -/
def delegated (f : Failure) : Failure :=
  match f with
  | .delegate e => .socket e.toSocketError
  | other => other

theorem ends_callDelegate (act : EStateM Failure σ α) :
    Ends (callDelegate act) st ok err = Ends (sys act) st ok (fun e => err (delegated e)) := by
  simp only [callDelegate, ends_tryCatch]
  congr 1
  funext e st'
  cases e <;> rfl

/-- The descriptor check: an open native socket passes, anything else is a bad descriptor. -/
theorem ends_checkDescriptor (H : Host σ) {ok : Handle → Socket × σ → Prop} :
    Ends (checkDescriptor H) st ok err =
      ((∀ h, st.1.native = some h →
          if H.fileno h st.2 < 0 then err (Failure.code .badDescriptor) st else ok h st) ∧
        (st.1.native = none → err (Failure.code .badDescriptor) st)) := by
  cases hn : st.1.native <;>
    simp [checkDescriptor, hn, ends_bind, ends_current, ends_system, ends_ite, ends_throw,
      ends_pure]

theorem ends_prepareDelegate (H : Host σ) (asServer : Bool) {ok : Unit → Socket × σ → Prop} :
    Ends (prepareDelegate H asServer) st ok err =
      ((∀ d, st.1.delegate = some d →
          Ends (sys (H.delegates.setUp d asServer)) st
            (fun _ st' => ok () ({ st'.1 with delegateReady := true }, st'.2))
            (fun e => err (delegated e))) ∧
        (st.1.delegate = none → ok () st)) := by
  cases hd : st.1.delegate <;>
    simp [prepareDelegate, hd, ends_bind, ends_current, ends_pure, ends_callDelegate, ends_change]

theorem ends_secureWith (hook : String → Option Handle → EStateM Failure σ Unit)
    {ok : Unit → Socket × σ → Prop} :
    Ends (secureWith hook) st ok err =
      ((∀ d, st.1.delegate = some d →
          Ends (sys (hook d st.1.native)) st
            (fun _ st' =>
              ok () ({ st'.1 with signature := { st'.1.signature with isSecure := true } }, st'.2))
            (fun e => err (delegated e))) ∧
        (st.1.delegate = none → ok () st)) := by
  cases hd : st.1.delegate <;>
    simp [secureWith, hd, ends_bind, ends_current, ends_pure, ends_callDelegate,
      ends_changeSignature]

/-- Another socket's operation ends with this socket as it was. -/
theorem ends_within (t : Socket) (op : SocketM σ α)
    {ok : Except Failure α × Socket → Socket × σ → Prop} :
    Ends (within t op) st ok err =
      Ends op (t, st.2) (fun a st' => ok (.ok a, st'.1) (st.1, st'.2))
        (fun e st' => ok (.error e, st'.1) (st.1, st'.2)) := by
  obtain ⟨s, w⟩ := st
  simp only [Ends, within]
  cases op (t, w) <;> rfl

/-! ## Programs that fix the socket -/

/-- `prog` ends with the socket it started with, whatever it does to the system. -/
def Fixes (prog : SocketM σ α) : Prop :=
  ∀ st, Ends prog st (fun _ st' => st'.1 = st.1) (fun _ st' => st'.1 = st.1)

/-- What `prog` does to the system when run on the socket `s`, the socket it ends with
forgotten. -/
def onSystem (prog : SocketM σ α) (s : Socket) : EStateM Failure σ α := fun w =>
  match prog (s, w) with
  | .ok a st => .ok a st.2
  | .error e st => .error e st.2

/-- A socket-fixing program is a system call: it ends with the socket it found. -/
theorem ends_of_fixes {prog : SocketM σ α} (h : Fixes prog) :
    Ends prog st ok err =
      Ends (onSystem prog st.1) st.2 (fun a w => ok a (st.1, w)) (fun e w => err e (st.1, w)) := by
  have hst := h st
  obtain ⟨s, w⟩ := st
  rcases hp : prog (s, w) with ⟨a, ⟨s', w'⟩⟩ | ⟨e, ⟨s', w'⟩⟩ <;>
    simp only [Ends, onSystem, hp] at hst ⊢ <;> subst hst <;> rfl

theorem Fixes.bind {x : SocketM σ α} {β : Type} {f : α → SocketM σ β} (hx : Fixes x)
    (hf : ∀ a, Fixes (f a)) : Fixes (x >>= f) := by
  intro st
  rw [ends_bind, ends_of_fixes hx]
  simp only [ends_of_fixes (hf _), ends_const]

theorem Fixes.sys (act : EStateM Failure σ α) : Fixes (sys act) := by
  intro st
  simp [ends_sys]

theorem Fixes.pure (a : α) : Fixes (pure a : SocketM σ α) := fun _ => rfl

theorem current_fixes : Fixes (current : SocketM σ Socket) := fun _ => rfl

/-- A program that fixes the socket keeps every property of the socket. -/
theorem Fixes.keeps {prog : SocketM σ α} (h : Fixes prog) (P : Socket → Prop) :
    Ends prog st (fun _ st' => P st'.1) (fun _ st' => P st'.1) ↔ P st.1 := by
  simp [ends_of_fixes h]

/-! ## Programs that keep a part of the socket -/

section Keeps

variable {β γ : Type} {view : Socket → γ}

/-- `prog` ends with a socket that agrees on `view` with the one it started with. -/
def Keeps (view : Socket → γ) (prog : SocketM σ α) : Prop :=
  ∀ st, Ends prog st (fun _ st' => view st'.1 = view st.1) (fun _ st' => view st'.1 = view st.1)

/-- A program that keeps `view` ends in `ok` and `err` when these hold wherever the socket
agrees with the one it started with. -/
theorem Keeps.ends {prog : SocketM σ α} (h : Keeps view prog) (hok : ∀ a st', view st'.1 = view st.1 → ok a st')
    (herr : ∀ e st', view st'.1 = view st.1 → err e st') : Ends prog st ok err :=
  ends_mono (h st) hok herr

theorem Keeps.bind {x : SocketM σ α} {f : α → SocketM σ β} (hx : Keeps view x)
    (hf : ∀ a, Keeps view (f a)) : Keeps view (x >>= f) := by
  intro st
  rw [ends_bind]
  exact hx.ends (fun a st' h => (hf a).ends (fun _ _ h' => h'.trans h) (fun _ _ h' => h'.trans h))
    (fun _ _ h => h)

theorem Fixes.keepsView {prog : SocketM σ α} (h : Fixes prog) (view : Socket → γ) :
    Keeps view prog := fun st =>
  ends_mono (h st) (fun _ _ h => h ▸ rfl) (fun _ _ h => h ▸ rfl)

end Keeps

end Socket

end Sockets
