import Sockets.Proofs.Conservation

/-!
# The delegate is undone by a close, once, after it was prepared

A socket prepares its delegate when it starts to serve or to connect, and undoes the
preparation when it is closed. The undoing belongs to the close alone: connecting and accepting
in place close the old descriptor without undoing anything, and a socket handed out by
`acceptClient` shares its listener's delegate but has prepared nothing.

Along a run, what decides a close is the part of the run since the last close or installation
of a delegate (`sinceReset`): the installed delegate is *armed* when one of its preparations in
that part returned (`armedBy`). Every step keeps the socket's preparation flag equal to whether
the installed delegate is armed, and arms no other (`Armed`, `Op.armed_of_effect`). So a close
writes down the undoing of the installed delegate, once, exactly when it is armed, and nothing
otherwise; and no other step writes an undoing down (`delegate_undone_only_by_close`).
-/

namespace Sockets

/-- `op` forgets the delegate's preparation: a close, or installing a delegate. -/
def Op.resets : Op → Bool
  | .close | .setDelegate _ => true
  | _ => false

/-- The steps of a run since its last close or installation of a delegate. -/
def sinceReset (log : List Entry) : List Entry :=
  (log.reverse.takeWhile fun e => !e.op.resets).reverse

/-- Whether a preparation of the delegate `d` returned since the last close or installation of
a delegate. -/
def armedBy (log : List Entry) (d : String) : Bool :=
  (sinceReset log).any fun e => e.written.contains (.setUp d true)

@[simp] theorem armedBy_nil (d : String) : armedBy [] d = false := rfl

/-- A step that resets disarms every delegate; any other keeps what was armed and arms what it
prepared. -/
theorem armedBy_append_singleton (log : List Entry) (e : Entry) (d : String) :
    armedBy (log ++ [e]) d =
      (!e.op.resets && (armedBy log d || e.written.contains (.setUp d true))) := by
  cases h : e.op.resets <;> simp [armedBy, sinceReset, h]

/-- The preparation flag of `t` after the run `log`: only the installed delegate is armed, and
the socket is prepared exactly when it is. -/
structure Armed (log : List Entry) (t : Socket) : Prop where
  installed : ∀ d, armedBy log d = true → t.delegate = some d
  ready : t.delegateReady = true ↔ ∃ d, t.delegate = some d ∧ armedBy log d = true

variable {t u : Socket} {op : Op} {r : List UInt8} {new : List Event} {log : List Entry}

namespace Armed

/-- A run starts armed as the socket is prepared: unprepared. -/
theorem start (ht : t.delegateReady = false) : Armed [] t where
  installed := by simp
  ready := by simp [ht]

/-- A prepared socket has a delegate. -/
theorem delegate_isSome (ht : Armed log t) (hr : t.delegateReady = true) :
    t.delegate.isSome = true := by
  obtain ⟨d, hd, -⟩ := ht.ready.1 hr
  simp [hd]

/-- A step that resets and leaves the socket unprepared arms nothing. -/
theorem reset (hop : op.resets = true) (hu : u.delegateReady = false) :
    Armed (log ++ [⟨t, op, r, new, u⟩]) u where
  installed := by simp [armedBy_append_singleton, hop]
  ready := by simp [armedBy_append_singleton, hop, hu]

/-- A step that may prepare the installed delegate arms it when a preparation returned. -/
theorem prepares (ht : Armed log t) (h : Prepares t new u) (hop : op.resets = false) :
    Armed (log ++ [⟨t, op, r, new, u⟩]) u := by
  -- what the step arms is prepared on the installed delegate, which the step keeps
  have hnew : ∀ d, Event.setUp d true ∈ new → t.delegate = some d := fun d hd => by
    obtain ⟨d', returned, hd', he⟩ := h.setUps _ hd
    cases he
    exact hd'
  constructor
  · intro d hd
    simp only [armedBy_append_singleton, hop, List.contains_iff_mem, Bool.not_false,
      Bool.true_and, Bool.or_eq_true] at hd
    rw [h.delegate]
    exact hd.elim (ht.installed d) (hnew d)
  · simp only [armedBy_append_singleton, hop, List.contains_iff_mem, Bool.not_false,
      Bool.true_and, Bool.or_eq_true, h.delegate]
    rw [h.ready, ht.ready]
    constructor
    · rintro (⟨d, hd, ha⟩ | ⟨d, hd⟩)
      · exact ⟨d, hd, .inl ha⟩
      · exact ⟨d, hnew d hd, .inr hd⟩
    · rintro ⟨d, hd, ha | ha⟩
      · exact .inl ⟨d, hd, ha⟩
      · exact .inr ⟨d, ha⟩

/-- A read writes down receipts only, and keeps the delegate and the preparation. -/
theorem reads (ht : Armed log t) (h : Reads t r new u) (hop : op.resets = false) :
    Armed (log ++ [⟨t, op, r, new, u⟩]) u := by
  have hnew : ∀ d, Event.setUp d true ∉ new := by
    obtain ⟨chunks, rfl, -⟩ := h.delivers
    simp
  have harmed : ∀ d, armedBy (log ++ [⟨t, op, r, new, u⟩]) d = armedBy log d := by
    simp [armedBy_append_singleton, hop, hnew]
  have hd : u.delegate = t.delegate := by
    simpa [Socket.apartFromReads] using congrArg Socket.delegate h.rest
  have hr : u.delegateReady = t.delegateReady := by
    simpa [Socket.apartFromReads] using congrArg Socket.delegateReady h.rest
  exact ⟨by simpa [harmed, hd] using ht.installed, by simpa [harmed, hd, hr] using ht.ready⟩

/-- A close leaves the socket unprepared. -/
theorem closes_unprepared (ht : Armed log t) (h : Closes t r new u) :
    u.delegateReady = false := by
  rw [h.forgets]
  cases hr : t.delegateReady
  · rfl
  · simp [ht.delegate_isSome hr]

/-- A close writes down the undoing of the installed delegate when it is armed, and nothing
otherwise. -/
theorem closes_undoes (ht : Armed log t) (h : Closes t r new u) :
    new = (t.delegate.filter (armedBy log)).toList.map .tearDown := by
  rw [h.undoes]
  cases hd : t.delegate with
  | none =>
    have hr : t.delegateReady = false := by simpa [hd] using ht.ready
    simp [hr]
  | some d =>
    have hr : t.delegateReady = armedBy log d := by
      rw [Bool.eq_iff_iff, ht.ready]
      simp [hd]
    cases ha : armedBy log d <;> simp [hr, ha, Option.filter]

end Armed

/-! ## One step -/

/-- Every step keeps the preparation flag equal to whether the installed delegate is armed. -/
theorem Op.armed_of_effect (h : op.Effect t r new u) (ht : Armed log t) :
    Armed (log ++ [⟨t, op, r, new, u⟩]) u := by
  cases op
  case readInto | readData | readString => exact ht.reads h rfl
  -- a close and an installation forget the preparation
  case close => exact Armed.reset rfl (ht.closes_unprepared h)
  case setDelegate d => exact Armed.reset rfl h.2.2.2.1
  all_goals exact ht.prepares h.2.1 rfl

/-- Only a close writes an undoing of the delegate down. -/
theorem Op.close_of_undoes (h : op.Effect t r new u) {d : String} (hd : Event.tearDown d ∈ new) :
    op = .close := by
  cases op
  case readInto | readData | readString =>
    obtain ⟨chunks, rfl, -⟩ := h.delivers
    simp at hd
  case close => rfl
  case setDelegate installed =>
    obtain ⟨-, rfl, -⟩ := h
    simp at hd
  all_goals
    obtain ⟨_, returned, -, he⟩ := h.2.1.setUps _ hd
    cases he

/-! ## Whole runs -/

variable {σ : Type} {H : Host σ} {allowed : Socket → Op → Prop} {s : Socket}

/-- Along every run from an unprepared socket, the preparation flag is whether the installed
delegate is armed. -/
theorem Recorded.armed (hrun : Recorded H allowed s log t) (hs : s.delegateReady = false) :
    Armed log t := by
  induction hrun with
  | nil => exact Armed.start hs
  | step _ _ _ _ hstep ih => exact Op.armed_of_effect (Recorded.effect hstep) ih

/-- Along every run, only the closes write an undoing of the delegate down. -/
theorem Recorded.close_of_undoes (hrun : Recorded H allowed s log t) :
    ∀ e ∈ log, ∀ d, Event.tearDown d ∈ e.written → e.op = .close := by
  induction hrun with
  | nil => simp
  | step _ _ _ _ hstep ih =>
    intro e he d hd
    rcases List.mem_append.1 he with he | he
    · exact ih e he d hd
    · rw [List.mem_singleton] at he
      subst he
      exact Op.close_of_undoes (Recorded.effect hstep) hd

/-- Along every run from an unprepared socket, each close writes down the undoing of the
delegate installed before it when the run up to it armed that delegate, and nothing otherwise. -/
theorem Recorded.closes_undo (hrun : Recorded H allowed s log t) (hs : s.delegateReady = false) :
    ∀ pre e, pre ++ [e] <+: log → e.op = .close →
      e.written = (e.before.delegate.filter (armedBy pre)).toList.map .tearDown := by
  induction hrun with
  | nil => simp
  | step _ _ hrun _ hstep ih =>
    intro pre e hpre hop
    rcases List.prefix_concat_iff.1 hpre with heq | hpre
    · -- the close is the last step, taken after the run `pre`
      obtain ⟨rfl, he⟩ := List.append_inj' heq rfl
      obtain rfl := List.singleton_inj.1 he
      have hclose := Recorded.effect hstep
      subst hop
      exact (hrun.armed hs).closes_undoes hclose
    · exact ih pre e hpre hop

/-- The delegate is undone by a close alone, once, and exactly when the socket prepared it.
Along every run of a socket as the library hands it out, whatever the system and the delegate
do, only the closes write down an undoing of the delegate; and each close writes down the
undoing of the delegate installed before it, once, when one of the socket's own preparations of
that delegate returned since the last close or installation of a delegate, and nothing
otherwise. -/
theorem delegate_undone_only_by_close (hrun : Recorded H (fun _ _ => True) s log t)
    (hs : Fresh s) :
    (∀ e ∈ log, ∀ d, Event.tearDown d ∈ e.written → e.op = .close) ∧
    ∀ pre e, pre ++ [e] <+: log → e.op = .close →
      e.written = (e.before.delegate.filter (armedBy pre)).toList.map .tearDown :=
  ⟨hrun.close_of_undoes, hrun.closes_undo hs.unprepared⟩

/-- On a system that grants every call, a fresh internet socket with a delegate listens at port
80, which prepares the delegate, then closes, which undoes it. -/
def listenThenClose : List Entry :=
  [⟨freshInet (some "tls"), .listen (.int 80) .none (.bool false) (.bool false), [],
      [.setUp "tls" true], listenedInet (some "tls")⟩,
    ⟨listenedInet (some "tls"), .close, [], [.tearDown "tls"], closedInet⟩]

/-- In `listenThenClose` the delegate is undone by the close alone, and the close undoes it
because the listen before it prepared it. -/
theorem listen_then_close_undoes_preparation :
    Fresh (freshInet (some "tls")) ∧
      (∀ e ∈ listenThenClose, ∀ d, Event.tearDown d ∈ e.written → e.op = .close) ∧
      (∀ pre e, pre ++ [e] <+: listenThenClose → e.op = .close →
        e.written = (e.before.delegate.filter (armedBy pre)).toList.map .tearDown) ∧
      armedBy (listenThenClose.take 1) "tls" = true :=
  have hrun : Recorded (grantingHost []) (fun _ _ => True) (freshInet (some "tls"))
      listenThenClose closedInet :=
    Recorded.step () [] (Recorded.step () [] (.nil _) trivial
      (by with_unfolding_all exact show _ ∧ _ ∧ _ from ⟨rfl, rfl, rfl⟩)) trivial
      (by with_unfolding_all exact show _ ∧ _ ∧ _ from ⟨rfl, rfl, rfl⟩)
  ⟨⟨rfl, rfl, rfl⟩, (delegate_undone_only_by_close hrun ⟨rfl, rfl, rfl⟩).1,
    (delegate_undone_only_by_close hrun ⟨rfl, rfl, rfl⟩).2, by decide⟩

end Sockets
