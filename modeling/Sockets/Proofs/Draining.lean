import Sockets.Proofs.Sending

/-!
# What a drain receives

A read that finds nothing stored drains the connection into the storage: it receives into the
read buffer, receive after receive, until one returns fewer bytes than the buffer holds.
`Host.receiving H` is the host `H` writing down every stream receive, native or through a
delegate, with its answer, and every wait for readiness. A property of a drain run on it speaks
of the calls the drain made and of what they returned, for every behaviour of the system and of
the delegate.

* *One receive* (`Received`). A native receive is one call, which asks to return at once unless
  it is the first of the drain. Through a delegate, a request to retry the first receive makes
  the drain wait until the socket is readable and receive again, as long as the delegate asks;
  a request to retry a later one means that the receive would have to wait; any other failure of
  the delegate's own is the socket failure with its code and reason. A delegate asks to retry
  only so many times in a row (`Host.RecvRetriesBounded`), and the drain tries one time more.
* *The drain* (`Drains`). A receive that fills the buffer stores its bytes and the drain goes
  on. One that returns fewer stores them and stops, one that returns none marks the end of the
  stream, one that would have to wait stops with what is stored, and any other failure is raised.
  A drain has a budget of receives (`receiveRounds` when a read drains) and stops when it is
  spent.

`drain_drains` runs a drain on `Host.receiving` against `Drains`. From nothing stored
(`drain_receives_until_short`), a drain stores exactly the bytes its receives returned. All but
the last filled the buffer, so with `A` bytes stored it made at most `A / B + 1` receives that
returned bytes (`Drains.count_le`), and its budget is spent only once `n * B` bytes are stored
(`Drains.spent_bytes`). No call after the first receive that returned bytes may wait
(`Drains.waitsOnlyFirst`).
-/

namespace Sockets

/-- A call a drain makes of its system, as `Host.receiving` writes it down. -/
inductive Receipt where
  /-- A native stream receive, asked to return at once (`nowait`) or not, and its answer. -/
  | native (nowait : Bool) (answer : Except Failure (List UInt8))
  /-- A stream receive through the delegate, and its answer. -/
  | delegated (answer : Except Failure (List UInt8))
  /-- A wait for readiness, with its limit in milliseconds (`none`: no limit). -/
  | waited (limit : Option Nat)

namespace Receipt

/-- The bytes a receive returned; none for a receive that failed and for a wait. -/
def chunk? : Receipt → Option (List UInt8)
  | native _ (.ok data) => some data
  | delegated (.ok data) => some data
  | _ => none

/-- Whether the call may keep the caller waiting: a native receive not asked to return at once,
or a wait for readiness. -/
def mayWait : Receipt → Bool
  | native nowait _ => !nowait
  | delegated _ => false
  | waited _ => true

end Receipt

/-- The bytes the receives written down in `calls` returned, in order. -/
def chunks (calls : List Receipt) : List (List UInt8) := calls.filterMap Receipt.chunk?

@[simp] theorem chunks_append (calls calls' : List Receipt) :
    chunks (calls ++ calls') = chunks calls ++ chunks calls' :=
  List.filterMap_append

/-- No call after the first receive that returned bytes may wait. -/
def WaitsOnlyFirst : List Receipt → Prop
  | [] => True
  | x :: rest => if x.chunk?.isSome then ∀ y ∈ rest, y.mayWait = false else WaitsOnlyFirst rest

namespace WaitsOnlyFirst

theorem of_atOnce {calls : List Receipt} (h : ∀ x ∈ calls, x.mayWait = false) :
    WaitsOnlyFirst calls := by
  induction calls with
  | nil => trivial
  | cons x rest ih =>
    simp only [List.mem_cons, forall_eq_or_imp] at h
    by_cases hx : x.chunk?.isSome = true
    · rw [WaitsOnlyFirst, if_pos hx]
      exact h.2
    · rw [WaitsOnlyFirst, if_neg hx]
      exact ih h.2

theorem of_chunks_eq_nil {calls : List Receipt} (h : chunks calls = []) :
    WaitsOnlyFirst calls := by
  induction calls with
  | nil => trivial
  | cons x rest ih =>
    simp only [chunks, List.filterMap_cons] at h
    split at h
    · next hx => simpa [WaitsOnlyFirst, hx] using ih h
    · cases h

end WaitsOnlyFirst

namespace Host

variable {σ α : Type}

/-- A call run with a log of receipts: it writes down `entry` of its answer. -/
def logged (act : EStateM Failure σ α) (entry : Except Failure α → List Receipt) :
    EStateM Failure (σ × List Receipt) α := fun (w, log) =>
  match act w with
  | .ok a w' => .ok a (w', log ++ entry (.ok a))
  | .error e w' => .error e (w', log ++ entry (.error e))

/-- The host `H`, writing down its stream receives, native or through a delegate, and its waits
for readiness, each with what it was asked and the receives with their answers; every other
call leaves the log alone. -/
@[simps]
def receiving (H : Host σ) : Host (σ × List Receipt) where
  fileno h w := H.fileno h w.1
  family h w := H.family h w.1
  socketType h w := H.socketType h w.1
  blocking h w := H.blocking h w.1
  interruptions h w := H.interruptions h w.1
  create family type proto := logged (H.create family type proto) fun _ => []
  adopt fd := logged (H.adopt fd) fun _ => []
  close h := logged (H.close h) fun _ => []
  shutdown h how := logged (H.shutdown h how) fun _ => []
  setBlocking h flag := logged (H.setBlocking h flag) fun _ => []
  setOption h opt v := logged (H.setOption h opt v) fun _ => []
  bind h address := logged (H.bind h address) fun _ => []
  listen h backlog := logged (H.listen h backlog) fun _ => []
  accept h := logged (H.accept h) fun _ => []
  connect h address := logged (H.connect h address) fun _ => []
  sockName h := logged (H.sockName h) fun _ => []
  pendingError h := logged (H.pendingError h) fun _ => []
  recv h size nowait := logged (H.recv h size nowait) fun answer => [.native nowait answer]
  recvFrom h size := logged (H.recvFrom h size) fun _ => []
  send h data := logged (H.send h data) fun _ => []
  sendTo h data address := logged (H.sendTo h data address) fun _ => []
  select r w wait := logged (H.select r w wait) fun _ => [.waited wait]
  unlink path := logged (H.unlink path) fun _ => []
  resolve host port hints := logged (H.resolve host port hints) fun _ => []
  delegates :=
    { setUp := fun d asServer => logged (H.delegates.setUp d asServer) fun _ => []
      tearDown := fun d => logged (H.delegates.tearDown d) fun _ => []
      onAccept := fun d h => logged (H.delegates.onAccept d h) fun _ => []
      onConnect := fun d h => logged (H.delegates.onConnect d h) fun _ => []
      send := fun d h data => logged (H.delegates.send d h data) fun _ => []
      recv := fun d h size => logged (H.delegates.recv d h size) fun answer => [.delegated answer]
      sendRetries := fun d w => H.delegates.sendRetries d w.1
      recvRetries := fun d w => H.delegates.recvRetries d w.1 }

/-- The delegates keep to their bounds on retried receives: a receive that asks to retry lowers
the bound of its delegate, and waiting for readiness does not raise it. -/
structure RecvRetriesBounded (H : Host σ) : Prop where
  recv : ∀ d h size w e w', H.delegates.recv d h size w = .error (.delegate e) w' →
    e.isRetry = true → H.delegates.recvRetries d w' < H.delegates.recvRetries d w
  select : ∀ d readable writable wait w ready w',
    H.select readable writable wait w = .ok ready w' →
      H.delegates.recvRetries d w' ≤ H.delegates.recvRetries d w

end Host

namespace Socket

open Host

/-! ## One receive -/

/-- One receive of a drain as the drain makes it, the first of the drain or not, through the
delegate `via` or natively: the calls it makes, in order, and what it gives the drain. -/
inductive Received :
    Bool → Option String → List Receipt → Except Failure (List UInt8) → Prop
  /-- A native receive is one call, asked to return at once unless it is the first. -/
  | native (first : Bool) (answer : Except Failure (List UInt8)) :
      Received first none [.native (!first) answer] answer
  /-- The delegate's answer is the drain's, unless it is a failure of the delegate's own. -/
  | answered (first : Bool) (d : String) (answer : Except Failure (List UInt8))
      (hanswer : ∀ e, answer ≠ .error (.delegate e)) :
      Received first (some d) [.delegated answer] answer
  /-- A failure of the delegate's own, other than a request to retry, is the socket failure with
  its code and reason. -/
  | refused (first : Bool) (d : String) (e : DelegateError) (he : e.isRetry = false) :
      Received first (some d) [.delegated (.error (.delegate e))] (.error (.socket e.toSocketError))
  /-- A request to retry a receive after the first: the receive would have to wait. -/
  | later (d : String) (e : DelegateError) (he : e.isRetry = true) :
      Received false (some d) [.delegated (.error (.delegate e))] (.error wouldWait)
  /-- A request to retry the first receive: the drain waits until the socket is readable and
  receives again. -/
  | retried (d : String) (e : DelegateError) (he : e.isRetry = true) {calls : List Receipt}
      {answer : Except Failure (List UInt8)} (again : Received true (some d) calls answer) :
      Received true (some d) (.delegated (.error (.delegate e)) :: .waited none :: calls) answer
  /-- A request to retry while the descriptor is closed: a bad descriptor. -/
  | closedWhileWaiting (d : String) (e : DelegateError) (he : e.isRetry = true) :
      Received true (some d) [.delegated (.error (.delegate e))]
        (.error (Failure.code .badDescriptor))
  /-- A request to retry whose wait fails: the wait's failure, as a failed select. -/
  | waitFailed (d : String) (e : DelegateError) (he : e.isRetry = true) (f : Failure) :
      Received true (some d) [.delegated (.error (.delegate e)), .waited none]
        (.error (coded .selectFailed f))

namespace Received

variable {first : Bool} {via : Option String} {calls : List Receipt}
  {r : Except Failure (List UInt8)}

/-- A receive returned its bytes through exactly one call, and a failed one through none. -/
theorem chunks_eq (hrecv : Received first via calls r) : chunks calls = r.toOption.toList := by
  induction hrecv with
  | native first answer => cases answer <;> rfl
  | answered first d answer => cases answer <;> rfl
  | retried d e he again ih => exact ih
  | refused | later | closedWhileWaiting | waitFailed => rfl

/-- A receive after the first makes no call that may wait. -/
theorem atOnce (hrecv : Received first via calls r) (hfirst : first = false) :
    ∀ x ∈ calls, x.mayWait = false := by
  induction hrecv with
  | native first answer => simp [Receipt.mayWait, hfirst]
  | answered | refused | later => simp [Receipt.mayWait]
  | retried | closedWhileWaiting | waitFailed => cases hfirst

/-- The first receive returns its bytes through its last call: calls after it that return at
once make no call after bytes that may wait. -/
theorem waitsOnlyFirst (hrecv : Received first via calls r) {data : List UInt8}
    (hr : r = .ok data) {rest : List Receipt} (hrest : ∀ y ∈ rest, y.mayWait = false) :
    WaitsOnlyFirst (calls ++ rest) := by
  induction hrecv with
  | native first answer =>
    subst hr
    simpa [WaitsOnlyFirst, Receipt.chunk?] using hrest
  | answered first d answer =>
    subst hr
    simpa [WaitsOnlyFirst, Receipt.chunk?] using hrest
  | retried d e he again ih =>
    -- the request to retry and the wait return no bytes
    simpa [WaitsOnlyFirst, Receipt.chunk?] using ih hr
  | refused | later | closedWhileWaiting | waitFailed => cases hr

end Received

/-! ## The receives of a drain -/

/-- Why a drain stopped. -/
inductive Stop where
  /-- A receive returned bytes, fewer than the read buffer holds. -/
  | short
  /-- A receive returned no bytes: the stream ended. -/
  | closed
  /-- A receive would have had to wait. -/
  | wouldWait
  /-- A receive failed otherwise, with this failure. -/
  | failed (f : Failure)
  /-- Every receive the budget allowed filled the read buffer. -/
  | spent

namespace Stop

/-- What a drain that stopped as `stop` gives with `stored` bytes stored: their number, or the
failure it raises, a stream failure for an OS failure. -/
def result : Stop → Nat → Except Failure Nat
  | failed f, _ => .error (if f.isOsError then streamError f .recvFailed else f)
  | _, stored => .ok stored

/-- Whether the drain stopped at the end of the stream. -/
def endsStream : Stop → Bool
  | closed => true
  | _ => false

end Stop

/-- The receives of a drain through the delegate `via` or natively, with a read buffer of `B`
bytes, from the bytes `stored`, with a budget of `n` receives: the bytes each returned, the calls
they made, in order, and why the drain stopped. A receive is the first of the drain exactly when
nothing is stored. -/
inductive Drains (via : Option String) (B : Nat) :
    List UInt8 → Nat → List (List UInt8) → List Receipt → Stop → Prop
  /-- The budget is spent. -/
  | spent (stored : List UInt8) : Drains via B stored 0 [] [] .spent
  /-- A receive filled the read buffer: its bytes are stored and the drain goes on. -/
  | full {stored data : List UInt8} {n : Nat} {round calls : List Receipt}
      {cs : List (List UInt8)} {stop : Stop}
      (hround : Received stored.isEmpty via round (.ok data)) (hne : data ≠ [])
      (hfull : B ≤ data.length) (rest : Drains via B (stored ++ data) n cs calls stop) :
      Drains via B stored (n + 1) (data :: cs) (round ++ calls) stop
  /-- A receive returned fewer bytes than the buffer holds: they are stored and the drain
  stops. -/
  | short {stored data : List UInt8} {n : Nat} {round : List Receipt}
      (hround : Received stored.isEmpty via round (.ok data)) (hne : data ≠ [])
      (hshort : data.length < B) :
      Drains via B stored (n + 1) [data] round .short
  /-- A receive returned nothing: the stream ended. -/
  | closed {stored : List UInt8} {n : Nat} {round : List Receipt}
      (hround : Received stored.isEmpty via round (.ok [])) :
      Drains via B stored (n + 1) [[]] round .closed
  /-- A receive would have had to wait. -/
  | blocked {stored : List UInt8} {n : Nat} {round : List Receipt} {f : Failure}
      (hround : Received stored.isEmpty via round (.error f)) (hf : f.isBlocking = true) :
      Drains via B stored (n + 1) [] round .wouldWait
  /-- A receive failed otherwise. -/
  | failed {stored : List UInt8} {n : Nat} {round : List Receipt} {f : Failure}
      (hround : Received stored.isEmpty via round (.error f)) (hf : f.isBlocking = false) :
      Drains via B stored (n + 1) [] round (.failed f)

namespace Drains

variable {via : Option String} {B : Nat} {stored : List UInt8} {n : Nat}
  {cs : List (List UInt8)} {calls : List Receipt} {stop : Stop}

/-- The bytes of a drain are those its receives returned. -/
theorem chunks_eq (hd : Drains via B stored n cs calls stop) : chunks calls = cs := by
  induction hd with
  | spent => rfl
  | @full _ _ _ round calls _ _ hround _ _ _ ih =>
    rw [chunks_append, hround.chunks_eq, ih]
    rfl
  | short hround | closed hround | blocked hround | failed hround => exact hround.chunks_eq

/-- Every receive of a drain but the last filled the read buffer. -/
theorem full_but_last (hd : Drains via B stored n cs calls stop) :
    ∀ c ∈ cs.dropLast, B ≤ c.length := by
  induction hd with
  | full _ _ hfull rest ih =>
    -- the bytes of a full receive are followed by those of at least one more
    cases rest <;> simp_all
  | spent | short | closed | blocked | failed => simp

/-- A drain makes at most one receive that returns bytes for each `B` bytes it stores, and one
more. -/
theorem count_le (hd : Drains via B stored n cs calls stop) (hB : 0 < B) :
    cs.length ≤ cs.flatten.length / B + 1 := by
  have hfull : (cs.length - 1) * B ≤ cs.flatten.length := by
    induction hd with
    | @full _ data _ _ _ cs _ _ _ hfull _ ih =>
      have hstep : cs.length * B ≤ (cs.length - 1) * B + B := by
        cases cs.length <;> simp [Nat.succ_mul]
      simp only [List.length_cons, Nat.add_sub_cancel, List.flatten_cons, List.length_append]
      omega
    | spent | short | closed | blocked | failed => simp
  have hdiv : cs.length - 1 ≤ cs.flatten.length / B := (Nat.le_div_iff_mul_le hB).mpr hfull
  omega

/-- A drain that spent its budget of `n` receives stored at least `n` full buffers. -/
theorem spent_bytes (hd : Drains via B stored n cs calls stop) (hspent : stop = .spent) :
    n * B ≤ cs.flatten.length := by
  induction hd with
  | spent => simp
  | full _ _ hfull _ ih =>
    simp only [List.flatten_cons, List.length_append, Nat.succ_mul]
    have := ih hspent
    omega
  | short | closed | blocked | failed => cases hspent

/-- A drain stops at the end of the stream exactly when a receive returned nothing. -/
theorem endsStream_eq (hd : Drains via B stored n cs calls stop) :
    stop.endsStream = decide ([] ∈ cs) := by
  induction hd with
  | spent | blocked | failed => rfl
  | full _ hne _ _ ih => simp [ih, Ne.symm hne]
  | short _ hne => simp [Stop.endsStream, Ne.symm hne]
  | closed => rfl

/-- A drain that finds bytes stored makes no call that may wait. -/
theorem atOnce (hd : Drains via B stored n cs calls stop) (hstored : stored ≠ []) :
    ∀ x ∈ calls, x.mayWait = false := by
  have hfirst : stored.isEmpty = false := by simpa using hstored
  induction hd with
  | spent => simp
  | full hround hne _ _ ih =>
    simp only [List.mem_append]
    rintro x (hx | hx)
    · exact hround.atOnce hfirst x hx
    · exact ih (by simp [hstored]) (by simp [hstored]) x hx
  | short hround | closed hround | blocked hround | failed hround => exact hround.atOnce hfirst

/-- Only the first receive of a drain may wait: no call after the first receive that returned
bytes may. -/
theorem waitsOnlyFirst (hd : Drains via B stored n cs calls stop) : WaitsOnlyFirst calls := by
  by_cases hstored : stored = []
  · -- the first receive is the first round; every later round finds its bytes stored
    cases hd with
    | spent => trivial
    | full hround hne _ rest =>
      exact hround.waitsOnlyFirst rfl (rest.atOnce (by simp [hne]))
    | short hround => simpa using hround.waitsOnlyFirst rfl (List.forall_mem_nil _)
    | closed hround => simpa using hround.waitsOnlyFirst rfl (List.forall_mem_nil _)
    | blocked hround | failed hround =>
      exact WaitsOnlyFirst.of_chunks_eq_nil (by simpa [Except.toOption] using hround.chunks_eq)
  · exact WaitsOnlyFirst.of_atOnce (hd.atOnce hstored)

end Drains

/-! ## Running a drain on a host that writes down its receives -/

section Run

variable {σ α : Type} {H : Host σ} {s : Socket} {w : σ} {log : List Receipt}

theorem ends_sys_logged {st : Socket × (σ × List Receipt)}
    {ok : α → Socket × (σ × List Receipt) → Prop}
    {err : Failure → Socket × (σ × List Receipt) → Prop} (act : EStateM Failure σ α)
    (entry : Except Failure α → List Receipt) :
    Ends (sys (logged act entry)) st ok err =
      ((∀ a w, act st.2.1 = .ok a w → ok a (st.1, (w, st.2.2 ++ entry (.ok a)))) ∧
        ∀ e w, act st.2.1 = .error e w → err e (st.1, (w, st.2.2 ++ entry (.error e)))) := by
  obtain ⟨s, w, log⟩ := st
  simp only [ends_sys, logged]
  cases act w <;> simp

/-- What a step of a drain that keeps the socket leaves: the socket `s`, and calls written after
`log` that `spec` allows with the step's result. -/
def LeavesReceipts (s : Socket) (log : List Receipt) (spec : List Receipt → Except Failure α → Prop)
    (r : Except Failure α) (st' : Socket × (σ × List Receipt)) : Prop :=
  st'.1 = s ∧ ∃ calls, st'.2.2 = log ++ calls ∧ spec calls r

/-- Waiting until the socket is readable writes down one wait without limit, unless the
descriptor is closed, and raises no delegate's bound on retried receives. -/
theorem waitUntil_receiving (hH : H.RecvRetriesBounded) :
    Ends (waitUntil H.receiving true false) (s, (w, log))
      (fun _ st' => LeavesReceipts s log (fun calls _ => calls = [.waited none]) (.ok ()) st' ∧
        ∀ d, H.delegates.recvRetries d st'.2.1 ≤ H.delegates.recvRetries d w)
      (fun f st' => st'.1 = s ∧ ((f = Failure.code .badDescriptor ∧ st'.2.2 = log) ∨
        ∃ g, f = coded .selectFailed g ∧ st'.2.2 = log ++ [.waited none])) := by
  simp only [waitUntil, pollFor, receiving_select, ↓ends_bind, ↓ends_checkDescriptor,
    ↓ends_system, ↓ends_orCode, ↓ends_sys_logged, ↓ends_pure, receiving_fileno]
  refine ⟨fun h _ => ?_, fun _ => ⟨trivial, .inl ⟨trivial, trivial⟩⟩⟩
  split
  · exact ⟨trivial, .inl ⟨trivial, trivial⟩⟩
  · exact ⟨fun _ _ hselect => ⟨⟨rfl, _, rfl, rfl⟩, fun d => hH.select d _ _ _ _ _ _ hselect⟩,
      fun e _ _ => ⟨trivial, .inr ⟨e, rfl, trivial⟩⟩⟩

/-- The receive after a request to retry the first receive and its wait, as `Received` allows
it behind them. -/
abbrev AfterRetry (d : String) (e : DelegateError) (calls : List Receipt)
    (r : Except Failure (List UInt8)) : Prop :=
  Received true (some d) (.delegated (.error (.delegate e)) :: .waited none :: calls) r

/-- One try of a receive through the delegate `d` ends as `Received` says, given that the
receive after a request to retry the first receive and the wait for readability does, from
wherever the request lowered the delegate's bound on retries. -/
theorem delegateRecv_try (hH : H.RecvRetriesBounded) (d : String) (first : Bool) (fuel : Nat)
    (hagain : ∀ e : DelegateError, e.isRetry = true → first = true → ∀ w' log,
      H.delegates.recvRetries d w' < H.delegates.recvRetries d w →
      Ends (delegateRecv H.receiving d first fuel) (s, (w', log))
        (fun data st' => LeavesReceipts s log (AfterRetry d e) (.ok data) st')
        (fun f st' => LeavesReceipts s log (AfterRetry d e) (.error f) st')) :
    Ends (delegateRecv H.receiving d first (fuel + 1)) (s, (w, log))
      (fun data st' => LeavesReceipts s log (Received first (some d)) (.ok data) st')
      (fun f st' => LeavesReceipts s log (Received first (some d)) (.error f) st') := by
  simp only [delegateRecv, ↓ends_bind, ↓ends_current, ↓ends_attempt, receiving_delegates_recv,
    ↓ends_sys_logged]
  refine ⟨fun data _ _ => ⟨rfl, _, rfl, .answered first d (.ok data) (by simp)⟩,
    fun f w' hrecv => ?_⟩
  cases f
  case delegate e =>
    cases he : e.isRetry
    case false =>
      simp only [he, Bool.not_false, ite_true, ↓ends_bind, ↓ends_throw]
      exact ⟨rfl, _, rfl, .refused first d e he⟩
    case true =>
      cases first
      case false =>
        simp only [he, Bool.not_true, Bool.false_eq_true, ite_false, Bool.not_false, ite_true,
          ↓ends_bind, ↓ends_throw]
        exact ⟨rfl, _, rfl, .later d e he⟩
      case true =>
        simp only [he, Bool.not_true, Bool.false_eq_true, ite_false, ↓ends_bind]
        -- the first receive waits for readability, then receives again, with a lower bound
        have hlower := hH.recv d _ _ w e w' hrecv he
        refine ends_mono (waitUntil_receiving hH) ?_ ?_
        · rintro _ ⟨s', w'', log''⟩ ⟨⟨rfl, calls, hlog, rfl⟩, hwait⟩
          dsimp only at hlog hwait
          refine ends_mono (hagain e he rfl w'' log'' (Nat.lt_of_le_of_lt (hwait d) hlower))
            ?_ ?_ <;>
            rintro _ _ ⟨hs, calls', hlog', hafter⟩ <;>
            exact ⟨hs, _, by simp [hlog', hlog], hafter⟩
        · rintro _ ⟨s', w'', log''⟩ ⟨rfl, ⟨rfl, hlog⟩ | ⟨g, rfl, hlog⟩⟩
          · exact ⟨rfl, _, by simpa using hlog, .closedWhileWaiting d e he⟩
          · exact ⟨rfl, _, by simpa using hlog, .waitFailed d e he g⟩
  all_goals exact ⟨rfl, _, rfl, .answered first d _ (by simp)⟩

/-- A receive through the delegate `d`, given more tries than the delegate may ask to retry,
ends as `Received` says. -/
theorem delegateRecv_received (hH : H.RecvRetriesBounded) (d : String) (first : Bool) (fuel : Nat)
    (hfuel : H.delegates.recvRetries d w < fuel) :
    Ends (delegateRecv H.receiving d first fuel) (s, (w, log))
      (fun data st' => LeavesReceipts s log (Received first (some d)) (.ok data) st')
      (fun f st' => LeavesReceipts s log (Received first (some d)) (.error f) st') := by
  -- the tries stay above the delegate's bound: each request to retry lowers the bound, waiting
  -- does not raise it
  induction fuel generalizing w log with
  | zero => omega
  | succ fuel ih =>
    refine delegateRecv_try hH d first fuel fun e he hfirst w' log' hlower => ?_
    subst hfirst
    refine ends_mono (ih (by omega)) ?_ ?_ <;> rintro _ _ ⟨hs, calls, hlog, hrecv⟩ <;>
      exact ⟨hs, calls, hlog, .retried d e he hrecv⟩

/-- One receive of a drain ends as `Received` says. -/
theorem recvOnce_received (hH : H.RecvRetriesBounded) (h : Handle) (first : Bool) :
    Ends (recvOnce H.receiving h first) (s, (w, log))
      (fun data st' => LeavesReceipts s log (Received first s.delegate) (.ok data) st')
      (fun f st' => LeavesReceipts s log (Received first s.delegate) (.error f) st') := by
  simp only [recvOnce, ↓ends_bind, ↓ends_current]
  split
  next d hd =>
    simp only [↓ends_bind, ↓ends_system, receiving_delegates_recvRetries, hd]
    exact delegateRecv_received hH d first _ (Nat.lt_succ_self _)
  next hd =>
    simp only [hd, receiving_recv, ends_sys_logged]
    exact ⟨fun _ _ _ => ⟨rfl, _, rfl, .native _ _⟩,
      fun _ _ _ => ⟨rfl, _, rfl, .native _ _⟩⟩

/-- The socket `s` after a drain that received `cs` and stopped as `stop`: their bytes stored
after those it held, and the remote side marked closed at the end of the stream. -/
def drained (s : Socket) (cs : List (List UInt8)) (stop : Stop) : Socket :=
  { s with storage := s.storage ++ cs.flatten, remoteClosed := s.remoteClosed || stop.endsStream }

theorem drained_nil {s : Socket} {stop : Stop} (h : stop.endsStream = false) :
    drained s [] stop = s := by
  cases s
  simp [drained, h]

/-- What a drain from `s` with a budget of `n` receives leaves: calls written after `log` by
receives as `Drains` describes them, the socket with their bytes stored, and the result their
stop gives. -/
def Drained (s : Socket) (log : List Receipt) (n : Nat) (r : Except Failure Nat)
    (st' : Socket × (σ × List Receipt)) : Prop :=
  ∃ cs calls stop, st'.2.2 = log ++ calls ∧
    Drains s.delegate s.readBufferSize s.storage n cs calls stop ∧
    st'.1 = drained s cs stop ∧ r = stop.result (s.storage ++ cs.flatten).length

/-- A drain with a budget of `n` receives ends as `Drains` says. -/
theorem drain_drains (hH : H.RecvRetriesBounded) (h : Handle) (n : Nat) :
    Ends (drain H.receiving h n) (s, (w, log))
      (fun k st' => Drained s log n (.ok k) st') (fun f st' => Drained s log n (.error f) st') := by
  induction n generalizing s w log with
  | zero =>
    refine ⟨[], [], .spent, by simp, .spent _, ?_, by simp [Stop.result]⟩
    cases s
    simp [drained, Stop.endsStream]
  | succ n ih =>
    simp only [drain, ↓ends_bind, ↓ends_current, ↓ends_attempt]
    refine ends_mono (recvOnce_received hH h _) ?_ ?_
    · rintro data ⟨s', w', log'⟩ ⟨rfl, round, rfl, hround⟩
      dsimp only at hround ⊢
      split
      · -- the end of the stream
        next hempty =>
        obtain rfl : data = [] := List.isEmpty_iff.mp hempty
        simp only [↓ends_bind, ↓ends_change, ↓ends_pure]
        exact ⟨[[]], round, .closed, rfl, .closed hround, by simp [drained, Stop.endsStream],
          by simp [Stop.result]⟩
      next hne =>
      have hne : data ≠ [] := by simpa using hne
      simp only [↓ends_bind, ↓ends_change, ↓ends_ite, ↓ends_pure]
      split
      · next hshort =>
        exact ⟨[data], round, .short, rfl, .short hround hne hshort,
          by simp [drained, Stop.endsStream], by simp [Stop.result]⟩
      · -- a full buffer: the drain goes on with its bytes stored
        next hfull =>
        refine ends_mono ih ?_ ?_ <;> rintro _ _ ⟨cs, calls, stop, hlog, hd, hs, hr⟩ <;>
          exact ⟨data :: cs, round ++ calls, stop, by simp [hlog], .full hround hne (by omega) hd,
            by simp [hs, drained], by simp [hr]⟩
    · rintro f ⟨s', w', log'⟩ ⟨rfl, round, rfl, hround⟩
      dsimp only at hround
      simp only [↓ends_ite, ↓ends_pure, ↓ends_throw]
      cases hf : f.isBlocking
      · have hd := @Drains.failed s'.delegate s'.readBufferSize s'.storage n round f hround hf
        have hs : drained s' [] (.failed f) = s' := drained_nil rfl
        simp only [Bool.false_eq_true, ite_false]
        split
        · next hos =>
          simp only [↓ends_bind, ↓ends_throw]
          exact ⟨[], round, .failed f, rfl, hd, hs.symm, by simp [Stop.result, hos]⟩
        · next hos =>
          exact ⟨[], round, .failed f, rfl, hd, hs.symm, by simp [Stop.result, hos]⟩
      · exact ⟨[], round, .wouldWait, rfl, .blocked hround hf, (drained_nil rfl).symm,
          by simp [Stop.result]⟩

end Run

/-- A drain from a socket with nothing stored, whose read buffer holds `B ≥ 1` bytes, with a
budget of `n` receives, on any host whose delegates keep to their bounds on retried receives, and
so for every answer its receives may get, ends as `Drains` says. It receives until a receive returns fewer than `B` bytes (no bytes at the end of the
stream, which marks the remote side closed, and a drain never clears that mark), a receive would
have to wait (a would-block failure, or the delegate's request to retry a receive after the
first), a receive fails otherwise (which the drain raises, an OS failure as a stream failure), or
`n` receives filled the buffer. Whether it returns or fails, it then stores exactly the bytes its
receives returned, in order. Every receive but the last filled the buffer, so with `A` bytes
stored it made at most `A / B + 1` receives that returned bytes, and its budget is spent only
once `n * B` bytes are stored. Only the first receive may wait: no call after the first receive
that returned bytes may, since every later native receive asks to return at once and a later
request of the delegate to retry ends the drain. -/
theorem drain_receives_until_short {σ : Type} (H : Host σ) (hH : H.RecvRetriesBounded)
    (h : Handle) (n : Nat) {s : Socket} {w : σ} (log : List Receipt) (hB : 0 < s.readBufferSize)
    (hempty : s.storage = []) :
    Ends (drain H.receiving h n) (s, (w, log))
      (fun k st' => ∃ cs calls stop, st'.2.2 = log ++ calls ∧
        Drains s.delegate s.readBufferSize [] n cs calls stop ∧
        Except.ok k = stop.result cs.flatten.length ∧
        st'.1 =
          { s with
            storage := cs.flatten
            remoteClosed := s.remoteClosed || decide ([] ∈ cs) })
      (fun f st' => ∃ cs calls stop, st'.2.2 = log ++ calls ∧
        Drains s.delegate s.readBufferSize [] n cs calls stop ∧
        Except.error f = stop.result cs.flatten.length ∧
        st'.1 =
          { s with
            storage := cs.flatten
            remoteClosed := s.remoteClosed || decide ([] ∈ cs) }) ∧
    ∀ (via : Option String) (cs : List (List UInt8)) (calls : List Receipt) (stop : Stop),
      Drains via s.readBufferSize [] n cs calls stop →
        chunks calls = cs ∧ (∀ c ∈ cs.dropLast, s.readBufferSize ≤ c.length) ∧
        cs.length ≤ cs.flatten.length / s.readBufferSize + 1 ∧
        (stop = .spent → n * s.readBufferSize ≤ cs.flatten.length) ∧
        WaitsOnlyFirst calls := by
  -- the drain from nothing stored leaves its bytes as the storage, marking the remote side
  -- closed at the end of the stream
  have hleft : ∀ {cs : List (List UInt8)} {calls : List Receipt} {stop : Stop},
      Drains s.delegate s.readBufferSize [] n cs calls stop →
        drained s cs stop =
          { s with
            storage := cs.flatten
            remoteClosed := s.remoteClosed || decide ([] ∈ cs) } := by
    intro cs calls stop hd
    rw [drained, hempty, hd.endsStream_eq, List.nil_append]
  refine ⟨ends_mono (drain_drains hH h n) ?_ ?_, fun via cs calls stop hd =>
    ⟨hd.chunks_eq, hd.full_but_last, hd.count_le hB, hd.spent_bytes, hd.waitsOnlyFirst⟩⟩ <;>
    rintro _ _ ⟨cs, calls, stop, hlog, hd, hs, hr⟩ <;>
    rw [hempty] at hd hr <;>
    exact ⟨cs, calls, stop, hlog, hd, by simpa using hr, hs.trans (hleft hd)⟩

theorem hesitantHost_recvRetriesBounded : hesitantHost.RecvRetriesBounded where
  recv _ _ _ left _ left' hrecv _ := by
    simp only [hesitantHost] at hrecv
    split at hrecv
    · cases hrecv
    · cases hrecv
      show left - 1 < left
      omega
  select _ _ _ _ _ _ _ hselect := by
    cases hselect
    exact Nat.le_refl _

/-- A drain through a delegate that asks twice to retry the first receive, on a connection with
nothing stored and the default read buffer. -/
theorem delegated_drain_receives_until_short :
    hesitantHost.RecvRetriesBounded ∧
    0 < delegatedConnection.readBufferSize ∧ delegatedConnection.storage = [] ∧
    (Ends (drain hesitantHost.receiving ⟨1⟩ receiveRounds) (delegatedConnection, (2, []))
      (fun k st' => ∃ cs calls stop, st'.2.2 = [] ++ calls ∧
        Drains delegatedConnection.delegate delegatedConnection.readBufferSize [] receiveRounds cs
          calls stop ∧
        Except.ok k = stop.result cs.flatten.length ∧
        st'.1 =
          { delegatedConnection with
            storage := cs.flatten
            remoteClosed := delegatedConnection.remoteClosed || decide ([] ∈ cs) })
      (fun f st' => ∃ cs calls stop, st'.2.2 = [] ++ calls ∧
        Drains delegatedConnection.delegate delegatedConnection.readBufferSize [] receiveRounds cs
          calls stop ∧
        Except.error f = stop.result cs.flatten.length ∧
        st'.1 =
          { delegatedConnection with
            storage := cs.flatten
            remoteClosed := delegatedConnection.remoteClosed || decide ([] ∈ cs) }) ∧
    ∀ (via : Option String) (cs : List (List UInt8)) (calls : List Receipt) (stop : Stop),
      Drains via delegatedConnection.readBufferSize [] receiveRounds cs calls stop →
        chunks calls = cs ∧
        (∀ c ∈ cs.dropLast, delegatedConnection.readBufferSize ≤ c.length) ∧
        cs.length ≤ cs.flatten.length / delegatedConnection.readBufferSize + 1 ∧
        (stop = .spent →
          receiveRounds * delegatedConnection.readBufferSize ≤ cs.flatten.length) ∧
        WaitsOnlyFirst calls) :=
  ⟨hesitantHost_recvRetriesBounded, by decide, rfl,
    drain_receives_until_short hesitantHost hesitantHost_recvRetriesBounded ⟨1⟩ receiveRounds []
      (by decide) rfl⟩

end Socket

end Sockets
