import Sockets.Proofs.Bitmap
import Sockets.Proofs.Closed

/-!
# What a read into a buffer hands out

A read into a buffer may fill `m` of its bytes: the `nbytes` it is given, or the whole buffer
when that is 0 (`fillable`). It hands out the bytes `S` the socket has stored, and receives
only when nothing is stored: then `S` is what the drain of this read brings in. What follows
depends on `S` alone (`serve`):

* nothing stored and nothing received: the read returns 0 and the buffer as it was;
* bytes that fit: all of them are written at the front of the buffer and the storage is emptied;
* bytes that do not fit, with `truncate`: the first `m` are written and the rest stay stored;
* bytes that do not fit, without `truncate`: nothing is written, the storage keeps `S`, and the
  failure says that a buffer of `|S|` bytes is needed.

`readInto_eq_serve` states this as an equation of runs, in which the branch that finds bytes
stored makes no call of the system at all. Two consequences complete the contract
(`readInto_serves_storage`): a read never returns 0 while bytes are stored, and after a buffer
that was too small, the next read with room for the bytes stored hands out exactly those bytes
without receiving.
-/

namespace Sockets

namespace Value

theorem gt_int {v : Value} {n : Int} (h : v.asInt? = some n) (m : Int) :
    v.gt (.int m) = .ok (decide (m < n)) := by
  simp only [gt, compareWith_int h, Comparison.holds, Except.ok.injEq]
  rw [Bool.eq_iff_iff]
  simp [compare_gt_iff_gt]

end Value

namespace Socket

variable {σ : Type} (H : Host σ) {st : Socket × σ}

/-- The number of bytes of `buffer` a read may fill when it is given `nbytes = n`: all of them
for 0. -/
def fillable (buffer : List UInt8) (n : Int) : Nat := if n = 0 then buffer.length else n.toNat

/-- How a read into `buffer`, `m` of whose bytes it may fill, ends once the bytes `S` it hands
out are what the socket of `st` stores. -/
def serve (S : List UInt8) (m : Nat) (truncate : Bool) (buffer : List UInt8) (st : Socket × σ) :
    EStateM.Result Failure (Socket × σ) (Nat × List UInt8) :=
  if S = [] then .ok (0, buffer) st
  else if S.length ≤ m then
    .ok (S.length, S ++ buffer.drop S.length) ({ st.1 with storage := [] }, st.2)
  else if truncate then .ok (m, S.take m ++ buffer.drop m) ({ st.1 with storage := S.drop m }, st.2)
  else .error (.socket (SocketError.bufferTooSmall S.length)) st

/-- A read that returns 0 had nothing to hand out, and changed neither the socket nor the
buffer. -/
theorem serve_zero {S : List UInt8} {m : Nat} {truncate : Bool} {buffer : List UInt8}
    {st' : Socket × σ} {r : Nat × List UInt8} (hm : 0 < m)
    (h : serve S m truncate buffer st = .ok r st') (h0 : r.1 = 0) :
    S = [] ∧ st' = st ∧ r.2 = buffer := by
  unfold serve at h
  split_ifs at h with hS hfit <;> cases h
  · exact ⟨hS, rfl, rfl⟩
  · simp_all
  · simp at h0
    omega

/-! ## The steps of a read -/

/-- An open native socket passes the descriptor check, which changes nothing. -/
theorem checkDescriptor_open {h : Handle} (hn : st.1.native = some h)
    (hfd : 0 ≤ H.fileno h st.2) : checkDescriptor H st = .ok h st := by
  obtain ⟨s, w⟩ := st
  simp only at hn hfd
  simp [checkDescriptor, current, system, hn, bind, EStateM.bind, pure, EStateM.pure,
    not_lt.2 hfd]

/-- Valid `nbytes` pass the checks of the arguments: what is left is filling the storage and
taking at most `fillable` bytes of it. -/
theorem readInto_int (buffer : List UInt8) (truncate : Bool) {n : Int} (hn : 0 ≤ n)
    (hnL : n ≤ buffer.length) (hm : 0 < fillable buffer n) :
    readInto H buffer (.int n) truncate = (do
      if !(← fill H) then return (0, buffer)
      let got ← takeStored (fillable buffer n) truncate
      pure (got.length, got ++ buffer.drop got.length)) := by
  unfold fillable at hm ⊢
  have hlt : (Value.int n).lt (.int 0) = .ok (decide (n < 0)) := Value.lt_int rfl 0
  have hgt : (Value.int n).gt (.int buffer.length) = .ok (decide ((buffer.length : Int) < n)) :=
    Value.gt_int rfl buffer.length
  simp only [readInto, hlt, hgt, rethrow, Value.sliceEnd, Value.asInt?, Value.truthy]
  have hpos : ¬n < 0 := by omega
  have hfits : ¬(buffer.length : Int) < n := by omega
  by_cases h0 : n = 0
  · subst h0
    simp at hm
    simp [hm.ne']
  · have hsize : ¬n ≤ 0 := by omega
    simp [h0, hpos, hfits, hsize]

/-- With bytes stored, filling returns at once and changes nothing. -/
theorem fill_of_stored {h : Handle} (hn : st.1.native = some h) (hfd : 0 ≤ H.fileno h st.2)
    (hc : st.1.connected = true) (hs : st.1.storage ≠ []) : fill H st = .ok true st := by
  simp [fill, checkDescriptor_open H hn hfd, bind, EStateM.bind, current, hc, hs, pure,
    EStateM.pure]

/-- With nothing stored, filling is draining, and says whether the drain stored anything. -/
theorem fill_of_empty {h : Handle} (hn : st.1.native = some h) (hfd : 0 ≤ H.fileno h st.2)
    (hc : st.1.connected = true) (hs : st.1.storage = []) :
    fill H st = match drain H h receiveRounds st with
      | .ok k st' => .ok (k != 0) st'
      | .error e st' => .error e st' := by
  rcases hd : drain H h receiveRounds st with ⟨k, st'⟩ | ⟨e, st'⟩ <;>
    simp [fill, checkDescriptor_open H hn hfd, bind, EStateM.bind, current, hc, hs, pure, hd]
  by_cases hk : k = 0 <;> simp [hk, EStateM.pure]

/-- A drain returns how many bytes are stored when it ends. -/
theorem drain_length (h : Handle) (fuel : Nat) :
    Ends (drain H h fuel) st (fun k st' => k = st'.1.storage.length) (fun _ _ => True) := by
  induction fuel generalizing st with
  | zero => rfl
  | succ fuel ih =>
    simp only [drain, ↓ends_bind, ↓ends_current, ↓ends_attempt,
      ↓ends_of_fixes (recvOnce_fixes _ _ _), ↓ends_ite, ↓ends_pure, ↓ends_throw, ↓ends_change]
    refine ends_of_forall (fun data w => ?_) (fun _ _ => by simp)
    -- the end of the stream and a short receive return the storage, a full one drains on
    split
    · simp
    · split
      · simp
      · exact ih

theorem takeStored_eq (size : Nat) (truncate : Bool) (s : Socket) (w : σ) :
    (takeStored size truncate : SocketM σ (List UInt8)) (s, w) =
      if size < s.storage.length then
        if truncate then .ok (s.storage.take size) ({ s with storage := s.storage.drop size }, w)
        else .error (.socket (SocketError.bufferTooSmall s.storage.length)) (s, w)
      else .ok s.storage ({ s with storage := [] }, w) := by
  by_cases hs : size < s.storage.length <;> cases truncate <;>
    simp [takeStored, hs, bind, EStateM.bind, current, change, pure, EStateM.pure, throw,
      throwThe, MonadExceptOf.throw, EStateM.throw]

/-- Once filling has said whether anything is stored, the rest of a read is `serve`. -/
theorem copy_eq_serve (buffer : List UInt8) (m : Nat) (truncate : Bool) {s : Socket} (b : Bool)
    (hb : b = false ↔ s.storage = []) (w : σ) :
    (do
      if !b then return (0, buffer)
      let got ← (takeStored m truncate : SocketM σ (List UInt8))
      pure (got.length, got ++ buffer.drop got.length) : SocketM σ (Nat × List UInt8)) (s, w) =
      serve s.storage m truncate buffer (s, w) := by
  unfold serve
  by_cases hS : s.storage = []
  · simp [hS, hb.2 hS, pure, EStateM.pure]
  · have hb' : b = true := by simpa [hS] using hb
    by_cases hfit : s.storage.length ≤ m
    · simp [hS, hb', hfit, bind, EStateM.bind, takeStored_eq, not_lt.2 hfit, pure, EStateM.pure]
    · have hlt : m < s.storage.length := by omega
      cases truncate <;>
        simp [hS, hb', hfit, bind, EStateM.bind, takeStored_eq, hlt, pure, EStateM.pure, hlt.le]

/-! ## The contract -/

/-- A read into a buffer on an open, connected socket serves the bytes stored, or, when none
are stored, the bytes its drain brings in; a drain that fails ends the read with its failure. -/
theorem readInto_eq_serve {h : Handle} {n : Int} (buffer : List UInt8) (truncate : Bool)
    (hnative : st.1.native = some h) (hopen : 0 ≤ H.fileno h st.2)
    (hconn : st.1.connected = true) (hn : 0 ≤ n) (hnL : n ≤ buffer.length)
    (hm : 0 < fillable buffer n) :
    readInto H buffer (.int n) truncate st =
      if st.1.storage = [] then
        match drain H h receiveRounds st with
        | .ok _ st₁ => serve st₁.1.storage (fillable buffer n) truncate buffer st₁
        | .error e st₁ => .error e st₁
      else serve st.1.storage (fillable buffer n) truncate buffer st := by
  rw [readInto_int H buffer truncate hn hnL hm]
  by_cases hs : st.1.storage = []
  · rw [if_pos hs]
    have hfill := fill_of_empty H hnative hopen hconn hs
    have hlen : Ends (drain H h receiveRounds) st _ _ := drain_length H h receiveRounds
    rcases hd : drain H h receiveRounds st with ⟨k, st₁⟩ | ⟨e, st₁⟩
    · rw [hd] at hfill
      -- the drain stored `k` bytes, so filling says whether `k` is 0
      have hk := ok_of_ends hlen hd
      obtain ⟨s₁, w₁⟩ := st₁
      dsimp only at hk ⊢
      rw [← copy_eq_serve buffer _ truncate (k != 0) (by simp [hk]) w₁]
      simp only [bind, EStateM.bind, hfill]
    · rw [hd] at hfill
      simp [bind, EStateM.bind, hfill]
  · rw [if_neg hs]
    obtain ⟨s, w⟩ := st
    rw [← copy_eq_serve buffer _ truncate true (by simp [hs]) w]
    simp only [bind, EStateM.bind, fill_of_stored H hnative hopen hconn hs]

/-- The contract of a read into a buffer, on an open, connected socket with valid `nbytes`: it
serves the bytes stored or, when none are, those its drain brings in; it returns 0 only when
nothing was stored before or after, and leaves the buffer as it was then; and bytes stored are
handed out whole, without receiving, to a read with room for them, as after a read whose buffer
was too small. -/
theorem readInto_serves_storage {h : Handle} {n : Int} (buffer : List UInt8) (truncate : Bool)
    (hnative : st.1.native = some h) (hopen : 0 ≤ H.fileno h st.2)
    (hconn : st.1.connected = true) (hn : 0 ≤ n) (hnL : n ≤ buffer.length)
    (hm : 0 < fillable buffer n) :
    readInto H buffer (.int n) truncate st =
      (if st.1.storage = [] then
        match drain H h receiveRounds st with
        | .ok _ st₁ => serve st₁.1.storage (fillable buffer n) truncate buffer st₁
        | .error e st₁ => .error e st₁
      else serve st.1.storage (fillable buffer n) truncate buffer st) ∧
    (∀ r st', readInto H buffer (.int n) truncate st = .ok r st' → r.1 = 0 →
      st.1.storage = [] ∧ st'.1.storage = [] ∧ r.2 = buffer) ∧
    (∀ (s : Socket) (w : σ) (buffer' : List UInt8) (n' : Int) (truncate' : Bool),
      s.native = some h → 0 ≤ H.fileno h w → s.connected = true → s.storage ≠ [] →
      0 ≤ n' → n' ≤ buffer'.length → s.storage.length ≤ fillable buffer' n' →
      readInto H buffer' (.int n') truncate' (s, w) =
        .ok (s.storage.length, s.storage ++ buffer'.drop s.storage.length)
          ({ s with storage := [] }, w)) := by
  have hrun := readInto_eq_serve H buffer truncate hnative hopen hconn hn hnL hm
  refine ⟨hrun, fun r st' hr h0 => ?_,
    fun s w buffer' n' truncate' hs hw hc hstored hn' hnL' hfit => ?_⟩
  · -- a read returns 0 only from `serve` with nothing to hand out
    rw [hrun] at hr
    split_ifs at hr with hs
    · rcases hd : drain H h receiveRounds st with ⟨k, st₁⟩ | ⟨e, st₁⟩ <;> rw [hd] at hr
      · dsimp only at hr
        obtain ⟨hS, rfl, hbuf⟩ := serve_zero hm hr h0
        exact ⟨hs, hS, hbuf⟩
      · cases hr
    · exact absurd (serve_zero hm hr h0).1 hs
  · -- the bytes stored are served, and they fit
    have hm' : 0 < fillable buffer' n' := by
      have := List.length_pos_iff.2 hstored
      omega
    rw [@readInto_eq_serve _ H (s, w) h n' buffer' truncate' hs hw hc hn' hnL' hm',
      if_neg hstored]
    simp [serve, hstored, hfit]

/-- An open Unix-domain stream endpoint, as descriptor 3. -/
def openStreamWorld : World :=
  { kernel :=
      { endpoints := [(1, { family := .unix, type := .stream, protocol := 0, fd := some 3 })] } }

/-- A connected socket on that endpoint, with three bytes stored. -/
def stocked : Socket :=
  { native := some ⟨1⟩, signature := { family := .unix, type := .stream, protocol := .unix },
    connected := true, storage := [1, 2, 3] }

/-- Three stored bytes do not fit a buffer of two, and the failure asks for three; a buffer of
three then takes them all. -/
theorem stocked_needs_three_bytes :
    readInto Machine.host [0, 0] (.int 0) false (stocked, openStreamWorld) =
        .error (.socket (SocketError.bufferTooSmall 3)) (stocked, openStreamWorld) ∧
      readInto Machine.host [0, 0, 0] (.int 0) true (stocked, openStreamWorld) =
        .ok (3, [1, 2, 3]) ({ stocked with storage := [] }, openStreamWorld) :=
  have hserve := @readInto_serves_storage World Machine.host (stocked, openStreamWorld) ⟨1⟩ 0
    [0, 0] false rfl (by decide +kernel) rfl (by decide) (by decide) (by decide)
  ⟨hserve.1.trans rfl,
    hserve.2.2 stocked openStreamWorld [0, 0, 0] 0 true rfl (by decide +kernel) rfl (by decide)
      (by decide) (by decide) (by decide)⟩

end Socket

end Sockets
