import Sockets.Proofs.Serving

/-!
# What reading a string consumes

Reading a string is reading data and decoding it. Reading data hands out the bytes `S` the
socket has stored or, when nothing is stored, the bytes its drain brings in, and empties the
storage (`readData_eq_handOut`); only then are the bytes decoded (`decoded`). So a read of a
string on an open, connected socket ends in one of three ways:

* nothing stored and nothing received: it returns none and has taken nothing;
* bytes that decode: it returns their text, and nothing stays stored;
* bytes that do not decode: it fails with the decoder's failure, and nothing stays stored
  either. The bytes are neither handed out nor kept, so no later read can deliver them: a
  character whose bytes arrive in two reads is lost with its first part.

`readString_eq_decoded` states this as an equation of runs, and `readString_consumes_storage`
adds what follows for the storage: only a failing drain leaves bytes stored.
-/

namespace Sockets

namespace Socket

variable {σ : Type} (H : Host σ) {st : Socket × σ}

/-- The state `st` with nothing stored. -/
def emptied (st : Socket × σ) : Socket × σ := ({ st.1 with storage := [] }, st.2)

theorem emptied_of_storage_nil (hs : st.1.storage = []) : emptied st = st := by
  obtain ⟨s, w⟩ := st
  cases s
  simp_all [emptied]

/-- A read of data that has the bytes stored in `st` to hand out: all of them, leaving nothing
stored. -/
def handOut (st : Socket × σ) : EStateM.Result Failure (Socket × σ) (List UInt8) :=
  .ok st.1.storage (emptied st)

/-- How a read of a string ends once it has taken the bytes `S`, in the state `st` it took them
in: none for no bytes, else their text, or the decoder's failure. -/
def decoded (S : List UInt8) (encoding : Value) (st : Socket × σ) :
    EStateM.Result Failure (Socket × σ) (Option Text) :=
  if S = [] then .ok none st
  else match Codec.decodeNamed encoding S with
    | .ok t => .ok (some t) st
    | .error e => .error e st

/-! ## Reading data -/

/-- Reading data on an open, connected socket hands out the bytes stored or, when none are,
the bytes its drain brings in; a drain that fails ends the read with its failure. -/
theorem readData_eq_handOut {h : Handle} (hnative : st.1.native = some h)
    (hopen : 0 ≤ H.fileno h st.2) (hconn : st.1.connected = true) :
    readData H st =
      if st.1.storage = [] then
        match drain H h receiveRounds st with
        | .ok _ st₁ => handOut st₁
        | .error e st₁ => .error e st₁
      else handOut st := by
  by_cases hs : st.1.storage = []
  · rw [if_pos hs]
    have hfill := fill_of_empty H hnative hopen hconn hs
    rcases hd : drain H h receiveRounds st with ⟨k, st₁⟩ | ⟨e, st₁⟩
    · rw [hd] at hfill
      -- the drain returns the size of the storage it leaves
      have hlen : Ends (drain H h receiveRounds) st _ _ := drain_length H h receiveRounds
      have hk := ok_of_ends hlen hd
      obtain ⟨s₁, w₁⟩ := st₁
      by_cases h0 : k = 0
      · have hs₁ : s₁.storage = [] := List.length_eq_zero_iff.1 (hk.symm.trans h0)
        simp only [readData, bind, EStateM.bind, hfill, h0, bne_self_eq_false, Bool.not_false,
          if_true, pure, EStateM.pure, handOut, hs₁, @emptied_of_storage_nil σ (s₁, w₁) hs₁]
      · simp [readData, bind, EStateM.bind, hfill, h0, current, takeStored_eq, handOut, emptied]
    · rw [hd] at hfill
      simp [readData, bind, EStateM.bind, hfill]
  · rw [if_neg hs]
    obtain ⟨s, w⟩ := st
    simp [readData, bind, EStateM.bind, fill_of_stored H hnative hopen hconn hs, current,
      takeStored_eq, handOut, emptied]

/-! ## Reading a string -/

/-- Reading a string is reading data and decoding what it handed out. -/
theorem readString_eq_after_readData (encoding : Value) :
    readString H encoding st =
      match readData H st with
      | .ok S st₁ => decoded S encoding st₁
      | .error e st₁ => .error e st₁ := by
  rcases hr : readData H st with ⟨S, st₁⟩ | ⟨e, st₁⟩
  · by_cases hS : S = []
    · simp [readString, bind, EStateM.bind, hr, decoded, hS, pure, EStateM.pure]
    · rcases hd : Codec.decodeNamed encoding S with e | t <;>
        simp [readString, bind, EStateM.bind, hr, decoded, hS, hd, rethrow, Functor.map,
          EStateM.map, throw, throwThe, MonadExceptOf.throw, EStateM.throw, pure, EStateM.pure]
  · simp [readString, bind, EStateM.bind, hr]

/-- Reading a string on an open, connected socket decodes the bytes stored or, when none are,
the bytes its drain brings in, once they have left the storage. -/
theorem readString_eq_decoded {h : Handle} (encoding : Value) (hnative : st.1.native = some h)
    (hopen : 0 ≤ H.fileno h st.2) (hconn : st.1.connected = true) :
    readString H encoding st =
      if st.1.storage = [] then
        match drain H h receiveRounds st with
        | .ok _ st₁ => decoded st₁.1.storage encoding (emptied st₁)
        | .error e st₁ => .error e st₁
      else decoded st.1.storage encoding (emptied st) := by
  rw [readString_eq_after_readData, readData_eq_handOut H hnative hopen hconn]
  split_ifs
  · rcases drain H h receiveRounds st with ⟨k, st₁⟩ | ⟨e, st₁⟩ <;> rfl
  · rfl

/-- What a read that took the bytes `S` ends in leaves the storage of the state it took them in. -/
theorem decoded_keeps_state {S : List UInt8} {encoding : Value} {st₁ : Socket × σ} :
    (∀ r st', decoded S encoding st₁ = .ok r st' → st' = st₁ ∧ (r = none ↔ S = [])) ∧
      ∀ e st', decoded S encoding st₁ = .error e st' → st' = st₁ := by
  unfold decoded
  refine ⟨fun r st' h => ?_, fun e st' h => ?_⟩
  · split_ifs at h with hS
    · cases h
      simp [hS]
    · split at h <;> cases h
      simp [hS]
  · -- no bytes make no failure
    have hS : S ≠ [] := by
      rintro rfl
      simp at h
    rw [if_neg hS] at h
    split at h <;> cases h
    rfl

/-- The storage contract of reading a string on an open, connected socket: it decodes the bytes
stored or, when none are, those its drain brings in, after they have left the storage; when it
returns, nothing stays stored, and it returns none only when nothing was stored before either;
and when it fails, either the drain failed or nothing stays stored. So bytes that do not decode
are lost: they are not handed out, and no later read finds them. -/
theorem readString_consumes_storage {h : Handle} (encoding : Value)
    (hnative : st.1.native = some h) (hopen : 0 ≤ H.fileno h st.2)
    (hconn : st.1.connected = true) :
    readString H encoding st =
      (if st.1.storage = [] then
        match drain H h receiveRounds st with
        | .ok _ st₁ => decoded st₁.1.storage encoding (emptied st₁)
        | .error e st₁ => .error e st₁
      else decoded st.1.storage encoding (emptied st)) ∧
    (∀ r st', readString H encoding st = .ok r st' →
      st'.1.storage = [] ∧ (r = none → st.1.storage = [])) ∧
    (∀ e st', readString H encoding st = .error e st' →
      st'.1.storage = [] ∨ (st.1.storage = [] ∧ drain H h receiveRounds st = .error e st')) := by
  have hrun := readString_eq_decoded H encoding hnative hopen hconn
  refine ⟨hrun, fun r st' hr => ?_, fun e st' he => ?_⟩
  · rw [hrun] at hr
    split_ifs at hr with hs
    · rcases hd : drain H h receiveRounds st with ⟨k, st₁⟩ | ⟨e, st₁⟩ <;> rw [hd] at hr
      · obtain ⟨rfl, -⟩ := decoded_keeps_state.1 r st' hr
        exact ⟨rfl, fun _ => hs⟩
      · cases hr
    · -- bytes were stored, so the read hands them out and returns their text
      obtain ⟨rfl, hnone⟩ := decoded_keeps_state.1 r st' hr
      exact ⟨rfl, fun h0 => absurd (hnone.1 h0) hs⟩
  · rw [hrun] at he
    split_ifs at he with hs
    · rcases hd : drain H h receiveRounds st with ⟨k, st₁⟩ | ⟨e', st₁⟩ <;> rw [hd] at he
      · exact .inl (by rw [decoded_keeps_state.2 e st' he]; rfl)
      · cases he
        exact .inr ⟨hs, rfl⟩
    · exact .inl (by rw [decoded_keeps_state.2 e st' he]; rfl)

/-- A connected socket on the open endpoint of `openStreamWorld` that has stored the first byte
of the two-byte character `é`. -/
def halfCharacter : Socket :=
  { native := some ⟨1⟩, signature := { family := .unix, type := .stream, protocol := .unix },
    connected := true, storage := [0xC3] }

/-- Reading a string takes the first byte of `é` out of the storage before it is decoded, so
the byte is gone whatever the decoder makes of it. -/
theorem half_character_taken_before_decoding :
    readString Machine.host (.str (Text.ofString "utf-8")) (halfCharacter, openStreamWorld) =
      decoded [0xC3] (.str (Text.ofString "utf-8"))
        ({ halfCharacter with storage := [] }, openStreamWorld) :=
  (@readString_consumes_storage World Machine.host (halfCharacter, openStreamWorld) ⟨1⟩
    (.str (Text.ofString "utf-8")) rfl (by decide +kernel) rfl).1.trans (if_neg (by decide))

end Socket

end Sockets
