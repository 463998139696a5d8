import Sockets.Proofs.Tracing
import Sockets.Proofs.Frames

/-!
# What a write sends

A write sends the bytes of its data send after send, each send given the bytes not taken yet.
`Sent` says what one of these sends does, `Sends` what the write does with their answers.

* *One send.*  A socket without a delegate sends natively, and the write gets the system's
  answer. Through a delegate, a request to retry makes the write wait until the socket is
  writable and send the same bytes again (`Sent.retried`), so a send with a retry gives what the
  send without it gives (`Sent.retried_iff`); any other failure of the delegate's own is the
  socket failure with its code and reason.
* *The write.*  After a send that took `c ≥ 1` bytes the write goes on from there; a send that
  takes nothing means the transport was shut down; a send that would block ends the write with
  the total so far, unless the socket blocks and nothing was sent, which fails; any other OS
  failure is a stream failure.

On a tracing host whose delegates keep to their bounds on retries (`Host.SendRetriesBounded`),
a write of `N ≥ 1` bytes on an open connected socket makes exactly the calls `Sends` allows and
ends as it says (`write_sends`). So the total is at most `N` when no send took more than it was
given (`Sends.total_le`), and it is `N`, after at most `N` sends, when every send took some
(`Sends.total_of_taken`).
-/

namespace Sockets

namespace HostCall

/-- The bytes a send was given and the count it returned, for a send that returned. -/
def taken? : HostCall → Option (List UInt8 × Nat)
  | .send _ bytes (.ok c) => some (bytes, c)
  | .delegateSend _ bytes (.ok c) => some (bytes, c)
  | _ => none

end HostCall

/-- No send among `calls` took more bytes than it was given. -/
def Fits (calls : List HostCall) : Prop :=
  ∀ x ∈ calls, ∀ p ∈ x.taken?, p.2 ≤ p.1.length

theorem Fits.append {calls calls' : List HostCall} :
    Fits (calls ++ calls') ↔ Fits calls ∧ Fits calls' := by
  simp only [Fits, List.mem_append]
  grind

namespace Host

variable {σ : Type}

/-- The delegates keep to their bounds on retried sends: a send that asks to retry lowers the
bound of its delegate, and waiting for readiness does not raise it. -/
structure SendRetriesBounded (H : Host σ) : Prop where
  send : ∀ d h data w e w', H.delegates.send d h data w = .error (.delegate e) w' →
    e.isRetry = true → H.delegates.sendRetries d w' < H.delegates.sendRetries d w
  select : ∀ d readable writable wait w ready w',
    H.select readable writable wait w = .ok ready w' →
      H.delegates.sendRetries d w' ≤ H.delegates.sendRetries d w

end Host

namespace Socket

open Host

/-! ## One send -/

/-- One send of `bytes` as a write makes it, through the delegate `via` or natively on `h`: the
calls it makes, in order, and what it gives the write. -/
inductive Sent (h : Handle) (bytes : List UInt8) :
    Option String → List HostCall → Except Failure Nat → Prop
  /-- A native send is one call, whose answer the write gets. -/
  | native (answer : Except Failure Nat) : Sent h bytes none [.send h bytes answer] answer
  /-- The delegate's answer is the write's, unless it is a failure of the delegate's own. -/
  | answered (d : String) (answer : Except Failure Nat)
      (hanswer : ∀ e, answer ≠ .error (.delegate e)) :
      Sent h bytes (some d) [.delegateSend d bytes answer] answer
  /-- A failure of the delegate's own, other than a request to retry, is the socket failure with
  its code and reason. -/
  | refused (d : String) (e : DelegateError) (he : e.isRetry = false) :
      Sent h bytes (some d) [.delegateSend d bytes (.error (.delegate e))]
        (.error (.socket e.toSocketError))
  /-- A request to retry: the write waits until the socket is writable and sends the same bytes
  again. -/
  | retried (d : String) (e : DelegateError) (he : e.isRetry = true) (fd : Int) (hfd : 0 ≤ fd)
      (ready : List Int × List Int) {calls : List HostCall} {answer : Except Failure Nat}
      (again : Sent h bytes (some d) calls answer) :
      Sent h bytes (some d)
        (.delegateSend d bytes (.error (.delegate e)) :: .select [] [fd] (.ok ready) :: calls)
        answer
  /-- A request to retry while the descriptor is closed: a bad descriptor. -/
  | closedWhileWaiting (d : String) (e : DelegateError) (he : e.isRetry = true) :
      Sent h bytes (some d) [.delegateSend d bytes (.error (.delegate e))]
        (.error (Failure.code .badDescriptor))
  /-- A request to retry whose wait fails: the wait's failure, as a failed select. -/
  | waitFailed (d : String) (e : DelegateError) (he : e.isRetry = true) (fd : Int) (hfd : 0 ≤ fd)
      (f : Failure) :
      Sent h bytes (some d)
        [.delegateSend d bytes (.error (.delegate e)), .select [] [fd] (.error f)]
        (.error (coded .selectFailed f))

namespace Sent

variable {h : Handle} {bytes : List UInt8}

/-- A send with a request to retry, and the wait it makes, gives what the send without them
gives. -/
theorem retried_iff {d : String} {e : DelegateError} (he : e.isRetry = true) {fd : Int}
    (hfd : 0 ≤ fd) {ready : List Int × List Int} {calls : List HostCall}
    {answer : Except Failure Nat} :
    Sent h bytes (some d)
        (.delegateSend d bytes (.error (.delegate e)) :: .select [] [fd] (.ok ready) :: calls)
        answer ↔
      Sent h bytes (some d) calls answer := by
  constructor
  · intro hsent
    cases hsent with
    | retried _ _ _ _ _ _ again => exact again
  · exact retried d e he fd hfd ready

/-- A send that returned took no more than it was given, if no call of it did. -/
theorem count_le {via : Option String} {calls : List HostCall} {answer : Except Failure Nat}
    (hsent : Sent h bytes via calls answer) (hfits : Fits calls) :
    ∀ c, answer = .ok c → c ≤ bytes.length := by
  induction hsent with
  | native answer =>
    rintro c rfl
    exact hfits (.send h bytes (.ok c)) (by simp) (bytes, c) rfl
  | answered d answer _ =>
    rintro c rfl
    exact hfits (.delegateSend d bytes (.ok c)) (by simp) (bytes, c) rfl
  | retried d e he fd hfd ready again ih =>
    exact ih fun x hx => hfits x (by simp [hx])
  | refused | closedWhileWaiting | waitFailed => simp

end Sent

/-! ## The sends of a write -/

/-- The sends of a write of `data` through the delegate `via` or natively on `h`, from `sent`
bytes on, with the answers they gave the write, in order: the calls they make, and how the write
ends. -/
inductive Sends (h : Handle) (via : Option String) (data : List UInt8) (blocking : Bool) :
    Nat → List (Except Failure Nat) → List HostCall → Except Failure Nat → Prop
  /-- Everything is sent: the write returns the total. -/
  | done {sent : Nat} (hsent : data.length ≤ sent) :
      Sends h via data blocking sent [] [] (.ok sent)
  /-- A send of the bytes not taken yet took some; the write goes on after them. -/
  | took {sent c : Nat} {round : List HostCall} {answers : List (Except Failure Nat)}
      {calls : List HostCall} {r : Except Failure Nat} (hsent : sent < data.length)
      (hround : Sent h (data.drop sent) via round (.ok (c + 1)))
      (rest : Sends h via data blocking (sent + (c + 1)) answers calls r) :
      Sends h via data blocking sent (.ok (c + 1) :: answers) (round ++ calls) r
  /-- A send that takes nothing: the transport was shut down. -/
  | shut {sent : Nat} {round : List HostCall} (hsent : sent < data.length)
      (hround : Sent h (data.drop sent) via round (.ok 0)) :
      Sends h via data blocking sent [.ok 0] round
        (.error (Failure.code .writeFailed "Transport shutdown"))
  /-- A send that would block ends the write with the total so far, unless the socket blocks
  and nothing was sent. -/
  | blocked {sent : Nat} {round : List HostCall} {f : Failure} (hsent : sent < data.length)
      (hround : Sent h (data.drop sent) via round (.error f)) (hf : f.isBlocking = true) :
      Sends h via data blocking sent [.error f] round
        (if !blocking || sent > 0 then .ok sent
          else .error (Failure.code .writeFailed (some f.reason)))
  /-- Any other failure ends the write: an OS failure as a stream failure, else as it is. -/
  | failed {sent : Nat} {round : List HostCall} {f : Failure} (hsent : sent < data.length)
      (hround : Sent h (data.drop sent) via round (.error f)) (hf : f.isBlocking = false) :
      Sends h via data blocking sent [.error f] round
        (.error (if f.isOsError then streamError f .writeFailed else f))

namespace Sends

variable {h : Handle} {via : Option String} {data : List UInt8} {blocking : Bool}

/-- When no send took more than it was given, the total is at most the length of the data. -/
theorem total_le {sent : Nat} {answers : List (Except Failure Nat)} {calls : List HostCall}
    {r : Except Failure Nat} (hsends : Sends h via data blocking sent answers calls r)
    (hsent : sent ≤ data.length) (hfits : Fits calls) :
    ∀ t, r = .ok t → t ≤ data.length := by
  induction hsends with
  | done hdone =>
    rintro t ⟨⟩
    exact hsent
  | took hlt hround rest ih =>
    rw [Fits.append] at hfits
    -- the send took at most the bytes it was given, which are those not taken yet
    have hc := hround.count_le hfits.1 _ rfl
    rw [List.length_drop] at hc
    exact ih (by omega) hfits.2
  | shut => simp
  | blocked hlt hround hf =>
    intro t ht
    split at ht
    · cases ht
      exact hsent
    · cases ht
  | failed => simp

/-- When every send took some bytes, the write returns a total of at least the length of the
data, after at most one send per byte not sent yet. -/
theorem total_of_taken {sent : Nat} {answers : List (Except Failure Nat)}
    {calls : List HostCall} {r : Except Failure Nat}
    (hsends : Sends h via data blocking sent answers calls r)
    (htaken : ∀ a ∈ answers, ∃ c, a = .ok (c + 1)) :
    ∃ t, r = .ok t ∧ data.length ≤ t ∧ sent + answers.length ≤ max sent data.length := by
  induction hsends with
  | @done sent hdone =>
    refine ⟨sent, rfl, hdone, ?_⟩
    simp only [List.length_nil, Nat.add_zero]
    omega
  | @took sent c _ answers _ _ hlt _ _ ih =>
    obtain ⟨t, rfl, ht, hlen⟩ := ih fun a ha => htaken a (List.mem_cons_of_mem _ ha)
    refine ⟨t, rfl, ht, ?_⟩
    simp only [List.length_cons]
    omega
  | shut | blocked | failed => simp at htaken

end Sends

/-! ## Running the sends on a tracing host -/

section Run

variable {σ : Type} (H : Host σ) {s : Socket} {h : Handle} {w : σ} {trace : List HostCall}

/-- What a step of a write that sends leaves: the socket as it was, and calls written after
`trace` that `spec` allows with the step's result. -/
def Leaves {α : Type} (s : Socket) (trace : List HostCall)
    (spec : List HostCall → Except Failure α → Prop)
    (r : Except Failure α) (st' : Socket × (σ × List HostCall)) : Prop :=
  st'.1 = s ∧ ∃ calls, st'.2.2 = trace ++ calls ∧ spec calls r

theorem delegateSend_sent (hH : H.SendRetriesBounded) (hn : s.native = some h) (d : String)
    (bytes : List UInt8) (fuel : Nat) (hfuel : H.delegates.sendRetries d w < fuel) :
    Ends (delegateSend H.tracing d bytes fuel) (s, (w, trace))
      (fun c st' => Leaves s trace (Sent h bytes (some d)) (.ok c) st')
      (fun f st' => Leaves s trace (Sent h bytes (some d)) (.error f) st') := by
  -- the fuel stays above the delegate's bound: each retry lowers the bound, waiting does not
  -- raise it
  induction fuel generalizing w trace with
  | zero => omega
  | succ fuel ih =>
    simp only [delegateSend, ↓ends_bind, ↓ends_current, ↓ends_attempt, tracing_delegates_send,
      ↓ends_sys_traced]
    refine ⟨fun c _ _ => ⟨rfl, _, rfl, .answered d (.ok c) (by simp)⟩, fun f w' hsend => ?_⟩
    cases f
    case delegate e =>
      cases he : e.isRetry
      case false =>
        simp only [he, Bool.not_false, ite_true, ↓ends_bind, ↓ends_throw]
        exact ⟨rfl, _, rfl, .refused d e he⟩
      case true =>
        simp only [he, Bool.not_true, Bool.false_eq_true, ite_false, ↓ends_bind, waitUntil,
          ↓ends_checkDescriptor, hn, ↓ends_system, pollFor, ↓ends_orCode, tracing_select,
          ↓ends_sys_traced, ↓ends_pure, tracing_fileno, ite_true]
        refine ⟨fun h' hh => ?_, fun hnone => absurd hnone (by simp)⟩
        cases hh
        split
        · exact ⟨rfl, _, rfl, .closedWhileWaiting d e he⟩
        next hopen =>
          have hfd : 0 ≤ H.fileno h w' := by omega
          refine ⟨fun ready w'' hsel => ?_,
            fun f _ _ => ⟨rfl, _, by simp, .waitFailed d e he _ hfd f⟩⟩
          -- the wait returned: the bound did not rise, so the fuel left still covers it
          have hbound := hH.send d s.native bytes w e w' hsend he
          have hwait := hH.select d [] [H.fileno h w'] none w' ready w'' hsel
          refine ends_mono (ih (by omega)) ?_ ?_ <;>
            rintro _ _ ⟨hs, calls, htr, hsent⟩ <;>
            exact ⟨hs, _ :: _ :: calls, by simp [htr], .retried d e he _ hfd ready hsent⟩
    all_goals
      exact ⟨rfl, _, rfl, .answered d _ (by simp)⟩

theorem sendOnce_sent (hH : H.SendRetriesBounded) (hn : s.native = some h) (bytes : List UInt8) :
    Ends (sendOnce H.tracing h bytes) (s, (w, trace))
      (fun c st' => Leaves s trace (Sent h bytes s.delegate) (.ok c) st')
      (fun f st' => Leaves s trace (Sent h bytes s.delegate) (.error f) st') := by
  simp only [sendOnce, ↓ends_bind, ↓ends_current]
  split
  next d hd =>
    simp only [↓ends_bind, ↓ends_system, tracing_delegates_sendRetries, hd]
    exact delegateSend_sent H hH hn d bytes _ (Nat.lt_succ_self _)
  next hd =>
    simp only [hd, tracing_send, ends_sys_traced]
    exact ⟨fun _ _ _ => ⟨rfl, _, rfl, .native _⟩, fun _ _ _ => ⟨rfl, _, rfl, .native _⟩⟩

/-- The sends of a write from `sent` bytes on, with fuel for more sends than bytes are left. -/
theorem sendAll_sends (hH : H.SendRetriesBounded) (hn : s.native = some h) (data : List UInt8)
    (fuel : Nat) (sent : Nat) (hfuel : data.length < sent + fuel) :
    Ends (sendAll H.tracing h data sent fuel) (s, (w, trace))
      (fun t st' => Leaves s trace
        (fun calls r => ∃ answers, Sends h s.delegate data s.blocking sent answers calls r)
        (.ok t) st')
      (fun f st' => Leaves s trace
        (fun calls r => ∃ answers, Sends h s.delegate data s.blocking sent answers calls r)
        (.error f) st') := by
  -- each send that does not end the write takes at least one byte, so the fuel never runs out
  induction fuel generalizing sent w trace with
  | zero => exact ⟨rfl, [], by simp, [], .done (by omega)⟩
  | succ fuel ih =>
    simp only [sendAll, ↓ends_ite, ↓ends_pure, ↓ends_bind, ↓ends_attempt]
    split
    · exact ⟨rfl, [], by simp, [], .done (by omega)⟩
    next hge =>
    have hlt : sent < data.length := by omega
    refine ends_mono (sendOnce_sent H hH hn _) ?_ ?_
    · rintro c ⟨s', w', tr'⟩ ⟨rfl, round, rfl, hround⟩
      cases c with
      | zero =>
        simp only [beq_self_eq_true, ite_true, ↓ends_throw]
        exact ⟨rfl, round, rfl, _, .shut hlt hround⟩
      | succ c =>
        refine ends_mono (ih (sent + (c + 1)) (by omega)) ?_ ?_ <;>
          rintro _ _ ⟨hs, calls, htr, answers, hsends⟩ <;>
          exact ⟨hs, round ++ calls, by simp [htr], _, .took hlt hround hsends⟩
    · rintro f ⟨s', w', tr'⟩ ⟨rfl, round, rfl, hround⟩
      -- a send that would block ends the write as the socket's mode and the total say
      cases hf : f.isBlocking
      · have hfailed : Sends h s'.delegate data s'.blocking sent [.error f] round
            (.error (if f.isOsError then streamError f .writeFailed else f)) :=
          .failed hlt hround hf
        simp only [Bool.false_eq_true, ite_false, ↓ends_throw]
        split
        next hos =>
          rw [if_pos hos] at hfailed
          exact ⟨rfl, round, rfl, _, hfailed⟩
        next hos =>
          rw [if_neg hos] at hfailed
          exact ⟨rfl, round, rfl, _, hfailed⟩
      · have hblocked := @Sends.blocked h s'.delegate data s'.blocking sent round f hlt hround hf
        simp only [ite_true, ↓ends_current, ↓ends_throw]
        split
        next hgive =>
          rw [if_pos hgive] at hblocked
          exact ⟨rfl, round, rfl, _, hblocked⟩
        next hgive =>
          rw [if_neg hgive] at hblocked
          exact ⟨rfl, round, rfl, _, hblocked⟩

/-- A write of `N ≥ 1` bytes on an open connected socket sends them as `Sends` says, from
nothing sent, with fuel for `N + 1` sends. -/
theorem write_sends (hH : H.SendRetriesBounded) (hn : s.native = some h)
    (hfd : 0 ≤ H.fileno h w) (hc : s.connected = true) {data : Value} {bytes : List UInt8}
    (hbytes : payload data = .ok bytes) (hne : bytes ≠ []) :
    Ends (write H.tracing data) (s, (w, trace))
      (fun t st' => Leaves s trace
        (fun calls r => ∃ answers, Sends h s.delegate bytes s.blocking 0 answers calls r)
        (.ok t) st')
      (fun f st' => Leaves s trace
        (fun calls r => ∃ answers, Sends h s.delegate bytes s.blocking 0 answers calls r)
        (.error f) st') := by
  have hopen : ¬H.fileno h w < 0 := by omega
  simp only [write, ↓ends_bind, ↓ends_rethrow, hbytes, ↓ends_checkDescriptor, hn,
    tracing_fileno, ↓ends_current, hc, ↓ends_ite, ↓ends_pure, ↓ends_throw]
  refine ⟨fun b hb => ?_, fun f hf => by cases hf⟩
  cases hb
  have hempty : bytes.isEmpty = false := by simpa using hne
  simp only [hempty, Bool.false_eq_true, ite_false, Bool.not_true]
  refine ⟨fun h' hh => ?_, fun hnone => by cases hnone⟩
  cases hh
  simp only [hopen, ite_false]
  exact sendAll_sends H hH hn bytes _ 0 (by omega)

end Run

/-- A write of `N ≥ 1` bytes on an open connected socket, on a tracing host whose delegates keep
to their bounds on retries, leaves the socket as it was and makes the calls of the sends that
`Sends` describes from nothing sent: the send after those that took `t` bytes is given the bytes
from `t` on. When the write returns `t`, then `t ≤ N` if no send took more than it was given,
and `t ≥ N` after at most `N` sends if every send took some; when it fails, some send did not
take any. A request to retry makes the write wait until writable and send the same bytes again,
and the send goes on as it would have without the request. -/
theorem write_sends_every_byte_once {σ : Type} (H : Host σ) (hH : H.SendRetriesBounded)
    {s : Socket} {h : Handle} {w : σ} (trace : List HostCall) (hn : s.native = some h)
    (hfd : 0 ≤ H.fileno h w) (hc : s.connected = true) {data : Value} {bytes : List UInt8}
    (hbytes : payload data = .ok bytes) (hne : bytes ≠ []) :
    Ends (write H.tracing data) (s, (w, trace))
      (fun t st' => st'.1 = s ∧ ∃ answers calls, st'.2.2 = trace ++ calls ∧
        Sends h s.delegate bytes s.blocking 0 answers calls (.ok t) ∧
        (Fits calls → t ≤ bytes.length) ∧
        ((∀ a ∈ answers, ∃ c, a = .ok (c + 1)) →
          bytes.length ≤ t ∧ answers.length ≤ bytes.length))
      (fun f st' => st'.1 = s ∧ ∃ answers calls, st'.2.2 = trace ++ calls ∧
        Sends h s.delegate bytes s.blocking 0 answers calls (.error f) ∧
        ∃ a ∈ answers, ∀ c, a ≠ .ok (c + 1)) ∧
    ∀ (rest : List UInt8) (d : String) (e : DelegateError) (fd : Int)
      (ready : List Int × List Int) (calls : List HostCall) (answer : Except Failure Nat),
      e.isRetry = true → 0 ≤ fd →
        (Sent h rest (some d)
            (.delegateSend d rest (.error (.delegate e)) :: .select [] [fd] (.ok ready) :: calls)
            answer ↔
          Sent h rest (some d) calls answer) := by
  refine ⟨ends_mono (write_sends H hH hn hfd hc hbytes hne) ?_ ?_,
    fun _ _ _ _ _ _ _ he hfd => Sent.retried_iff he hfd⟩
  · rintro t st' ⟨hs, calls, htr, answers, hsends⟩
    refine ⟨hs, answers, calls, htr, hsends,
      fun hfits => hsends.total_le (Nat.zero_le _) hfits t rfl, fun htaken => ?_⟩
    obtain ⟨t', ht', hge, hlen⟩ := hsends.total_of_taken htaken
    cases ht'
    exact ⟨hge, by simpa using hlen⟩
  · rintro f st' ⟨hs, calls, htr, answers, hsends⟩
    refine ⟨hs, answers, calls, htr, hsends, ?_⟩
    -- were every answer a count of at least one, the write would have returned
    by_cases hall : ∀ a ∈ answers, ∃ c, a = .ok (c + 1)
    · obtain ⟨t, ht, -⟩ := hsends.total_of_taken hall
      cases ht
    · simp only [Classical.not_forall, not_exists] at hall
      obtain ⟨a, ha, hnot⟩ := hall
      exact ⟨a, ha, hnot⟩


/-- A host whose delegate asks to retry a send or a receive while the system's count of retries
left is positive, using one up each time, and whose other calls succeed at once; a receive that
is not retried returns nothing. -/
def hesitantHost : Host Nat where
  fileno _ _ := 3
  family _ _ := 1
  socketType _ _ := 1
  blocking _ _ := true
  interruptions _ _ := 0
  create _ _ _ := pure ⟨1⟩
  adopt _ := pure ⟨1⟩
  close _ := pure ()
  shutdown _ _ := pure ()
  setBlocking _ _ := pure ()
  setOption _ _ _ := pure ()
  bind _ _ := pure ()
  listen _ _ := pure ()
  accept _ := pure (⟨2⟩, .none)
  connect _ _ := pure ()
  sockName _ := pure .none
  pendingError _ := pure 0
  recv _ _ _ := pure []
  recvFrom _ _ := pure ([], .none)
  send _ data := pure data.length
  sendTo _ data _ := pure data.length
  select readable writable _ := pure (readable, writable)
  unlink _ := pure ()
  resolve _ _ _ := pure []
  delegates :=
    { setUp := fun _ _ => pure ()
      tearDown := fun _ => pure ()
      onAccept := fun _ _ => pure ()
      onConnect := fun _ _ => pure ()
      send := fun _ _ data left =>
        if left = 0 then .ok data.length 0 else .error (.delegate .retry) (left - 1)
      recv := fun _ _ _ left => if left = 0 then .ok [] 0 else .error (.delegate .retry) (left - 1)
      sendRetries := fun _ left => left
      recvRetries := fun _ left => left }

theorem hesitantHost_sendRetriesBounded : hesitantHost.SendRetriesBounded where
  send _ _ _ left _ left' hsend _ := by
    simp only [hesitantHost] at hsend
    split at hsend
    · cases hsend
    · cases hsend
      show left - 1 < left
      omega
  select _ _ _ _ _ _ _ hselect := by
    cases hselect
    exact Nat.le_refl _

/-- An open connected stream socket with a delegate. -/
def delegatedConnection : Socket :=
  { native := some ⟨1⟩, signature := { family := .unix, type := .stream, protocol := .unix },
    delegate := some "tls", connected := true }

theorem hesitant_delegate_sends_every_byte_once :
    hesitantHost.SendRetriesBounded ∧ delegatedConnection.native = some ⟨1⟩ ∧
      0 ≤ hesitantHost.fileno ⟨1⟩ 1 ∧ delegatedConnection.connected = true ∧
      payload (.bytes [1, 2]) = .ok [1, 2] ∧ [1, 2] ≠ ([] : List UInt8) ∧
      (Ends (write hesitantHost.tracing (.bytes [1, 2])) (delegatedConnection, (1, []))
        (fun t st' => st'.1 = delegatedConnection ∧ ∃ answers calls, st'.2.2 = [] ++ calls ∧
          Sends ⟨1⟩ delegatedConnection.delegate [1, 2] delegatedConnection.blocking 0 answers
            calls (.ok t) ∧
          (Fits calls → t ≤ [1, 2].length) ∧
          ((∀ a ∈ answers, ∃ c, a = .ok (c + 1)) →
            [1, 2].length ≤ t ∧ answers.length ≤ [1, 2].length))
        (fun f st' => st'.1 = delegatedConnection ∧ ∃ answers calls, st'.2.2 = [] ++ calls ∧
          Sends ⟨1⟩ delegatedConnection.delegate [1, 2] delegatedConnection.blocking 0 answers
            calls (.error f) ∧
          ∃ a ∈ answers, ∀ c, a ≠ .ok (c + 1)) ∧
      ∀ (rest : List UInt8) (d : String) (e : DelegateError) (fd : Int)
        (ready : List Int × List Int) (calls : List HostCall) (answer : Except Failure Nat),
        e.isRetry = true → 0 ≤ fd →
          (Sent ⟨1⟩ rest (some d)
              (.delegateSend d rest (.error (.delegate e)) :: .select [] [fd] (.ok ready) :: calls)
              answer ↔
            Sent ⟨1⟩ rest (some d) calls answer)) :=
  ⟨hesitantHost_sendRetriesBounded, rfl, by decide, rfl, rfl, by simp,
    write_sends_every_byte_once hesitantHost hesitantHost_sendRetriesBounded [] rfl (by decide) rfl
      rfl (by simp)⟩

end Socket

end Sockets
