import Sockets.Proofs.Serving
import Sockets.Socket.Options

/-!
# Waiting for readable sockets

A wait on many sockets (`waitReadable`) checks them in order before it calls the system: the
first one that is closed, or neither connected, listening nor bound, refuses the wait
(`waitRefusal`). Unless it waits without limit it checks the timeout next. It then selects once,
on a descriptor set that holds the descriptor of every socket (`watchSet`). The set has room for
`FD_SETSIZE` descriptors and for the greatest of its own, so it is built for any descriptors of
the system, however far beyond `FD_SETSIZE` they lie (`watchSet_holds`). The selection rewrites
the set to hold the ready descriptors only (`selectReady_holds`), and the wait reports, in order,
every socket with bytes stored or with a ready descriptor, or none when there is none
(`readyAmong`). A socket with bytes stored makes the selection return at once.

`wait_reports_ready_sockets` states this for every list of sockets and every answer of the
system (`ReportsReady`). Checking the sockets one by one (`status`) asks the same of the system
in another way, and when the system reports the same descriptors ready whatever it is asked
(`SelectsReadable`), the wait reports exactly the connected sockets the check finds readable.
-/

namespace Sockets

namespace Socket

variable {σ : Type} (H : Host σ)

/-! ## Positions of the sockets a test picks -/

/-- The positions of the sockets of `socks` that `ready` picks, in order; none when it picks
none. -/
def readyAmong (socks : List Socket) (ready : Socket → Bool) : Option (List Nat) :=
  let positions := (List.range socks.length).filter fun i => (socks[i]?).any ready
  if positions.isEmpty then none else some positions

/-- Reading back the elements at the positions a test picks gives the elements the test picks,
in order and with their repetitions. -/
theorem filterMap_getElem?_range_filter {α : Type} (l : List α) (p : α → Bool) :
    ((List.range l.length).filter fun i => (l[i]?).any p).filterMap (l[·]?) = l.filter p := by
  induction l with
  | nil => rfl
  | cons a t ih =>
    -- position 0 is the head; the others are the tail's positions shifted by one
    rw [List.length_cons, List.range_succ_eq_map, List.filter_cons, List.filter_map]
    cases hp : p a <;>
      simp [hp, List.filterMap_map, Function.comp_def, ih]

/-- The positions a test picks name, in order and with repetitions, the sockets it picks. -/
theorem readyAmong_sockets {socks : List Socket} {ready : Socket → Bool} {ps : List Nat}
    (h : readyAmong socks ready = some ps) : ps.filterMap (socks[·]?) = socks.filter ready := by
  simp only [readyAmong] at h
  split_ifs at h
  cases h
  exact filterMap_getElem?_range_filter socks ready

/-- A test picks no position exactly when it picks no socket. -/
theorem readyAmong_eq_none_iff {socks : List Socket} {ready : Socket → Bool} :
    readyAmong socks ready = none ↔ ∀ s ∈ socks, ready s = false := by
  have hread := filterMap_getElem?_range_filter socks ready
  simp only [readyAmong]
  constructor
  · intro h s hs
    split_ifs at h with hnil
    -- no position is picked, so no socket is
    rw [List.isEmpty_iff.1 hnil, List.filterMap_nil, eq_comm, List.filter_eq_nil_iff] at hread
    simpa using hread s hs
  · intro h
    have hnone : socks.filter ready = [] := List.filter_eq_nil_iff.2 fun s hs => by simp [h s hs]
    rw [hnone, List.filterMap_eq_nil_iff] at hread
    have hnil : ((List.range socks.length).filter fun i => (socks[i]?).any ready) = [] := by
      refine List.filter_eq_nil_iff.2 fun i hi => ?_
      -- a picked position would name a picked socket
      cases hs : socks[i]? with
      | none => simp
      | some s => simp [h s (List.mem_of_getElem? hs)]
    simp [hnil]

/-- Positions picked by a test of the element at each position are the positions `readyAmong`
gives. -/
theorem readyAmong_of_filter {socks : List Socket} {ready : Socket → Bool} {F : Nat → Bool}
    (hF : ∀ i, F i = (socks[i]?).any ready) :
    (if ((List.range socks.length).filter F).isEmpty then none
      else some ((List.range socks.length).filter F)) = readyAmong socks ready := by
  obtain rfl : F = fun i => (socks[i]?).any ready := funext hF
  rfl

/-- Tests that agree on the sockets pick the same positions. -/
theorem readyAmong_congr {socks : List Socket} {p q : Socket → Bool}
    (h : ∀ s ∈ socks, p s = q s) : readyAmong socks p = readyAmong socks q := by
  refine (readyAmong_of_filter fun i => ?_).symm
  cases hs : socks[i]? with
  | none => rfl
  | some s => exact (h s (List.mem_of_getElem? hs)).symm

/-! ## The descriptor set of a wait -/

/-- A descriptor of the system: the number of an open native socket, non-negative and below
`2 ^ 31`. -/
def IsDescriptor (d : Int) : Prop := 0 ≤ d ∧ d < 2 ^ 31

instance (d : Int) : Decidable (IsDescriptor d) := inferInstanceAs (Decidable (_ ∧ _))

/-- The greatest of some integers, or -1 for none, is at least each of them. -/
theorem le_max?_getD {fds : List Int} {d : Int} (hd : d ∈ fds) : d ≤ fds.max?.getD (-1) := by
  obtain ⟨m, hm⟩ := Option.isSome_iff_exists.1 (List.isSome_max?_of_mem hd)
  rw [hm, Option.getD_some]
  exact (List.max?_eq_some_iff.1 hm).2 d hd

/-- The descriptor set of a wait on descriptors of the system is never refused: it holds
exactly those descriptors. -/
theorem watchSet_holds {fds : List Int} (hfds : ∀ d ∈ fds, IsDescriptor d) :
    ∃ set, watchSet fds = .ok set ∧ ∀ d : Int, d ∈ set.toList.map Int.ofNat ↔ d ∈ fds := by
  set n : Int := max (Limits.fdSetSize : Int) (fds.max?.getD (-1) + 1) with hn
  have hsize : (Limits.fdSetSize : Int) = 1024 := rfl
  -- the size is positive, above every descriptor, and small enough to allocate
  have hbelow : ∀ d ∈ fds, d < n := fun d hd => by
    have := le_max?_getD hd
    omega
  have hfit : n ≤ 2 ^ 31 := by
    rcases hmax : fds.max? with _ | m
    · simp [hn, hmax, hsize]
    · have hm := (hfds m (List.max?_mem hmax)).2
      simp only [hn, hmax, Option.getD_some, hsize]
      omega
  have hempty : DescriptorSet.empty (.int n) = .ok ⟨Array.replicate ((n.toNat + 63) / 64) 0⟩ :=
    DescriptorSet.empty_of_pos rfl (by omega) (by omega)
  obtain ⟨helems, hcap⟩ := DescriptorSet.empty_spec rfl hempty
  have hfits : ∀ v ∈ fds.map Value.int,
      (⟨Array.replicate ((n.toNat + 63) / 64) 0⟩ : DescriptorSet).Fits v := by
    simp only [List.mem_map]
    rintro v ⟨d, hd, rfl⟩
    have := hbelow d hd
    exact ⟨d.toNat, by simp [Value.asInt?, (hfds d hd).1], by omega⟩
  obtain ⟨t, ht, -, htelems⟩ := DescriptorSet.foldlM_add_fits _ hfits
  refine ⟨t, ?_, fun d => ?_⟩
  · simp [watchSet, ← hn, hempty, bind, Except.bind, ht]
  · rw [helems, Finset.empty_union] at htelems
    have hmem : ∀ m : Nat, m ∈ t.toList ↔ ∃ d ∈ fds, d.toNat = m := fun m => by
      rw [(DescriptorSet.toList_spec t).2, htelems]
      simp [DescriptorSet.named, Value.asInt?]
    simp only [List.mem_map]
    constructor
    · rintro ⟨m, hm, rfl⟩
      obtain ⟨d', hd', rfl⟩ := (hmem m).1 hm
      rw [Int.ofNat_eq_natCast, Int.toNat_of_nonneg (hfds d' hd').1]
      exact hd'
    · intro hd
      exact ⟨d.toNat, (hmem _).2 ⟨d, hd, rfl⟩, by
        rw [Int.ofNat_eq_natCast, Int.toNat_of_nonneg (hfds d hd).1]⟩

/-- The selection of a wait: the set it rewrites holds exactly the descriptors the system
reports ready, when each of them is one the set held; a failure of the system is the
selection's failure. -/
theorem selectReady_holds (set : DescriptorSet) (limit : Option Nat) (w : σ) :
    (∀ R W w', H.select (set.toList.map Int.ofNat) [] limit w = .ok (R, W) w' →
      (∀ d ∈ R, d ∈ set.toList.map Int.ofNat) →
      ∃ t, selectReady H set limit w = .ok t w' ∧ ∀ d : Int, t.mem (.int d) = R.contains d) ∧
    (∀ e w', H.select (set.toList.map Int.ofNat) [] limit w = .error e w' →
      selectReady H set limit w = .error e w') := by
  have hbelow : ∀ m ∈ set.toList, m < set.capacity := fun m hm =>
    (DescriptorSet.mem_elems.mp (((DescriptorSet.toList_spec set).2 m).mp hm)).1
  refine ⟨fun R W w' hsel hR => ?_, fun e w' hsel => ?_⟩
  · -- every reported descriptor is a member, so it fits the cleared set
    have hfits : ∀ v ∈ R.map Value.int, set.clear.Fits v := by
      simp only [List.mem_map]
      rintro v ⟨d, hd, rfl⟩
      obtain ⟨m, hm, rfl⟩ := List.mem_map.1 (hR d hd)
      exact ⟨m, rfl, (DescriptorSet.capacity_clear set).symm ▸ hbelow m hm⟩
    obtain ⟨t, ht, htcap, htelems⟩ := DescriptorSet.foldlM_add_fits _ hfits
    refine ⟨t, by simp [selectReady, bind, EStateM.bind, hsel, ht, pure, EStateM.pure], fun d => ?_⟩
    rw [DescriptorSet.elems_clear, Finset.empty_union] at htelems
    -- the set holds a descriptor exactly when the system reported it
    have hnamed : ∀ m : Nat, m ∈ DescriptorSet.named (R.map Value.int) ↔ (m : Int) ∈ R := by
      intro m
      simp only [DescriptorSet.named, List.filterMap_map, Function.comp_def, Value.asInt?,
        Option.map_some, List.mem_toFinset, List.mem_filterMap, Option.some.injEq]
      constructor
      · rintro ⟨r, hr, rfl⟩
        obtain ⟨k, -, rfl⟩ := List.mem_map.1 (hR r hr)
        simpa using hr
      · intro hm
        exact ⟨m, hm, by simp⟩
    rw [Bool.eq_iff_iff, DescriptorSet.mem_iff, List.contains_iff_mem, htelems]
    constructor
    · rintro ⟨m, hm, -, hmR⟩
      obtain rfl : d = m := Option.some.inj hm
      exact (hnamed m).1 hmR
    · intro hd
      obtain ⟨m, hm, rfl⟩ := List.mem_map.1 (hR d hd)
      exact ⟨m, rfl, htcap ▸ (DescriptorSet.capacity_clear set).symm ▸ hbelow m hm,
        (hnamed m).2 hd⟩
  · simp [selectReady, bind, EStateM.bind, hsel]

/-! ## The wait -/

/-- How long a wait selects: not at all when some socket has bytes stored, else `limit`. -/
def selectLimit (socks : List Socket) (limit : Option Nat) : Option Nat :=
  if socks.any (!·.storage.isEmpty) then some 0 else limit

/-- The failure a wait raises for a failure of the selection: an OS error or a value error is
"select failed", with its text; anything else stays as it is. -/
def selectFailure (f : Failure) : Failure :=
  if f.isOsError || f.isValueError then Failure.code .selectFailed (some f.reason) else f

/-- Whether a socket is ready after a selection that reported the descriptors `R` ready: it has
bytes stored, or its descriptor is reported. -/
def readyAfter (w : σ) (R : List Int) (s : Socket) : Bool :=
  !s.storage.isEmpty || R.contains (descriptor H s w)

variable {socks : List Socket} {timeout : Value} {waitForever : Bool} {w : σ}

/-- A wait that some socket refuses fails with that socket's refusal, before any call. -/
theorem waitReadable_refused {f : Failure} (hf : socks.findSome? (waitRefusal H w) = some f) :
    waitReadable H socks timeout waitForever w = .error f w := by
  simp [waitReadable, hf, bind, EStateM.bind, get, getThe, MonadStateOf.get, EStateM.get, throw,
    throwThe, MonadExceptOf.throw, EStateM.throw]

/-- A wait that no socket refuses fails with the refusal of its timeout, before any call. -/
theorem waitReadable_timeout_refused {f : Failure}
    (hf : socks.findSome? (waitRefusal H w) = none) (hl : waitLimit waitForever timeout = .error f) :
    waitReadable H socks timeout waitForever w = .error f w := by
  simp [waitReadable, hf, hl, bind, EStateM.bind, get, getThe, MonadStateOf.get, EStateM.get,
    throw, throwThe, MonadExceptOf.throw, EStateM.throw, pure]

/-- Past its checks, a wait is its selection on the set of its descriptors: what the selection
returns decides which sockets are ready, and a failure of the selection fails the wait. -/
theorem waitReadable_selected {limit : Option Nat} {set : DescriptorSet}
    (hf : socks.findSome? (waitRefusal H w) = none) (hl : waitLimit waitForever timeout = .ok limit)
    (hs : watchSet (socks.map fun s => descriptor H s w) = .ok set) :
    (∀ t w', selectReady H set (selectLimit socks limit) w = .ok t w' →
      waitReadable H socks timeout waitForever w =
        .ok (readyAmong socks fun s => !s.storage.isEmpty || t.mem (.int (descriptor H s w))) w') ∧
    (∀ e w', selectReady H set (selectLimit socks limit) w = .error e w' →
      waitReadable H socks timeout waitForever w = .error (selectFailure e) w') := by
  unfold selectLimit
  refine ⟨fun t w' hsel => eq_ok_of_ends ?_, fun e w' hsel => eq_error_of_ends ?_⟩ <;>
    simp only [waitReadable, ↓ends_bind, ends_get, hf, hl, hs, ↓ends_tryCatch, ↓ends_pure] <;>
    rw [ends_eq] <;> refine ⟨fun t' w'' h => ?_, fun e' w'' h => ?_⟩ <;> rw [hsel] at h <;>
    cases h
  · exact ⟨readyAmong_of_filter fun i => by cases socks[i]? <;> rfl, rfl⟩
  · -- the selection's failure is coded as `selectFailure` codes it
    unfold selectFailure
    split <;> simp [ends_throw, *]

/-! ## Checking the sockets one by one -/

/-- The system reports the descriptors `ready` picks as ready for reading, whatever it is asked,
and answering changes nothing. -/
def SelectsReadable (ready : Int → Bool) (w : σ) : Prop :=
  ∀ rs ws limit, ∃ W, H.select rs ws limit w = .ok (rs.filter ready, W) w

/-- Checking an open, connected socket without waiting, on a system that reports the
descriptors `ready` picks: it is readable when its descriptor is ready or it has bytes stored. -/
theorem readiness_of_selectsReadable {ready : Int → Bool} (hsel : SelectsReadable H ready w)
    {s : Socket} (hopen : 0 ≤ descriptor H s w) (hconn : s.connected = true) :
    ∃ writable, readiness H false (.int 0) (s, w) =
      .ok (ready (descriptor H s w) || !s.storage.isEmpty, writable) (s, w) := by
  cases hn : s.native with
  | none => simp [descriptor, hn, Limits.invalidDescriptor] at hopen
  | some h =>
    have hfd : descriptor H s w = H.fileno h w := by simp [descriptor, hn]
    obtain ⟨W, hW⟩ := hsel [H.fileno h w] [H.fileno h w] (some 0)
    refine ⟨W.contains (H.fileno h w), ?_⟩
    rw [hfd]
    apply eq_ok_of_ends
    have hopen' : 0 ≤ H.fileno h w := hfd ▸ hopen
    have hlimit : waitLimit false (.int 0) = .ok (some 0) := rfl
    simp only [readiness, pollDescriptor, pollFor, ↓ends_bind, ends_checkDescriptor, hn,
      ↓ends_current, ↓ends_system, hconn, ↓ends_ite, ↓ends_rethrow, ↓ends_orCode, ends_sys,
      ends_pure]
    cases hr : ready (H.fileno h w) <;> simp [hopen', hlimit, hW, hr]

/-- Checking sockets one by one on a system that reports the descriptors `ready` picks: every
socket is checked, the system does not change, and the readable ones are, from position `i` on,
those with a ready descriptor or bytes stored. -/
theorem statusFrom_of_selectsReadable {ready : Int → Bool} (hsel : SelectsReadable H ready w) :
    ∀ (socks : List Socket) (i : Nat), (∀ s ∈ socks, 0 ≤ descriptor H s w ∧ s.connected = true) →
      ∃ ws, statusFrom H i socks w =
        .ok (((List.range socks.length).filter fun j =>
          (socks[j]?).any fun s => ready (descriptor H s w) || !s.storage.isEmpty).map (· + i),
          ws) w := by
  intro socks
  induction socks with
  | nil => exact fun i _ => ⟨[], rfl⟩
  | cons s rest ih =>
    intro i hall
    obtain ⟨wr, hs⟩ := readiness_of_selectsReadable H hsel (hall s (by simp)).1
      (hall s (by simp)).2
    obtain ⟨ws, hrest⟩ := ih (i + 1) fun s' hs' => hall s' (by simp [hs'])
    refine ⟨if wr then i :: ws else ws, ?_⟩
    -- the head is checked first, at position `i`; the rest from `i + 1`
    rw [statusFrom]
    simp only [hs, hrest, List.length_cons, List.range_succ_eq_map, List.filter_cons,
      List.filter_map]
    cases hr : (ready (descriptor H s w) || !s.storage.isEmpty) <;>
      simp [hr, Function.comp_def, Nat.add_comm, Nat.add_left_comm]

/-! ## The contract -/

/-- What a wait on the sockets `socks` in the state `w` does, by the checks it makes and the
answers of the system:

* `refused`: the first socket that is closed or inactive refuses the wait, before any call;
* `timeoutRefused`: with every socket accepted, a refused timeout fails the wait, before any
  call;
* `selects`: otherwise the wait selects once, on the descriptors of the sockets in ascending
  order, each once, waiting as `selectLimit` says; for every answer of the system that reports
  some of them ready it returns the sockets with bytes stored or a ready descriptor, in order
  (`readyAmong`), and a failure of the selection fails the wait (`selectFailure`);
* `likeStatus`: on a system that reports the same descriptors ready whatever it is asked, the
  wait on connected sockets reports exactly the sockets that checking them one by one finds
  readable, and none when there are none. -/
structure ReportsReady (socks : List Socket) (timeout : Value) (waitForever : Bool) (w : σ) :
    Prop where
  refused : ∀ f, socks.findSome? (waitRefusal H w) = some f →
    waitReadable H socks timeout waitForever w = .error f w
  timeoutRefused : socks.findSome? (waitRefusal H w) = none →
    ∀ f, waitLimit waitForever timeout = .error f →
      waitReadable H socks timeout waitForever w = .error f w
  selects : socks.findSome? (waitRefusal H w) = none →
    ∀ limit, waitLimit waitForever timeout = .ok limit →
      ∃ L : List Int, L.Pairwise (· < ·) ∧ (∀ d, d ∈ L ↔ ∃ s ∈ socks, descriptor H s w = d) ∧
        (∀ R W w', H.select L [] (selectLimit socks limit) w = .ok (R, W) w' →
          (∀ d ∈ R, d ∈ L) →
          waitReadable H socks timeout waitForever w = .ok (readyAmong socks (readyAfter H w R)) w') ∧
        (∀ e w', H.select L [] (selectLimit socks limit) w = .error e w' →
          waitReadable H socks timeout waitForever w = .error (selectFailure e) w')
  likeStatus : ∀ ready, SelectsReadable H ready w →
    (∀ s ∈ socks, 0 ≤ descriptor H s w ∧ s.connected = true) →
    ∀ limit, waitLimit waitForever timeout = .ok limit →
      ∃ readable writable, status H socks w = .ok (readable, writable) w ∧
        waitReadable H socks timeout waitForever w =
          .ok (if readable = [] then none else some readable) w

/-- Past the checks, the descriptors of the sockets are descriptors of the system, and the
watched set holds exactly them. -/
theorem watched_descriptors (hfd : ∀ s ∈ socks, -1 ≤ descriptor H s w ∧ descriptor H s w < 2 ^ 31)
    (hf : socks.findSome? (waitRefusal H w) = none) :
    ∃ set, watchSet (socks.map fun s => descriptor H s w) = .ok set ∧
      ∀ d : Int, d ∈ set.toList.map Int.ofNat ↔ ∃ s ∈ socks, descriptor H s w = d := by
  have hopen : ∀ d ∈ socks.map fun s => descriptor H s w, IsDescriptor d := by
    simp only [List.mem_map]
    rintro d ⟨s, hs, rfl⟩
    -- no socket is refused, so none is closed
    have hne : descriptor H s w ≠ -1 := by
      intro h
      have := List.findSome?_eq_none_iff.1 hf s hs
      simp [waitRefusal, h, Limits.invalidDescriptor] at this
    have := hfd s hs
    exact ⟨by omega, this.2⟩
  obtain ⟨set, hset, hmem⟩ := watchSet_holds hopen
  exact ⟨set, hset, fun d => (hmem d).trans (by simp)⟩

/-- A wait on sockets whose descriptors are those of the system (numbers below `2 ^ 31`), or -1
once closed, does what `ReportsReady` says, for every timeout and whether or not it waits without
limit. -/
theorem wait_reports_ready_sockets
    (hfd : ∀ s ∈ socks, -1 ≤ descriptor H s w ∧ descriptor H s w < 2 ^ 31) :
    ReportsReady H socks timeout waitForever w where
  refused _ hf := waitReadable_refused H hf
  timeoutRefused hf _ hl := waitReadable_timeout_refused H hf hl
  selects hf limit hl := by
    obtain ⟨set, hset, hmem⟩ := watched_descriptors H hfd hf
    obtain ⟨hok, herr⟩ := waitReadable_selected H hf hl hset
    obtain ⟨hsok, hserr⟩ := selectReady_holds H set (selectLimit socks limit) w
    refine ⟨set.toList.map Int.ofNat, ?_, hmem, fun R W w' hsel hR => ?_,
      fun e w' hsel => herr e w' (hserr e w' hsel)⟩
    · exact List.pairwise_map.2 ((DescriptorSet.toList_spec set).1.imp Int.ofNat_lt.2)
    · -- the rewritten set answers membership as the reported list does
      obtain ⟨t, ht, htmem⟩ := hsok R W w' hsel hR
      rw [hok t w' ht]
      simp only [htmem]
      rfl
  likeStatus ready hsel hall limit hl := by
    have hf : socks.findSome? (waitRefusal H w) = none :=
      List.findSome?_eq_none_iff.2 fun s hs => by
        have := hall s hs
        simp [waitRefusal, this.2, Limits.invalidDescriptor, show descriptor H s w ≠ -1 by omega]
    obtain ⟨set, hset, hmem⟩ := watched_descriptors H hfd hf
    obtain ⟨ws, hstatus⟩ := statusFrom_of_selectsReadable H hsel socks 0 hall
    refine ⟨_, ws, by simpa [status] using hstatus, ?_⟩
    -- the system answers the wait with the watched descriptors it reports ready
    obtain ⟨W, hW⟩ := hsel (set.toList.map Int.ofNat) [] (selectLimit socks limit)
    obtain ⟨hsok, -⟩ := selectReady_holds H set (selectLimit socks limit) w
    obtain ⟨t, ht, htmem⟩ := hsok _ W w hW fun d hd => List.mem_of_mem_filter hd
    rw [(waitReadable_selected H hf hl hset).1 t w ht]
    -- a watched descriptor is in the rewritten set exactly when the system reports it ready
    have hready : (readyAmong socks fun s => !s.storage.isEmpty || t.mem (.int (descriptor H s w))) =
        readyAmong socks fun s => ready (descriptor H s w) || !s.storage.isEmpty :=
      readyAmong_congr fun s hs => by
        have hL : descriptor H s w ∈ set.toList.map Int.ofNat := (hmem _).2 ⟨s, hs, rfl⟩
        rw [htmem, Bool.or_comm]
        simp [hL]
    rw [hready]
    simp only [readyAmong, List.isEmpty_iff]

/-- A wait that lists one connected socket with bytes stored twice, on the machine. -/
theorem repeated_socket_wait_reports_ready :
    ReportsReady Machine.host [stocked, stocked] (.int 0) false openStreamWorld :=
  wait_reports_ready_sockets Machine.host (by decide +kernel)

end Socket

end Sockets
