import Mathlib
import Sockets.DescriptorSet

/-!
# Descriptor sets are finite sets

A descriptor set is an array of 64-bit words, and it stands for the finite set of the descriptors
below its capacity whose bits are set (`DescriptorSet.elems`): descriptor `fd` is held when bit
`fd % 64` of word `fd / 64` is set (`has_eq`). Every operation acts on the words as the native
bitmap does, and on that finite set as on a finite set (`descriptorSet_refines_finset`).

* *Integers.* `w & ~m` keeps the bits of `w` that `m` lacks (`testBit_clear`), and `w & -w` of a
  positive `w` is `2 ^ t` for the lowest set bit `t` of `w` (`exists_lowestBit`).
* *Stores.* A word is below `2 ^ 64`, and so are the word with a bit set and the word with a bit
  cleared: the array takes every number that adding and removing store (`store_of_lt`), and the
  store changes the one bit of the descriptor (`store_bit`).
* *Locating.* Adding, removing and testing first locate the descriptor: an integer is refused with
  a value error naming it and the capacity exactly when it lies outside the capacity
  (`locate_of_asInt?`); any other value is refused too (`locate_refused`), so it changes nothing.
* *Iteration.* The lowest-set-bit loop yields the set bits of a word in ascending order
  (`bitsFrom_spec`), so iteration yields the members in ascending order (`toList_spec`). The bit
  count of a word is the number of its set bits (`bitCount_eq_card`), so the length is the number
  of members.
* *Runs.* One change acts on the finite set as on a finite set (`Change.apply_spec`), hence so does
  every run of changes (`run_spec`).
-/

namespace Sockets

namespace Value

/-! ## Comparing integers with numbers -/

theorem compareWith_int {c : Comparison} {v : Value} {n : Int} (h : v.asInt? = some n) (m : Int) :
    v.compareWith c (.int m) = .ok (c.holds (compare n m)) := by
  cases v <;> simp [asInt?] at h <;> subst h <;>
    simp [compareWith, compareBy, tupleItems?, asBytes?, number?, compareNumbers]

theorem lt_int {v : Value} {n : Int} (h : v.asInt? = some n) (m : Int) :
    v.lt (.int m) = .ok (decide (n < m)) := by
  simp only [lt, compareWith_int h, Comparison.holds, Except.ok.injEq]
  rw [Bool.eq_iff_iff]
  simp [compare_lt_iff_lt]

theorem ge_int {v : Value} {n : Int} (h : v.asInt? = some n) (m : Int) :
    v.ge (.int m) = .ok (decide (m ≤ n)) := by
  simp only [ge, compareWith_int h, Comparison.holds, Except.ok.injEq]
  rw [Bool.eq_iff_iff]
  simp [compare_lt_iff_lt]

theorem le_int {v : Value} {n : Int} (h : v.asInt? = some n) (m : Int) :
    v.le (.int m) = .ok (decide (n ≤ m)) := by
  simp only [le, compareWith_int h, Comparison.holds, Except.ok.injEq]
  rw [Bool.eq_iff_iff]
  simp [compare_gt_iff_gt]

end Value

namespace DescriptorSet

/-! ## Bits of integers -/

/-- `m & ~n` of naturals is a natural: the complement of `n` is negative. -/
theorem bitAnd_not (m n : Nat) : bitAnd m (~~~(n : Int)) = ((m ^^^ (m &&& n) : Nat) : Int) := rfl

/-- `m & ~n` keeps the bits of `m` that `n` lacks. -/
theorem testBit_clear (m n j : Nat) :
    (m ^^^ (m &&& n)).testBit j = (m.testBit j && !n.testBit j) := by
  rw [Nat.testBit_xor, Nat.testBit_and]
  cases m.testBit j <;> cases n.testBit j <;> rfl

theorem bitLength_two_pow (t : Nat) : bitLength (2 ^ t) = t + 1 := by
  simp [bitLength, Nat.log2_two_pow]

/-- `2 ^ t` times an odd number has bit `t` set and none below it. -/
theorem testBit_two_pow_mul_odd (t m j : Nat) :
    (2 ^ t * (2 * m + 1)).testBit j = (decide (t ≤ j) && (j = t || m.testBit (j - t - 1))) := by
  rw [Nat.testBit_two_pow_mul]
  by_cases hj : t ≤ j
  · obtain ⟨d, rfl⟩ := Nat.exists_eq_add_of_le hj
    cases d with
    | zero => simp [Nat.testBit_zero]
    | succ d =>
      rw [Nat.add_sub_cancel_left, Nat.testBit_add_one]
      simp [show (2 * m + 1) / 2 = m by omega]
  · simp [hj]

/-- A number other than zero has a lowest set bit `t`, and `w & -w` isolates it as `2 ^ t`. -/
theorem exists_lowestBit {w : Nat} (hw : w ≠ 0) :
    ∃ t, lowestBit w = 2 ^ t ∧ w.testBit t = true ∧ ∀ j < t, w.testBit j = false := by
  obtain ⟨t, n, hodd, rfl⟩ := Nat.exists_eq_two_pow_mul_odd hw
  obtain ⟨m, rfl⟩ := hodd
  refine ⟨t, ?_, by simp [testBit_two_pow_mul_odd], fun j hj => by
    simp [testBit_two_pow_mul_odd, Nat.not_le.mpr hj]⟩
  -- `w - 1` clears bit `t` and sets every bit below it, so only bit `t` is left of `w`
  have hpos : 0 < 2 ^ t := Nat.two_pow_pos t
  have hpred : 2 ^ t * (2 * m + 1) - 1 = 2 ^ t * (2 * m) + (2 ^ t - 1) := by
    rw [Nat.mul_add, Nat.mul_one]
    omega
  obtain ⟨k, hk⟩ : ∃ k, 2 ^ t * (2 * m + 1) = k + 1 :=
    ⟨_, (Nat.succ_pred_eq_of_pos (Nat.mul_pos hpos (Nat.succ_pos _))).symm⟩
  rw [hk, lowestBit_succ, ← hk, show k = 2 ^ t * (2 * m + 1) - 1 by omega, hpred]
  apply Nat.eq_of_testBit_eq
  intro j
  rw [testBit_clear, Nat.testBit_two_pow_mul_add _ (Nat.sub_lt hpos Nat.one_pos),
    testBit_two_pow_mul_odd, Nat.testBit_two_pow, Nat.testBit_two_pow_sub_one]
  by_cases hj : j < t
  · simp [hj, Nat.not_le.mpr hj, Nat.ne_of_gt hj]
  · obtain ⟨d, rfl⟩ := Nat.exists_eq_add_of_le (Nat.not_lt.mp hj)
    cases d with
    | zero => simp [Nat.testBit_zero]
    | succ d =>
      rw [Nat.add_sub_cancel_left, Nat.testBit_add_one]
      simp [show 2 * m / 2 = m by omega]

/-! ## Words and members -/

theorem capacity_eq (s : DescriptorSet) : s.capacity = s.words.size * 64 := rfl

theorem word_lt (s : DescriptorSet) (i : Nat) : s.word i < 2 ^ 64 := UInt64.toNat_lt _

/-- A word has no bit from 64 up. -/
theorem testBit_word_of_le (s : DescriptorSet) (i : Nat) {j : Nat} (hj : 64 ≤ j) :
    (s.word i).testBit j = false :=
  Nat.testBit_lt_two_pow (lt_of_lt_of_le (s.word_lt i) (Nat.pow_le_pow_right (by decide) hj))

theorem slot_eq (fd : Nat) : slot fd = ⟨fd / 64, 2 ^ (fd % 64)⟩ := by
  simp [slot, wordBits, Nat.one_shiftLeft]

/-- A descriptor is held when bit `fd % 64` of word `fd / 64` is set. -/
theorem has_eq (s : DescriptorSet) (fd : Nat) :
    s.has fd = (s.word (fd / 64)).testBit (fd % 64) := by
  rw [has, test, slot_eq, Nat.and_two_pow]
  cases (s.word (fd / 64)).testBit (fd % 64) <;> simp

/-- The descriptors a set holds: those below the capacity whose bits are set. -/
def elems (s : DescriptorSet) : Finset Nat := (Finset.range s.capacity).filter fun fd => s.has fd

@[simp] theorem mem_elems {s : DescriptorSet} {fd : Nat} :
    fd ∈ s.elems ↔ fd < s.capacity ∧ s.has fd = true := by
  simp [elems]

/-- A set whose words are all zero holds nothing. -/
theorem elems_eq_empty_of_words {s : DescriptorSet} (h : ∀ i, s.word i = 0) : s.elems = ∅ := by
  ext fd
  simp [has_eq, h]

/-- A word read back after a store of a number below `2 ^ 64`. -/
theorem word_setIfInBounds (s : DescriptorSet) {i w : Nat} (hw : w < 2 ^ 64) (j : Nat) :
    (⟨s.words.setIfInBounds i (UInt64.ofNat w)⟩ : DescriptorSet).word j =
      if i = j ∧ i < s.words.size then w else s.word j := by
  simp only [word, Array.getElem?_setIfInBounds]
  by_cases hij : i = j
  · subst hij
    by_cases hi : i < s.words.size
    · have hw' : w < 18446744073709551616 := hw
      simp [hi, UInt64.toNat_ofNat', Nat.mod_eq_of_lt hw']
    · simp [hi]
  · simp [hij]

/-- The array takes every number below `2 ^ 64`. -/
theorem store_of_lt (s : DescriptorSet) (i : Nat) {w : Nat} (hw : w < 2 ^ 64) :
    s.store i w = .ok ⟨s.words.setIfInBounds i (UInt64.ofNat w)⟩ := by
  have hcast : ((w : Int)) < 2 ^ 64 := by exact_mod_cast hw
  have hpow : Int.pow 2 64 = 2 ^ 64 := rfl
  rw [store, if_neg (by omega), if_neg (by omega), Int.toNat_natCast]
  rfl

/-- Storing into the word of `fd` a number below `2 ^ 64` whose bits are the old word's but for
bit `fd % 64`, made `b`, gives a set of the same capacity that holds `fd` exactly when `b` and
every other descriptor as before. -/
theorem store_bit {s : DescriptorSet} {fd w : Nat} {b : Bool} (hfd : fd < s.capacity)
    (hw : w < 2 ^ 64)
    (hbits : ∀ j, w.testBit j = if j = fd % 64 then b else (s.word (fd / 64)).testBit j) :
    ∃ t, s.store (fd / 64) w = .ok t ∧ t.capacity = s.capacity ∧
      t.elems = if b then insert fd s.elems else s.elems.erase fd := by
  refine ⟨_, store_of_lt s _ hw, by simp [capacity, Array.size_setIfInBounds], ?_⟩
  have hi : fd / 64 < s.words.size := by
    rw [capacity_eq] at hfd
    omega
  -- the descriptor's word changes in its one bit; every other word is as it was
  have hhas : ∀ x, (⟨s.words.setIfInBounds (fd / 64) (UInt64.ofNat w)⟩ : DescriptorSet).has x =
      if x = fd then b else s.has x := by
    intro x
    rw [has_eq, has_eq, word_setIfInBounds s hw]
    by_cases hword : fd / 64 = x / 64
    · rw [if_pos ⟨hword, hi⟩, hbits, hword]
      have hx : x = fd ↔ x % 64 = fd % 64 := by omega
      by_cases hbit : x % 64 = fd % 64
      · simp [hx.mpr hbit]
      · simp [hbit, mt hx.mp hbit]
    · have hne : x ≠ fd := fun h => hword (h ▸ rfl)
      simp [hword, hne]
  have hcap : (⟨s.words.setIfInBounds (fd / 64) (UInt64.ofNat w)⟩ : DescriptorSet).capacity =
      s.capacity := by
    simp [capacity, Array.size_setIfInBounds]
  ext x
  simp only [mem_elems, hhas, hcap]
  by_cases hx : x = fd
  · subst hx
    cases b <;> simp [hfd]
  · cases b <;> simp [hx]

/-! ## Locating descriptors -/

/-- An integer descriptor is located when it lies within the capacity, and refused with a value
error naming it and the capacity otherwise. -/
theorem locate_of_asInt? (s : DescriptorSet) {v : Value} {n : Int} (h : v.asInt? = some n) :
    s.locate v = if 0 ≤ n ∧ n < s.capacity then .ok (slot n.toNat) else .error (s.outOfRange v) := by
  simp only [locate, Value.lt_int h, Value.ge_int h, h]
  by_cases hlo : n < 0
  · simp [bind, Except.bind, pure, Except.pure, hlo, throw, throwThe, MonadExceptOf.throw]
  · by_cases hhi : (s.capacity : Int) ≤ n
    · simp [bind, Except.bind, hlo, hhi, throw, throwThe, MonadExceptOf.throw]
    · have hin : 0 ≤ n ∧ n < s.capacity := by omega
      simp [bind, Except.bind, pure, Except.pure, hlo, hhi, hin]

/-- A value that is not an integer is never located: it has no order with numbers, or it cannot
shift a bit into place. -/
theorem locate_refused {s : DescriptorSet} {v : Value} (h : v.asInt? = none) :
    ∃ e, s.locate v = .error e := by
  simp only [locate, h, bind, Except.bind, pure, Except.pure, throw, throwThe,
    MonadExceptOf.throw]
  repeat' split
  all_goals exact ⟨_, rfl⟩

section Located

variable (s : DescriptorSet) {v : Value} {n : Int} (h : v.asInt? = some n)
include h

/-- Adding an integer descriptor within the capacity stores its word with the bit set, a number
the array takes, and so inserts it. -/
theorem add_in_range (hin : 0 ≤ n ∧ n < s.capacity) :
    ∃ t, s.add v = .ok t ∧ t.capacity = s.capacity ∧ t.elems = insert n.toNat s.elems := by
  have hfd : n.toNat < s.capacity := by omega
  have hbit : 2 ^ (n.toNat % 64) < 2 ^ 64 := Nat.pow_lt_pow_right (by decide) (Nat.mod_lt _ (by decide))
  obtain ⟨t, ht, hcap, helems⟩ := @store_bit s n.toNat _ true hfd
    (Nat.or_lt_two_pow (s.word_lt (n.toNat / 64)) hbit) fun j => by
      rw [Nat.testBit_or, Nat.testBit_two_pow]
      by_cases hj : j = n.toNat % 64 <;> simp [hj, eq_comm]
  refine ⟨t, ?_, hcap, helems⟩
  rw [add, locate_of_asInt? s h, if_pos hin, slot_eq]
  exact ht

/-- Removing an integer descriptor within the capacity stores its word with the bit cleared, a
number no greater than the word, and so deletes it. -/
theorem remove_in_range (hin : 0 ≤ n ∧ n < s.capacity) :
    ∃ t, s.remove v = .ok t ∧ t.capacity = s.capacity ∧ t.elems = s.elems.erase n.toNat := by
  have hfd : n.toNat < s.capacity := by omega
  have hle : s.word (n.toNat / 64) ^^^ (s.word (n.toNat / 64) &&& 2 ^ (n.toNat % 64)) ≤
      s.word (n.toNat / 64) :=
    Nat.le_of_testBit fun j hj => by
      rw [testBit_clear, Bool.and_eq_true] at hj
      exact hj.1
  obtain ⟨t, ht, hcap, helems⟩ := @store_bit s n.toNat _ false hfd
    (lt_of_le_of_lt hle (s.word_lt _)) fun j => by
      rw [testBit_clear, Nat.testBit_two_pow]
      by_cases hj : j = n.toNat % 64 <;> simp [hj, eq_comm]
  refine ⟨t, ?_, hcap, helems⟩
  rw [remove, locate_of_asInt? s h, if_pos hin, slot_eq]
  simp only [bind, Except.bind, bitAnd_not]
  exact ht

/-- Testing an integer descriptor within the capacity answers whether the set holds it. -/
theorem contains_in_range (hin : 0 ≤ n ∧ n < s.capacity) :
    s.contains v = .ok (decide (n.toNat ∈ s.elems)) := by
  have hfd : n.toNat < s.capacity := by omega
  rw [contains, locate_of_asInt? s h, if_pos hin]
  simp [Except.map, has, hfd]

/-- Adding, removing and testing an integer descriptor outside the capacity are refused with the
value error that names it. -/
theorem refused_out_of_range (hout : ¬(0 ≤ n ∧ n < s.capacity)) :
    s.add v = .error (s.outOfRange v) ∧ s.remove v = .error (s.outOfRange v) ∧
      s.contains v = .error (s.outOfRange v) := by
  simp only [add, remove, contains, locate_of_asInt? s h, if_neg hout]
  exact ⟨rfl, rfl, rfl⟩

end Located

/-- An answer refused with a value error exactly outside the capacity: an error there, a result
within it. -/
theorem valueError_iff {α : Type} {s : DescriptorSet} {v : Value} {n : Int} {r : Except Failure α}
    (hout : ¬(0 ≤ n ∧ n < s.capacity) → r = .error (s.outOfRange v))
    (hin : 0 ≤ n ∧ n < s.capacity → ∃ a, r = .ok a) :
    (∃ msg, r = .error (.valueError msg)) ↔ ¬(0 ≤ n ∧ n < s.capacity) := by
  constructor
  · rintro ⟨msg, hr⟩ hn
    obtain ⟨a, ha⟩ := hin hn
    rw [ha] at hr
    cases hr
  · intro hn
    exact ⟨_, hout hn⟩

/-- Membership answers for every value and never refuses: an integer is a member exactly when it
lies within the capacity and the set holds it. -/
theorem mem_iff (s : DescriptorSet) (v : Value) :
    s.mem v = true ↔ ∃ fd : Nat, v.asInt? = some (fd : Int) ∧ fd < s.capacity ∧ fd ∈ s.elems := by
  unfold mem
  split
  · rename_i n hn
    simp only [hn, Option.some.injEq, Bool.and_eq_true, decide_eq_true_eq, mem_elems]
    constructor
    · rintro ⟨⟨h0, hcap⟩, hmem⟩
      exact ⟨n.toNat, by omega, by omega, by omega, hmem⟩
    · rintro ⟨fd, rfl, hcap, -, hmem⟩
      exact ⟨⟨by omega, by omega⟩, by simpa using hmem⟩
  · rename_i hn
    simp [hn]

/-! ## Construction -/

/-- A size that is not positive is refused with a value error; a positive one is refused only
for a bitmap too large to build, with an overflow or a memory failure. -/
theorem empty_refused_iff {size : Value} {n : Int} (h : size.asInt? = some n) :
    (∃ msg, empty size = .error (.valueError msg)) ↔ n ≤ 0 := by
  simp only [empty, Value.le_int h, h]
  by_cases hn : n ≤ 0
  · simp [bind, Except.bind, hn, throw, throwThe, MonadExceptOf.throw]
  · simp only [hn, iff_false, not_exists]
    intro msg
    simp only [bind, Except.bind, decide_false, Bool.false_eq_true, if_false, pure, Except.pure,
      throw, throwThe, MonadExceptOf.throw]
    repeat' split
    all_goals simp

theorem empty_of_pos {size : Value} {n : Int} (h : size.asInt? = some n) (hpos : 0 < n)
    (hfit : (n.toNat + 63) / 64 * 8 ≤ 2 ^ 40) :
    empty size = .ok ⟨Array.replicate ((n.toNat + 63) / 64) 0⟩ := by
  have hlimit : Value.allocationLimit = 2 ^ 40 := rfl
  have hlargest : largestObject = 2 ^ 63 - 1 := rfl
  have hcast : (((n.toNat + 63) / 64 : Nat) : Int) * 8 ≤ 2 ^ 40 := by exact_mod_cast hfit
  simp only [empty, Value.le_int h, h, wordBits, byteStringHeader, hlargest, hlimit, bind,
    Except.bind, pure, Except.pure, show ¬ n ≤ 0 by omega, decide_false, Bool.false_eq_true,
    if_false]
  simp (disch := omega) only [if_neg]
  rw [show n.toNat + 64 - 1 = n.toNat + 63 by omega]

/-- A constructed set holds nothing, and its capacity is the requested size rounded up to whole
words. -/
theorem empty_spec {size : Value} {n : Int} (h : size.asInt? = some n) {s : DescriptorSet}
    (hs : empty size = .ok s) : s.elems = ∅ ∧ s.capacity = 64 * ((n.toNat + 63) / 64) := by
  simp only [empty, Value.le_int h, h] at hs
  simp only [bind, Except.bind, pure, Except.pure, throw, throwThe, MonadExceptOf.throw] at hs
  repeat' split at hs
  all_goals cases hs
  refine ⟨elems_eq_empty_of_words fun i => ?_, by simp [capacity, wordBits]; omega⟩
  simp only [word, Array.getElem?_replicate]
  split <;> rfl

/-- A descriptor given as an integer within the capacity. -/
def Fits (s : DescriptorSet) (v : Value) : Prop :=
  ∃ fd : Nat, v.asInt? = some (fd : Int) ∧ fd < s.capacity

/-- The descriptors that integer values name. -/
def named (vs : List Value) : Finset Nat := (vs.filterMap fun v => v.asInt?.map Int.toNat).toFinset

/-- Adding descriptors that all fit gives a set of the same capacity holding them as well. -/
theorem foldlM_add_fits {s : DescriptorSet} :
    ∀ vs : List Value, (∀ v ∈ vs, s.Fits v) →
      ∃ t, vs.foldlM add s = .ok t ∧ t.capacity = s.capacity ∧ t.elems = s.elems ∪ named vs := by
  intro vs
  induction vs generalizing s with
  | nil =>
    intro _
    exact ⟨s, rfl, rfl, by simp [named]⟩
  | cons v vs ih =>
    intro hfit
    obtain ⟨fd, hv, hfd⟩ := hfit v (by simp)
    obtain ⟨u, hu, hucap, huelems⟩ := add_in_range s hv ⟨by omega, by omega⟩
    obtain ⟨t, ht, htcap, htelems⟩ := ih fun w hw => by
      obtain ⟨fd', hw', hfd'⟩ := hfit w (by simp [hw])
      exact ⟨fd', hw', hucap ▸ hfd'⟩
    refine ⟨t, by simp [List.foldlM_cons, hu, bind, Except.bind, ht], htcap.trans hucap, ?_⟩
    rw [htelems, huelems]
    ext x
    simp [named, hv]

/-- Initial descriptors are added in order, and the first one out of range is refused with the
value error naming it. -/
theorem foldlM_add_refused {s : DescriptorSet} {pre post : List Value}
    (hpre : ∀ v ∈ pre, s.Fits v) {v : Value} {n : Int} (hv : v.asInt? = some n)
    (hout : ¬(0 ≤ n ∧ n < s.capacity)) :
    (pre ++ v :: post).foldlM add s = .error (s.outOfRange v) := by
  obtain ⟨t, ht, htcap, -⟩ := foldlM_add_fits pre hpre
  rw [List.foldlM_append, ht]
  have hrefused := (refused_out_of_range t hv (htcap ▸ hout)).1
  simp [List.foldlM_cons, bind, Except.bind, hrefused, outOfRange, htcap]

/-! ## Runs of changes -/

/-- A change a caller makes to a set. -/
inductive Change where
  /-- Set the bit of a descriptor. -/
  | add (fd : Value)
  /-- Clear the bit of a descriptor. -/
  | remove (fd : Value)
  /-- Clear every bit. -/
  | zero

namespace Change

/-- The set after a change; a refused change leaves the set as it was. -/
def apply (s : DescriptorSet) : Change → DescriptorSet
  | .add fd =>
    match s.add fd with
    | .ok t => t
    | .error _ => s
  | .remove fd =>
    match s.remove fd with
    | .ok t => t
    | .error _ => s
  | .zero => s.clear

/-- The same change made to a finite set of descriptors below `cap`: an integer within the
capacity is inserted or deleted, and any other value changes nothing. -/
def onSet (cap : Nat) (S : Finset Nat) : Change → Finset Nat
  | .add fd =>
    match fd.asInt? with
    | some n => if 0 ≤ n ∧ n < cap then Insert.insert n.toNat S else S
    | none => S
  | .remove fd =>
    match fd.asInt? with
    | some n => if 0 ≤ n ∧ n < cap then S.erase n.toNat else S
    | none => S
  | .zero => ∅

end Change

@[simp] theorem capacity_clear (s : DescriptorSet) : s.clear.capacity = s.capacity := by
  simp [clear, capacity]

@[simp] theorem elems_clear (s : DescriptorSet) : s.clear.elems = ∅ := by
  refine elems_eq_empty_of_words fun i => ?_
  simp only [clear, word, Array.getElem?_map]
  cases s.words[i]? <;> rfl

namespace Change

/-- One change keeps the capacity of a set and acts on its descriptors as on a finite set. -/
theorem apply_spec (s : DescriptorSet) (c : Change) :
    (apply s c).capacity = s.capacity ∧ (apply s c).elems = c.onSet s.capacity s.elems := by
  cases c with
  | add fd =>
    cases hfd : fd.asInt? with
    | none =>
      obtain ⟨e, he⟩ := locate_refused (s := s) hfd
      simp [apply, onSet, DescriptorSet.add, he, hfd, bind, Except.bind]
    | some n =>
      by_cases hin : 0 ≤ n ∧ n < s.capacity
      · obtain ⟨t, ht, hcap, helems⟩ := add_in_range s hfd hin
        simp [apply, onSet, ht, hcap, helems, hfd, hin]
      · simp [apply, onSet, (refused_out_of_range s hfd hin).1, hfd, hin]
  | remove fd =>
    cases hfd : fd.asInt? with
    | none =>
      obtain ⟨e, he⟩ := locate_refused (s := s) hfd
      simp [apply, onSet, DescriptorSet.remove, he, hfd, bind, Except.bind]
    | some n =>
      by_cases hin : 0 ≤ n ∧ n < s.capacity
      · obtain ⟨t, ht, hcap, helems⟩ := remove_in_range s hfd hin
        simp [apply, onSet, ht, hcap, helems, hfd, hin]
      · simp [apply, onSet, (refused_out_of_range s hfd hin).2.1, hfd, hin]
  | zero => exact ⟨capacity_clear s, elems_clear s⟩

end Change

/-- Along every run of changes a set keeps its capacity and holds the descriptors the same
changes leave in a finite set. -/
theorem run_spec (s : DescriptorSet) (cs : List Change) :
    (cs.foldl Change.apply s).capacity = s.capacity ∧
      (cs.foldl Change.apply s).elems = cs.foldl (Change.onSet s.capacity) s.elems := by
  induction cs generalizing s with
  | nil => exact ⟨rfl, rfl⟩
  | cons c cs ih =>
    obtain ⟨hcap, helems⟩ := Change.apply_spec s c
    obtain ⟨hcap', helems'⟩ := ih (Change.apply s c)
    refine ⟨hcap'.trans hcap, ?_⟩
    rw [List.foldl_cons, helems', hcap, helems, List.foldl_cons]

/-! ## Iteration -/

theorem bitsFrom_zero (base : Nat) : bitsFrom base 0 = [] := by
  rw [bitsFrom, if_pos rfl]

/-- The loop yields the lowest set bit and goes on with the word without it. -/
theorem bitsFrom_of_lowest {base w t : Nat} (hw : w ≠ 0) (hlow : lowestBit w = 2 ^ t) :
    bitsFrom base w = (base + t) :: bitsFrom base (w ^^^ 2 ^ t) := by
  rw [bitsFrom, if_neg hw]
  simp only [hlow, bitLength_two_pow, ← Nat.add_assoc, Nat.add_sub_cancel]

/-- The lowest-set-bit loop yields, in strictly ascending order, exactly the positions of the set
bits of the word, offset by `base`. -/
theorem bitsFrom_spec (base w : Nat) :
    (bitsFrom base w).Pairwise (· < ·) ∧
      ∀ x, x ∈ bitsFrom base w ↔ ∃ j, w.testBit j = true ∧ x = base + j := by
  induction w using Nat.strong_induction_on with
  | _ w ih =>
    by_cases hw : w = 0
    · subst hw
      simp [bitsFrom_zero]
    -- the loop yields the lowest set bit `t`, then the bits of the word without it, all above `t`
    obtain ⟨t, hlow, hset, hbelow⟩ := exists_lowestBit hw
    have hrest : ∀ j, (w ^^^ 2 ^ t).testBit j = (w.testBit j && decide (j ≠ t)) := by
      intro j
      rw [Nat.testBit_xor, Nat.testBit_two_pow]
      by_cases hj : j = t
      · subst hj
        simp [hset]
      · simp [hj, Ne.symm hj]
    have hlt : w ^^^ 2 ^ t < w := hlow ▸ xor_lowestBit_lt hw
    obtain ⟨hpair, hmem⟩ := ih _ hlt
    rw [bitsFrom_of_lowest hw hlow]
    refine ⟨List.pairwise_cons.mpr ⟨fun x hx => ?_, hpair⟩, fun x => ?_⟩
    · obtain ⟨j, hj, rfl⟩ := (hmem x).mp hx
      rw [hrest, Bool.and_eq_true, decide_eq_true_eq] at hj
      have hge : t ≤ j := Nat.not_lt.mp fun h => by simp [hbelow j h] at hj
      have hne : j ≠ t := hj.2
      omega
    · rw [List.mem_cons, hmem]
      constructor
      · rintro (rfl | ⟨j, hj, rfl⟩)
        · exact ⟨t, hset, rfl⟩
        · rw [hrest, Bool.and_eq_true] at hj
          exact ⟨j, hj.1, rfl⟩
      · rintro ⟨j, hj, rfl⟩
        by_cases hjt : j = t
        · exact Or.inl (by rw [hjt])
        · exact Or.inr ⟨j, by simp [hrest, hj, hjt], rfl⟩

/-- The members yielded for word `index`. -/
theorem mem_block (s : DescriptorSet) (index x : Nat) :
    x ∈ (if s.word index = 0 then [] else bitsFrom (index * wordBits) (s.word index)) ↔
      ∃ j, (s.word index).testBit j = true ∧ x = index * 64 + j := by
  split
  · rename_i hzero
    simp [hzero]
  · exact (bitsFrom_spec _ _).2 x

theorem pairwise_block (s : DescriptorSet) (index : Nat) :
    (if s.word index = 0 then [] else bitsFrom (index * wordBits) (s.word index)).Pairwise
      (· < ·) := by
  split
  · exact List.Pairwise.nil
  · exact (bitsFrom_spec _ _).1

/-- A member yielded for word `index` lies in that word's range of descriptors. -/
theorem block_range {s : DescriptorSet} {index x : Nat}
    (hx : x ∈ (if s.word index = 0 then [] else bitsFrom (index * wordBits) (s.word index))) :
    index * 64 ≤ x ∧ x < index * 64 + 64 := by
  obtain ⟨j, hj, rfl⟩ := (mem_block s index x).mp hx
  have hj64 : j < 64 := Nat.not_le.mp fun h => by simp [s.testBit_word_of_le index h] at hj
  omega

/-- Iteration yields exactly the descriptors of the set, in strictly ascending order. -/
theorem toList_spec (s : DescriptorSet) :
    s.toList.Pairwise (· < ·) ∧ ∀ fd, fd ∈ s.toList ↔ fd ∈ s.elems := by
  refine ⟨List.pairwise_flatMap.mpr ⟨fun i _ => pairwise_block s i, ?_⟩, fun fd => ?_⟩
  · -- every member of an earlier word lies below every member of a later one
    refine (List.pairwise_lt_range (n := s.words.size)).imp fun hii' x hx y hy => ?_
    have hxr := block_range hx
    have hyr := block_range hy
    omega
  · simp only [toList, List.mem_flatMap, List.mem_range, mem_block, mem_elems, has_eq, capacity_eq]
    constructor
    · rintro ⟨i, hi, j, hj, rfl⟩
      have hj64 : j < 64 := Nat.not_le.mp fun h => by simp [s.testBit_word_of_le i h] at hj
      have hdiv : (i * 64 + j) / 64 = i := by omega
      have hmod : (i * 64 + j) % 64 = j := by omega
      exact ⟨by omega, by rw [hdiv, hmod]; exact hj⟩
    · rintro ⟨hfd, hbit⟩
      exact ⟨fd / 64, by omega, fd % 64, hbit, by omega⟩

/-! ## Counting, truth, the greatest member and equality -/

theorem bitCount_div_two (n : Nat) : bitCount n = bitCount (n / 2) + n % 2 := by
  rw [bitCount]
  split
  · rename_i h
    subst h
    rw [bitCount, if_pos rfl]
  · rfl

/-- The bit count of a number below `2 ^ k` is the number of its set bits below `k`. -/
theorem bitCount_eq_card (k : Nat) :
    ∀ w < 2 ^ k, bitCount w = ((Finset.range k).filter fun j => w.testBit j).card := by
  induction k with
  | zero =>
    intro w hw
    obtain rfl : w = 0 := by simpa using hw
    simp [bitCount]
  | succ k ih =>
    intro w hw
    -- the lowest bit is counted apart, the others are the bits of `w / 2`
    rw [bitCount_div_two, ih (w / 2) (by rw [Nat.pow_succ] at hw; omega), Finset.card_filter,
      Finset.card_filter, Finset.sum_range_succ']
    simp only [Nat.testBit_add_one, Nat.testBit_zero]
    rcases Nat.mod_two_eq_zero_or_one w with h | h <;> simp [h]

theorem word_of_lt {s : DescriptorSet} {i : Nat} (hi : i < s.words.size) :
    s.word i = s.words[i].toNat := by
  simp [word, hi]

theorem word_of_le {s : DescriptorSet} {i : Nat} (hi : s.words.size ≤ i) : s.word i = 0 := by
  simp [word, hi]

/-- Bit `j` of word `i` stands for descriptor `64 * i + j`. -/
theorem testBit_word_iff (s : DescriptorSet) {i j : Nat} (hi : i < s.words.size) (hj : j < 64) :
    (s.word i).testBit j = true ↔ i * 64 + j ∈ s.elems := by
  have hdiv : (i * 64 + j) / 64 = i := by omega
  have hmod : (i * 64 + j) % 64 = j := by omega
  rw [mem_elems, has_eq, hdiv, hmod, capacity_eq]
  constructor
  · intro h
    exact ⟨by omega, h⟩
  · exact fun h => h.2

/-- The set bits of a word are as many as its members. -/
theorem length_bitsFrom_word (s : DescriptorSet) (base i : Nat) :
    (bitsFrom base (s.word i)).length = bitCount (s.word i) := by
  obtain ⟨hpair, hmem⟩ := bitsFrom_spec base (s.word i)
  rw [bitCount_eq_card 64 _ (s.word_lt i), ← List.toFinset_card_of_nodup hpair.nodup]
  -- the members yielded are the set bits shifted by `base`
  have himage : (bitsFrom base (s.word i)).toFinset =
      ((Finset.range 64).filter fun j => (s.word i).testBit j).image (base + ·) := by
    ext x
    simp only [List.mem_toFinset, hmem, Finset.mem_image, Finset.mem_filter, Finset.mem_range]
    constructor
    · rintro ⟨j, hj, rfl⟩
      exact ⟨j, ⟨Nat.not_le.mp fun h => by simp [s.testBit_word_of_le i h] at hj, hj⟩, rfl⟩
    · rintro ⟨j, ⟨-, hj⟩, rfl⟩
      exact ⟨j, hj, rfl⟩
  rw [himage, Finset.card_image_of_injective _ (add_right_injective base)]

/-- A function of the words in order is a function of the words read by index. -/
theorem map_words_toList {α : Type} (s : DescriptorSet) (f : Nat → α) :
    s.words.toList.map (fun w => f w.toNat) = (List.range s.words.size).map fun i => f (s.word i) := by
  apply List.ext_getElem (by simp)
  intro i h _
  simp only [List.getElem_map, Array.getElem_toList, List.getElem_range]
  rw [word_of_lt (by simpa using h)]

/-- Adding up a function of the items of a list from `init` gives `init` plus their sum. -/
theorem foldl_add_eq_sum {α : Type} (f : α → Nat) (l : List α) (init : Nat) :
    l.foldl (fun total a => total + f a) init = init + (l.map f).sum := by
  induction l generalizing init with
  | nil => simp
  | cons a l ih =>
    rw [List.foldl_cons, ih, List.map_cons, List.sum_cons]
    omega

/-- The length is the number of members: the bit counts of the words add up to it. -/
theorem size_eq_card (s : DescriptorSet) : s.size = s.elems.card := by
  obtain ⟨hpair, hmem⟩ := toList_spec s
  have hlen : s.toList.length = s.size := by
    rw [toList, List.length_flatMap, size, ← Array.foldl_toList,
      foldl_add_eq_sum (fun w : UInt64 => bitCount w.toNat), Nat.zero_add,
      map_words_toList s bitCount]
    congr 1
    apply List.map_congr_left
    intro i _
    split
    · rename_i hzero
      simp [hzero, bitCount]
    · exact length_bitsFrom_word s _ i
  rw [← hlen, ← List.toFinset_card_of_nodup hpair.nodup]
  congr 1
  ext fd
  simp [hmem]

/-- A set is true exactly when some word is not zero, that is when it holds a descriptor. -/
theorem nonempty_iff (s : DescriptorSet) : s.nonempty = true ↔ s.elems.Nonempty := by
  rw [nonempty, Array.any_eq_true]
  constructor
  · rintro ⟨i, hi, hne⟩
    have hword : s.word i ≠ 0 := by
      rw [word_of_lt hi]
      simpa [← UInt64.toNat_inj] using hne
    obtain ⟨j, hj⟩ := Nat.exists_testBit_of_ne_zero hword
    have hj64 : j < 64 := Nat.not_le.mp fun h => by simp [s.testBit_word_of_le i h] at hj
    exact ⟨_, (s.testBit_word_iff hi hj64).mp hj⟩
  · rintro ⟨fd, hfd⟩
    rw [mem_elems, has_eq, capacity_eq] at hfd
    have hi : fd / 64 < s.words.size := by omega
    refine ⟨fd / 64, hi, ?_⟩
    have hword : s.word (fd / 64) ≠ 0 := fun h => by simp [h] at hfd
    rw [word_of_lt hi] at hword
    simpa [← UInt64.toNat_inj] using hword

/-- Keeping the last of a list, from a start value, gives its last element or the start. -/
theorem foldl_keep_last (l : List Nat) (init : Int) :
    l.foldl (fun (_ : Int) (fd : Nat) => (fd : Int)) init = (l.getLast?.map Int.ofNat).getD init := by
  induction l generalizing init with
  | nil => rfl
  | cons x l ih =>
    rw [List.foldl_cons, ih, List.getLast?_cons]
    cases l.getLast? <;> rfl

/-- The last member iterated is the greatest, since iteration ascends. -/
theorem highest_eq (s : DescriptorSet) :
    s.highest = if h : s.elems.Nonempty then (s.elems.max' h : Int) else -1 := by
  obtain ⟨hpair, hmem⟩ := toList_spec s
  rw [highest, foldl_keep_last]
  by_cases hne : s.elems.Nonempty
  · have hl : s.toList ≠ [] := by
      obtain ⟨x, hx⟩ := hne
      exact List.ne_nil_of_mem ((hmem x).mpr hx)
    have hmax : s.toList.getLast hl = s.elems.max' hne :=
      le_antisymm (Finset.le_max' _ _ ((hmem _).mp (List.getLast_mem hl)))
        (Finset.max'_le _ _ _ fun y hy => (hpair.imp le_of_lt).rel_getLast ((hmem y).mpr hy))
    rw [dif_pos hne, List.getLast?_eq_some_getLast hl, ← hmax]
    rfl
  · have hl : s.toList = [] := List.eq_nil_iff_forall_not_mem.mpr fun x hx =>
      hne ⟨x, (hmem x).mp hx⟩
    simp [hne, hl]

/-- Two sets are equal exactly when they have the same capacity and hold the same descriptors:
the bits of a word below 64 are its members, and it has none above. -/
theorem eq_iff (s t : DescriptorSet) : s = t ↔ s.capacity = t.capacity ∧ s.elems = t.elems := by
  constructor
  · rintro rfl
    exact ⟨rfl, rfl⟩
  · rintro ⟨hcap, helems⟩
    have hsize : s.words.size = t.words.size := by
      rw [capacity_eq, capacity_eq] at hcap
      omega
    have hword : ∀ i, s.word i = t.word i := by
      intro i
      by_cases hi : i < s.words.size
      · apply Nat.eq_of_testBit_eq
        intro j
        by_cases hj : j < 64
        · rw [Bool.eq_iff_iff, s.testBit_word_iff hi hj, t.testBit_word_iff (hsize ▸ hi) hj,
            helems]
        · rw [s.testBit_word_of_le i (by omega), t.testBit_word_of_le i (by omega)]
      · rw [word_of_le (by omega), word_of_le (by omega)]
    obtain ⟨ws⟩ := s
    obtain ⟨wt⟩ := t
    congr 1
    refine Array.ext hsize fun i hs ht => UInt64.toNat_inj.mp ?_
    have := hword i
    rwa [word_of_lt hs, word_of_lt ht] at this

end DescriptorSet

/-- A descriptor set behaves as a finite set of descriptors below its capacity.

* Construction refuses with a value error exactly a size that is not positive, and starts empty,
  with the size rounded up to whole words; the initial descriptors are added in order, and the
  first one out of range is refused with a value error.
* Adding, removing and testing an integer descriptor is refused with a value error exactly when it
  lies outside the capacity. Within it, adding inserts the descriptor and removing deletes it, the
  word with its bit set or cleared always a number an unsigned 64-bit word holds, so that the
  store never fails; testing answers whether the set holds it.
* Every run of changes keeps the capacity and leaves the set holding what the same changes leave
  in a finite set, a refused change leaving it as it was.
* Membership answers for every value; iteration yields the descriptors in strictly ascending
  order; the length, truth and greatest member are those of the finite set; zeroing empties it;
  and two sets are equal exactly when their capacities and descriptors are. -/
theorem descriptorSet_refines_finset :
    (∀ (size : Value) (n : Int), size.asInt? = some n →
      ((∃ msg, DescriptorSet.empty size = .error (.valueError msg)) ↔ n ≤ 0) ∧
      ∀ s, DescriptorSet.empty size = .ok s →
        s.elems = ∅ ∧ s.capacity = 64 * ((n.toNat + 63) / 64)) ∧
    ∀ s : DescriptorSet,
      (∀ (pre post : List Value) (v : Value) (n : Int), (∀ w ∈ pre, s.Fits w) →
        v.asInt? = some n → ¬(0 ≤ n ∧ n < s.capacity) →
        ∃ msg, (pre ++ v :: post).foldlM DescriptorSet.add s = .error (.valueError msg)) ∧
      (∀ (v : Value) (n : Int), v.asInt? = some n →
        ((∃ msg, s.add v = .error (.valueError msg)) ↔ ¬(0 ≤ n ∧ n < s.capacity)) ∧
        ((∃ msg, s.remove v = .error (.valueError msg)) ↔ ¬(0 ≤ n ∧ n < s.capacity)) ∧
        ((∃ msg, s.contains v = .error (.valueError msg)) ↔ ¬(0 ≤ n ∧ n < s.capacity)) ∧
        (0 ≤ n ∧ n < s.capacity →
          (∃ t, s.add v = .ok t ∧ t.capacity = s.capacity ∧ t.elems = insert n.toNat s.elems) ∧
          (∃ t, s.remove v = .ok t ∧ t.capacity = s.capacity ∧
            t.elems = s.elems.erase n.toNat) ∧
          s.contains v = .ok (decide (n.toNat ∈ s.elems)))) ∧
      (∀ cs : List DescriptorSet.Change,
        (cs.foldl DescriptorSet.Change.apply s).capacity = s.capacity ∧
        (cs.foldl DescriptorSet.Change.apply s).elems =
          cs.foldl (DescriptorSet.Change.onSet s.capacity) s.elems) ∧
      (∀ v, s.mem v = true ↔
        ∃ fd : Nat, v.asInt? = some (fd : Int) ∧ fd < s.capacity ∧ fd ∈ s.elems) ∧
      s.toList.Pairwise (· < ·) ∧ s.toList.toFinset = s.elems ∧
      s.size = s.elems.card ∧ (s.nonempty = true ↔ s.elems.Nonempty) ∧
      s.highest = (if h : s.elems.Nonempty then (s.elems.max' h : Int) else -1) ∧
      s.clear.capacity = s.capacity ∧ s.clear.elems = ∅ ∧
      (∀ t : DescriptorSet, s = t ↔ s.capacity = t.capacity ∧ s.elems = t.elems) := by
  refine ⟨fun size n h => ⟨DescriptorSet.empty_refused_iff h,
    fun s hs => DescriptorSet.empty_spec h hs⟩, fun s => ?_⟩
  obtain ⟨hpair, hmem⟩ := DescriptorSet.toList_spec s
  refine ⟨fun pre post v n hpre hv hout =>
      ⟨_, DescriptorSet.foldlM_add_refused hpre hv hout⟩,
    fun v n hv => ?_, DescriptorSet.run_spec s, s.mem_iff, hpair, ?_, DescriptorSet.size_eq_card s,
    s.nonempty_iff, DescriptorSet.highest_eq s, DescriptorSet.capacity_clear s,
    DescriptorSet.elems_clear s, DescriptorSet.eq_iff s⟩
  · -- each operation is refused outside the capacity and answers within it
    have hout := DescriptorSet.refused_out_of_range s hv
    have hadd := DescriptorSet.add_in_range s hv
    have hremove := DescriptorSet.remove_in_range s hv
    have hcontains := DescriptorSet.contains_in_range s hv
    refine ⟨DescriptorSet.valueError_iff (fun h => (hout h).1) fun h => ?_,
      DescriptorSet.valueError_iff (fun h => (hout h).2.1) fun h => ?_,
      DescriptorSet.valueError_iff (fun h => (hout h).2.2) fun h => ⟨_, hcontains h⟩,
      fun h => ⟨hadd h, hremove h, hcontains h⟩⟩
    · obtain ⟨t, ht, -⟩ := hadd h
      exact ⟨t, ht⟩
    · obtain ⟨t, ht, -⟩ := hremove h
      exact ⟨t, ht⟩
  · ext fd
    simp [hmem]

/-- Descriptors at the edges of the words of a set of 1024: 63 and 1023 are the top bits of the
first and last words, 1024 lies beyond the capacity and is refused, and 64, the first bit of the
second word, is added and removed again. -/
theorem word_boundary_run :
    DescriptorSet.empty (.int 1024) = .ok ⟨Array.replicate 16 0⟩ ∧
      ([DescriptorSet.Change.add (.int 63), .add (.int 64), .add (.int 1023), .add (.int 1024),
        .remove (.int 64)].foldl DescriptorSet.Change.apply ⟨Array.replicate 16 0⟩).elems =
        {63, 1023} := by
  have hempty : DescriptorSet.empty (.int 1024) = .ok ⟨Array.replicate 16 0⟩ :=
    DescriptorSet.empty_of_pos (n := 1024) rfl (by decide) (by decide)
  have hstart := ((descriptorSet_refines_finset.1 (.int 1024) 1024 rfl).2 _ hempty).1
  refine ⟨hempty, ?_⟩
  rw [((descriptorSet_refines_finset.2 _).2.2.1 _).2, hstart]
  decide

end Sockets
