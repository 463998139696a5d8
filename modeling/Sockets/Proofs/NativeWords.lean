import Mathlib
import Sockets.Proofs.Bitmap
import Sockets.Socket.Options

/-!
# Native words

Two native structures that the library writes are made of 64-bit words laid out least significant
byte first: the bitmap of a descriptor set (`fd_set`) and the timeout of a socket option
(`timeval`). Eight such bytes read back as the number `readLe` gives, and as the signed word
`readLong` gives in two's complement.

* *Reading bytes.* Bit `j` of the number of little-endian bytes is bit `j % 8` of byte `j / 8`
  (`testBit_readLe`), and the `k` bytes of a number below `256 ^ k` read back as that number
  (`readLe_digits`).
* *The bitmap.* The bitmap is the set's words in order, the eight bytes at word `i` reading back
  as that word (`DescriptorSet.readLe_toBytes_word`), so bit `j` of word `i` stands for
  descriptor `64 * i + j` (`DescriptorSet.testBit_word`), bit `fd % 8` of byte `fd / 8` is the
  bit of descriptor `fd` (`DescriptorSet.testBit_toBytes`), and a set that holds nothing is
  written as zero bytes (`toBytes_native_layout`).
* *The timeout.* A signed word packs exactly the numbers of its range (`Checks.packLong_in_range`),
  so a timeout in milliseconds is packed as its whole seconds and its remaining microseconds up to
  `1000 * 2 ^ 63 - 1`, and beyond it packing fails; setting such a timeout on an open socket fails
  with that failure, after the number and the descriptor were checked (`timeout_packed_exactly`).
-/

namespace Sockets

/-! ## Reading little-endian bytes -/

/-- The first of little-endian bytes is the low byte of the number they stand for. -/
theorem readLe_cons (b : UInt8) (bs : List UInt8) :
    readLe (b :: bs) = 2 ^ 8 * readLe bs + b.toNat := by
  simp only [readLe, readBe, List.reverse_cons, List.foldl_append, List.foldl_cons, List.foldl_nil]
  ring

/-- Bit `j` of the number of little-endian bytes is bit `j % 8` of byte `j / 8`. -/
theorem testBit_readLe (bs : List UInt8) (j : Nat) :
    (readLe bs).testBit j = (bs.getD (j / 8) 0).toNat.testBit (j % 8) := by
  induction bs generalizing j with
  | nil => simp [readLe, readBe]
  | cons b bs ih =>
    rw [readLe_cons, Nat.testBit_two_pow_mul_add _ b.toNat_lt]
    split
    · rename_i hj
      simp [Nat.div_eq_of_lt hj, Nat.mod_eq_of_lt hj]
    · -- a bit beyond the first byte is a bit of the rest, one byte lower
      rename_i hj
      rw [ih]
      have h1 : (j - 8) / 8 = j / 8 - 1 := by omega
      have h2 : (j - 8) % 8 = j % 8 := by omega
      have h3 : j / 8 = (j / 8 - 1) + 1 := by omega
      rw [h1, h2, h3]
      simp

/-- The `k` little-endian bytes of a number below `256 ^ k` read back as that number. -/
theorem readLe_digits (k : Nat) : ∀ u < 256 ^ k,
    readLe ((List.range k).map fun i => (u / 256 ^ i % 256).toUInt8) = u := by
  induction k with
  | zero =>
    intro u hu
    simp_all [readLe, readBe]
  | succ k ih =>
    intro u hu
    rw [List.range_succ_eq_map, List.map_cons, List.map_map, readLe_cons]
    -- the bytes after the first are those of the number one byte lower
    have hrest : (fun i => (u / 256 ^ i % 256).toUInt8) ∘ Nat.succ =
        fun i => (u / 256 / 256 ^ i % 256).toUInt8 := by
      funext i
      simp only [Function.comp_apply, Nat.pow_succ, Nat.div_div_eq_div_mul, Nat.mul_comm]
    rw [hrest, ih (u / 256) (by rw [Nat.pow_succ] at hu; omega)]
    simp
    omega

/-! ## The bitmap of a descriptor set -/

/-- A byte all of whose bits are clear is zero. -/
theorem UInt8.eq_zero_of_testBit {b : UInt8} (h : ∀ j < 8, b.toNat.testBit j = false) : b = 0 := by
  apply UInt8.toNat_inj.mp
  apply Nat.eq_of_testBit_eq
  intro j
  by_cases hj : j < 8
  · simp [h j hj]
  · simp only [UInt8.toNat_zero, Nat.zero_testBit]
    exact Nat.testBit_lt_two_pow
      (lt_of_lt_of_le b.toNat_lt (Nat.pow_le_pow_right (by decide) (by omega)))

namespace DescriptorSet

/-- Dropping whole blocks of a list made of blocks of `k` items drops whole items of the list they
were made from. -/
theorem drop_flatMap_of_length {α β : Type} {f : α → List β} {k : Nat} (hf : ∀ a, (f a).length = k) :
    ∀ (l : List α) (i : Nat), (l.flatMap f).drop (k * i) = (l.drop i).flatMap f
  | [], _ => by simp
  | _ :: _, 0 => by simp
  | a :: l, i + 1 => by
    have hle : (f a).length ≤ k * (i + 1) := by
      rw [hf]
      exact Nat.le_mul_of_pos_right k (Nat.succ_pos i)
    rw [List.flatMap_cons, List.drop_append, List.drop_eq_nil_of_le hle, List.nil_append, hf,
      show k * (i + 1) - k = k * i by rw [Nat.mul_succ, Nat.add_sub_cancel],
      drop_flatMap_of_length hf l i, List.drop_succ_cons]

theorem length_toBytes (s : DescriptorSet) : s.toBytes.length = s.words.size * 8 := by
  simp [toBytes, List.length_flatMap]

/-- The eight bytes at word `i` of the bitmap are that word, least significant byte first. -/
theorem toBytes_word (s : DescriptorSet) {i : Nat} (hi : i < s.words.size) :
    (s.toBytes.drop (8 * i)).take 8 = (List.range 8).map fun k => (s.word i / 256 ^ k % 256).toUInt8 := by
  rw [toBytes, drop_flatMap_of_length (by simp), List.drop_eq_getElem_cons (by simpa using hi),
    List.flatMap_cons, List.take_left' (by simp), Array.getElem_toList, word_of_lt hi]
  simp only [Nat.pow_eq]

/-- The eight bytes at word `i` of the bitmap read back as that word. -/
theorem readLe_toBytes_word (s : DescriptorSet) {i : Nat} (hi : i < s.words.size) :
    readLe ((s.toBytes.drop (8 * i)).take 8) = s.word i := by
  rw [toBytes_word s hi]
  exact readLe_digits 8 _ (s.word_lt i)

/-- Bit `j` of word `i`, read from its eight bytes, is the bit of descriptor `64 * i + j`. -/
theorem testBit_word (s : DescriptorSet) {i j : Nat} (hi : i < s.words.size) (hj : j < 64) :
    (readLe ((s.toBytes.drop (8 * i)).take 8)).testBit j = decide (64 * i + j ∈ s.elems) := by
  rw [readLe_toBytes_word s hi, Nat.mul_comm 64 i, Bool.eq_iff_iff, decide_eq_true_iff]
  exact s.testBit_word_iff hi hj

/-- Bit `fd % 8` of byte `fd / 8` of the bitmap is set exactly when the set holds `fd`: it is bit
`fd % 64` of word `fd / 64`, in byte `fd % 64 / 8` of the word's bytes. -/
theorem testBit_toBytes (s : DescriptorSet) {fd : Nat} (hfd : fd < s.capacity) :
    (s.toBytes.getD (fd / 8) 0).toNat.testBit (fd % 8) = decide (fd ∈ s.elems) := by
  have hi : fd / 64 < s.words.size := by
    rw [capacity_eq] at hfd
    omega
  have hword := testBit_word s hi (Nat.mod_lt fd (by decide) : fd % 64 < 64)
  rw [testBit_readLe, show 64 * (fd / 64) + fd % 64 = fd by omega] at hword
  have hbyte : fd / 8 = 8 * (fd / 64) + fd % 64 / 8 := by omega
  have hbit : fd % 64 % 8 = fd % 8 := by omega
  rw [← hword, hbit, hbyte, List.getD_eq_getElem?_getD, List.getD_eq_getElem?_getD,
    List.getElem?_take_of_lt (by omega), List.getElem?_drop]

/-- A set that holds no descriptor is written as zero bytes. -/
theorem toBytes_of_elems_empty {s : DescriptorSet} (h : s.elems = ∅) :
    s.toBytes = List.replicate (s.words.size * 8) 0 := by
  apply List.ext_getElem (by simp [length_toBytes])
  intro k hk _
  simp only [List.getElem_replicate]
  apply UInt8.eq_zero_of_testBit
  intro j hj
  -- bit `j` of byte `k` is the bit of descriptor `8 * k + j`, which the set does not hold
  have hfd : 8 * k + j < s.capacity := by
    rw [length_toBytes] at hk
    rw [capacity_eq]
    omega
  have hclear := testBit_toBytes s hfd
  rw [h] at hclear
  have hbyte : (8 * k + j) / 8 = k := by omega
  have hbit : (8 * k + j) % 8 = j := by omega
  rw [hbyte, hbit, List.getD_eq_getElem?_getD, List.getElem?_eq_getElem hk] at hclear
  simpa using hclear

end DescriptorSet

/-- The native bitmap of a descriptor set is the native `fd_set`: the set's 64-bit words in
order, each least significant byte first, so that it has a byte for every eight descriptors of the
capacity, the eight bytes at word `i` read back as that word, and bit `j` of word `i` stands for
descriptor `64 * i + j`; bit `fd % 8` of byte `fd / 8` is set exactly when the set holds `fd`, and
a set that holds nothing is written as zero bytes. -/
theorem toBytes_native_layout (s : DescriptorSet) :
    s.toBytes.length = s.capacity / 8 ∧
    (∀ fd < s.capacity,
      (s.toBytes.getD (fd / 8) 0).toNat.testBit (fd % 8) = decide (fd ∈ s.elems)) ∧
    (∀ i < s.capacity / 64, readLe ((s.toBytes.drop (8 * i)).take 8) = s.word i ∧
      ∀ j < 64,
        (readLe ((s.toBytes.drop (8 * i)).take 8)).testBit j = decide (64 * i + j ∈ s.elems)) ∧
    (s.elems = ∅ → s.toBytes = List.replicate (s.capacity / 8) 0) := by
  have hbytes : s.capacity / 8 = s.words.size * 8 := by
    rw [DescriptorSet.capacity_eq]
    omega
  have hwords : s.capacity / 64 = s.words.size := by
    rw [DescriptorSet.capacity_eq]
    omega
  refine ⟨hbytes ▸ s.length_toBytes, fun fd hfd => s.testBit_toBytes hfd,
    fun i hi => ⟨s.readLe_toBytes_word (hwords ▸ hi), fun j hj => s.testBit_word (hwords ▸ hi) hj⟩,
    fun h => ?_⟩
  rw [hbytes]
  exact DescriptorSet.toBytes_of_elems_empty h

/-- The set of 1024 descriptors holding 63 and 1023, the top bits of its first and last words:
its bitmap is 128 bytes, and its first and last eight bytes read back as `2 ^ 63`. -/
theorem word_edges_set_top_bits :
    (⟨#[0x8000000000000000, 0, 0, 0, 0, 0, 0, 0, 0, 0, 0, 0, 0, 0, 0, 0x8000000000000000]⟩ :
      DescriptorSet).toBytes.length = 128 ∧
    (⟨#[0x8000000000000000, 0, 0, 0, 0, 0, 0, 0, 0, 0, 0, 0, 0, 0, 0, 0x8000000000000000]⟩ :
      DescriptorSet).elems = {63, 1023} ∧
    readLe (((⟨#[0x8000000000000000, 0, 0, 0, 0, 0, 0, 0, 0, 0, 0, 0, 0, 0, 0,
      0x8000000000000000]⟩ : DescriptorSet).toBytes.drop 0).take 8) = 2 ^ 63 ∧
    readLe (((⟨#[0x8000000000000000, 0, 0, 0, 0, 0, 0, 0, 0, 0, 0, 0, 0, 0, 0,
      0x8000000000000000]⟩ : DescriptorSet).toBytes.drop 120).take 8) = 2 ^ 63 := by
  obtain ⟨hlen, -, hword, -⟩ := toBytes_native_layout
    ⟨#[0x8000000000000000, 0, 0, 0, 0, 0, 0, 0, 0, 0, 0, 0, 0, 0, 0, 0x8000000000000000]⟩
  refine ⟨hlen, by decide +kernel, (hword 0 (by decide)).1, (hword 15 (by decide)).1⟩

/-! ## The timeout of a socket option -/

/-- The signed 64-bit word that eight little-endian bytes stand for, in two's complement. -/
def readLong (bs : List UInt8) : Int :=
  if readLe bs < 2 ^ 63 then readLe bs else (readLe bs : Int) - 2 ^ 64

/-- The bound of a signed 64-bit word, as a number. -/
theorem int_two_pow_63 : (2 : Int) ^ 63 = 9223372036854775808 := by norm_num

namespace Checks

/-- The range check of `packLong`, with its bounds as powers. -/
theorem outOfRange_iff (n : Int) :
    (n < -Int.pow 2 63 || n ≥ Int.pow 2 63) = true ↔ n < -2 ^ 63 ∨ 2 ^ 63 ≤ n := by
  rw [show Int.pow 2 63 = 2 ^ 63 from rfl]
  simp only [Bool.or_eq_true, decide_eq_true_eq, ge_iff_le]

/-- A number in the range of a signed 64-bit word is packed as eight bytes that read back as
it. -/
theorem packLong_in_range {n : Int} (hlo : -2 ^ 63 ≤ n) (hhi : n < 2 ^ 63) :
    ∃ bs, packLong n = .ok bs ∧ bs.length = 8 ∧ readLong bs = n := by
  -- the word is written as the unsigned number of the same bits
  set u : Nat := if n < 0 then (n + Int.pow 2 64).toNat else n.toNat with hu
  have hpow : Int.pow 2 64 = 2 ^ 64 := rfl
  have hu64 : u < 256 ^ 8 := by
    rw [hu, hpow]
    split <;> omega
  refine ⟨(List.range 8).map fun i => (u / 256 ^ i % 256).toUInt8, ?_, by simp, ?_⟩
  · have hin : (n < -Int.pow 2 63 || n ≥ Int.pow 2 63) = false := by
      rw [Bool.eq_false_iff, ne_eq, outOfRange_iff]
      omega
    simp only [packLong, hin]
    rfl
  · rw [readLong, readLe_digits 8 u hu64, hu, hpow]
    split <;> split <;> omega

theorem packLong_out_of_range {n : Int} (h : n < -2 ^ 63 ∨ 2 ^ 63 ≤ n) :
    packLong n = .error (.structError "argument out of range") := by
  rw [packLong, if_pos ((outOfRange_iff n).2 h)]

/-- Packing a timeout in milliseconds refuses a negative one, then packs its whole seconds and
its remaining microseconds, each as a signed 64-bit word. -/
theorem packTimeout_int (ms : Int) :
    packTimeout (.int ms) =
      if ms < 0 then .error (.valueError "Invalid timeout: negative value")
      else (packLong (ms / 1000)).bind fun secs =>
        (packLong (ms % 1000 * 1000)).bind fun micros => .ok (secs ++ micros) := by
  have hlt : (Value.int ms).lt (.int 0) = .ok (decide (ms < 0)) :=
    @Value.lt_int (.int ms) ms rfl 0
  simp only [packTimeout, hlt, bind, Except.bind, Value.asInt?]
  by_cases hneg : ms < 0 <;> simp [hneg, throw, throwThe, MonadExceptOf.throw, pure, Except.pure]

theorem packTimeout_negative {ms : Int} (h : ms < 0) :
    packTimeout (.int ms) = .error (.valueError "Invalid timeout: negative value") := by
  rw [packTimeout_int, if_pos h]

/-- A timeout from 0 to the last whose whole seconds fit a signed 64-bit word is written as the
two signed words of its whole seconds and of its remaining microseconds, eight bytes each. -/
theorem packTimeout_in_range {ms : Int} (h0 : 0 ≤ ms) (hfit : ms < 1000 * 2 ^ 63) :
    ∃ bs, packTimeout (.int ms) = .ok bs ∧ bs.length = 16 ∧
      readLong (bs.take 8) = ms / 1000 ∧ readLong (bs.drop 8) = ms % 1000 * 1000 := by
  have h63 := int_two_pow_63
  obtain ⟨secs, hs, hslen, hsread⟩ := @packLong_in_range (ms / 1000) (by omega) (by omega)
  obtain ⟨micros, hm, hmlen, hmread⟩ :=
    @packLong_in_range (ms % 1000 * 1000) (by omega) (by omega)
  refine ⟨secs ++ micros, ?_, by simp [hslen, hmlen], ?_, ?_⟩
  · rw [packTimeout_int, if_neg (by omega), hs]
    simp [Except.bind, hm]
  · rw [List.take_left' hslen, hsread]
  · rw [List.drop_left' hslen, hmread]

/-- A timeout whose whole seconds do not fit a signed 64-bit word cannot be packed. -/
theorem packTimeout_overflow {ms : Int} (h : 1000 * 2 ^ 63 ≤ ms) :
    packTimeout (.int ms) = .error (.structError "argument out of range") := by
  have h63 := int_two_pow_63
  rw [packTimeout_int, if_neg (by omega), packLong_out_of_range (by omega)]
  rfl

end Checks

namespace Socket

variable {σ : Type} (H : Host σ) {st : Socket × σ}

/-- Setting a timeout whose whole seconds do not fit a signed 64-bit word, on an open socket,
passes the check of the number and of the descriptor, then fails as packing fails and changes
nothing. -/
theorem setTimeout_overflow {h : Handle} (hnative : st.1.native = some h)
    (hopen : 0 ≤ H.fileno h st.2) {ms : Int} (hbig : 1000 * 2 ^ 63 ≤ ms) (opt : SockOpt)
    (code : ErrorCode) :
    setTimeout H opt code (.int ms) st = .error (.structError "argument out of range") st := by
  obtain ⟨s, w⟩ := st
  simp only at hnative hopen
  have hvalid : Checks.validateTimeout (.int ms) = .ok (.int ms) := by
    have h63 := int_two_pow_63
    simp [Checks.validateTimeout, Value.asInt?]
    omega
  have hnot : ¬H.fileno h w < 0 := by omega
  simp [setTimeout, hvalid, rethrow, checkDescriptor, current, system, hnative, hnot,
    Checks.packTimeout_overflow hbig, bind, EStateM.bind, pure, EStateM.pure, throw, throwThe,
    MonadExceptOf.throw, EStateM.throw]

end Socket

/-- A timeout in milliseconds is packed exactly up to the limit of the native `timeval`. It is
refused with a value error exactly when it is negative. From 0 to `1000 * 2 ^ 63 - 1` it is
written as sixteen bytes, the signed 64-bit words of its whole seconds `s` and of its remaining
microseconds `u`, so that `s * 1000 + u / 1000` is the timeout and `0 ≤ u ≤ 999000`. Beyond,
packing fails with a struct error, and setting a read or a write timeout that large on an open
socket fails with that same failure, not with a socket failure. -/
theorem timeout_packed_exactly (ms : Int) :
    ((∃ m, Checks.packTimeout (.int ms) = .error (.valueError m)) ↔ ms < 0) ∧
    (0 ≤ ms → ms < 1000 * 2 ^ 63 →
      ∃ bs, Checks.packTimeout (.int ms) = .ok bs ∧ bs.length = 16 ∧
        readLong (bs.take 8) = ms / 1000 ∧ readLong (bs.drop 8) = ms % 1000 * 1000 ∧
        readLong (bs.take 8) * 1000 + readLong (bs.drop 8) / 1000 = ms ∧
        0 ≤ readLong (bs.drop 8) ∧ readLong (bs.drop 8) ≤ 999000) ∧
    (1000 * 2 ^ 63 ≤ ms →
      Checks.packTimeout (.int ms) = .error (.structError "argument out of range") ∧
      ∀ (σ : Type) (H : Host σ) (st : Socket × σ) (h : Handle), st.1.native = some h →
        0 ≤ H.fileno h st.2 →
        Socket.setReadTimeout H (.int ms) st = .error (.structError "argument out of range") st ∧
        Socket.setWriteTimeout H (.int ms) st =
          .error (.structError "argument out of range") st) := by
  refine ⟨⟨fun ⟨m, hm⟩ => ?_, fun h => ⟨_, Checks.packTimeout_negative h⟩⟩, fun h0 hfit => ?_,
    fun hbig => ⟨Checks.packTimeout_overflow hbig, fun σ H st h hnative hopen =>
      ⟨Socket.setTimeout_overflow H hnative hopen hbig _ _,
        Socket.setTimeout_overflow H hnative hopen hbig _ _⟩⟩⟩
  · -- a value error comes only from the sign check: any other timeout packs or overflows
    by_contra hneg
    rcases lt_or_ge ms (1000 * 2 ^ 63) with hfit | hbig
    · obtain ⟨bs, hbs, -⟩ := Checks.packTimeout_in_range (not_lt.mp hneg) hfit
      rw [hbs] at hm
      cases hm
    · rw [Checks.packTimeout_overflow hbig] at hm
      cases hm
  · obtain ⟨bs, hbs, hlen, hs, hu⟩ := Checks.packTimeout_in_range h0 hfit
    refine ⟨bs, hbs, hlen, hs, hu, ?_, ?_, ?_⟩ <;> simp only [hs, hu] <;> omega

/-- A second and a half is packed as one second and 500000 microseconds. -/
theorem second_and_a_half_packed :
    ∃ bs, Checks.packTimeout (.int 1500) = .ok bs ∧ bs.length = 16 ∧
      readLong (bs.take 8) = 1 ∧ readLong (bs.drop 8) = 500000 := by
  obtain ⟨bs, hbs, hlen, hs, hu, -⟩ := (timeout_packed_exactly 1500).2.1 (by norm_num) (by norm_num)
  exact ⟨bs, hbs, hlen, by rw [hs]; rfl, by rw [hu]; rfl⟩

end Sockets
