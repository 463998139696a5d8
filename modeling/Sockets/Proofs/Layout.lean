import Mathlib
import Sockets.Signature

/-!
# Address layouts read back

Reading a native layout back (`Address.decode`) undoes writing it (`Address.toRaw`) for every
address whose fields the layout can hold (`decode_undoes_toRaw`).

* *Internet and version 6.* The host must be in canonical form: the text of the bytes it reads
  as (`Inet4.Canonical`, `Inet6.Canonical`). The port, flow label and scope must be integers that
  fit their words (`Value.FitsWord`). A canonical text is written with hexadecimal digits, colons
  and dots only (`Inet4.render_addressText`, `Inet6.render_addressText`), so it holds neither a
  zero character nor a `%zone`. The parsers yield four and sixteen bytes (`Inet4.length_of_parse?`,
  `Inet6.length_of_parse?`), so every field lands at the offset the decoder reads it from.
* *Unix domain.* The path must hold no zero character, its file-system bytes must decode back to
  it, and they must leave room for the terminating zero (`Text.FitsUnixPath`). Encoding writes a
  zero byte only for the character zero (`Text.fsBytes?_zero_free`), so the decoder's cut at the
  first zero byte falls where the padding starts.

The address read back equals the one written as the library compares values
(`Value.equals`): a port given as a flag reads back as the integer it stands for.
-/

namespace Sockets

/-! ## Words -/

@[simp] theorem length_be16 (n : Nat) : (be16 n).length = 2 := rfl
@[simp] theorem length_le16 (n : Nat) : (le16 n).length = 2 := rfl
@[simp] theorem length_be32 (n : Nat) : (be32 n).length = 4 := rfl
@[simp] theorem length_le32 (n : Nat) : (le32 n).length = 4 := rfl

theorem readBe_be16 {n : Nat} (h : n < 2 ^ 16) : readBe (be16 n) = n := by
  simp [readBe, be16]
  omega

theorem readLe_le16 {n : Nat} (h : n < 2 ^ 16) : readLe (le16 n) = n := by
  simp [readLe, le16, readBe]
  omega

theorem readBe_be32 {n : Nat} (h : n < 2 ^ 32) : readBe (be32 n) = n := by
  simp [readBe, be32]
  omega

theorem readLe_le32 {n : Nat} (h : n < 2 ^ 32) : readLe (le32 n) = n := by
  simp [readLe, le32, readBe_be32 h]

/-- The field of a layout that stands after `front`. -/
theorem take_drop_append {α : Type} (front mid back : List α) {k n : Nat}
    (hk : front.length = k) (hn : mid.length = n) : ((front ++ mid ++ back).drop k).take n = mid := by
  rw [List.append_assoc, List.drop_left' hk, List.take_left' hn]

theorem packUnsigned_of_fits {letter : String} {bits : Nat} {v : Value} {n : Nat}
    (hv : v.asInt? = some (n : Int)) (hn : n < 2 ^ bits) (hbits : bits ≤ 64) :
    packUnsigned letter bits v = .ok n := by
  have hpow : ∀ k, Int.pow 2 k = 2 ^ k := fun _ => rfl
  have hlt : (n : Int) < 2 ^ bits := by exact_mod_cast hn
  have h64 : (n : Int) < 2 ^ 64 := by
    exact_mod_cast Nat.lt_of_lt_of_le hn (Nat.pow_le_pow_right (by decide) hbits)
  simp only [packUnsigned, hv, hpow]
  rw [if_neg (by simp; omega), if_neg (by omega)]
  simp

theorem Family.ofValue?_value (f : Family) : Family.ofValue? (.int f.value) = some f := by
  cases f <;> simp [Family.ofValue?, Family.all, Family.value, Value.equals, Value.equalsScalar,
    Value.tupleItems?, Value.asBytes?, Value.asInt?]

theorem SocketType.ofValue?_value (t : SocketType) : SocketType.ofValue? (.int t.value) = some t := by
  cases t <;> simp [SocketType.ofValue?, SocketType.all, SocketType.value, Value.equals,
    Value.equalsScalar, Value.tupleItems?, Value.asBytes?, Value.asInt?]

theorem Protocol.ofValue?_value (p : Protocol) : Protocol.ofValue? (.int p.value) = some p := by
  cases p <;> simp [Protocol.ofValue?, Protocol.all, Protocol.value, Value.equals,
    Value.equalsScalar, Value.tupleItems?, Value.asBytes?, Value.asInt?]

/-! ## Zero bytes

Only the character zero is written with a zero byte. The Unix-domain decoder cuts the path at
the first zero byte, and a host text with a zero byte is refused. -/

theorem toUInt8_ne_zero_of_testBit {n : Nat} (h : n.testBit 7 = true) : n.toUInt8 ≠ 0 := by
  intro h0
  have hmod : n % 2 ^ 8 = 0 := by
    simpa [Nat.toUInt8_eq, ← UInt8.toNat_inj] using h0
  have hbit := congrArg (Nat.testBit · 7) hmod
  rw [Nat.testBit_mod_two_pow] at hbit
  simp [h] at hbit

theorem toUInt8_or_ne_zero {m : Nat} (x : Nat) (hm : m.testBit 7 = true) :
    0 ≠ (m ||| x).toUInt8 :=
  (toUInt8_ne_zero_of_testBit (by simp [Nat.testBit_or, hm])).symm

/-- A code point other than zero has no zero byte: a sequence of more than one byte sets the top
bit of each of its bytes. -/
theorem Utf8.encodeCode_ne_zero {n : Nat} (hn : n ≠ 0) : (0 : UInt8) ∉ Utf8.encodeCode n := by
  unfold Utf8.encodeCode
  split
  · simp [Nat.toUInt8_eq, ← UInt8.toNat_inj]
    omega
  split
  · simp only [List.mem_cons, List.not_mem_nil, or_false, not_or]
    exact ⟨toUInt8_or_ne_zero _ (by decide), toUInt8_or_ne_zero _ (by decide)⟩
  split <;> simp only [List.mem_cons, List.not_mem_nil, or_false, not_or]
  · exact ⟨toUInt8_or_ne_zero _ (by decide), toUInt8_or_ne_zero _ (by decide),
      toUInt8_or_ne_zero _ (by decide)⟩
  · exact ⟨toUInt8_or_ne_zero _ (by decide), toUInt8_or_ne_zero _ (by decide),
      toUInt8_or_ne_zero _ (by decide), toUInt8_or_ne_zero _ (by decide)⟩

namespace Text

theorem encodeFrom_chars (ok? : Glyph → Option (List UInt8)) (cs : List Char) (pos : Nat) :
    encodeFrom ok? pos (cs.map .char) = .ok (cs.flatMap Utf8.encodeChar) := by
  induction cs generalizing pos with
  | nil => rfl
  | cons c cs ih => simp [encodeFrom, ih, Except.map]

theorem utf8?_ofString (s : String) : (ofString s).utf8? = .ok (Utf8.encodeString s) :=
  encodeFrom_chars _ s.toList 0

theorem chars_ofString (s : String) : (ofString s).chars = s := by
  simp [chars, ofString, List.filterMap_map]

theorem mem_ofString {c : Char} {s : String} : Glyph.char c ∈ ofString s ↔ c ∈ s.toList := by
  simp [ofString]

/-- Encoding writes a zero byte only for the character zero, or where the bytes of a surrogate
hold one. -/
theorem encodeFrom_zero_free {ok? : Glyph → Option (List UInt8)}
    (hok : ∀ g out, ok? g = some out → (0 : UInt8) ∉ out) :
    ∀ (t : Text) (pos : Nat) (bs : List UInt8), encodeFrom ok? pos t = .ok bs →
      (∀ c, Glyph.char c ∈ t → c.toNat ≠ 0) → (0 : UInt8) ∉ bs := by
  intro t
  induction t with
  | nil =>
    intro pos bs h _
    cases h
    simp
  | cons g rest ih =>
    intro pos bs h hc
    have hrest : ∀ c, Glyph.char c ∈ rest → c.toNat ≠ 0 := fun c hmem => hc c (by simp [hmem])
    cases g with
    | char c =>
      simp only [encodeFrom, Except.map] at h
      split at h
      · cases h
      · rename_i tail htail
        cases h
        simp only [List.mem_append, not_or]
        exact ⟨Utf8.encodeCode_ne_zero (hc c (by simp)), ih _ _ htail hrest⟩
    | surrogate n =>
      simp only [encodeFrom, Except.map] at h
      split at h
      · rename_i out hout
        split at h
        · cases h
        · rename_i tail htail
          cases h
          simp only [List.mem_append, not_or]
          exact ⟨hok _ _ hout, ih _ _ htail hrest⟩
      · cases h

theorem encodeString_zero_free {s : String} (hs : ∀ c ∈ s.toList, c.toNat ≠ 0) :
    (0 : UInt8) ∉ Utf8.encodeString s :=
  encodeFrom_zero_free (fun _ _ h => by cases h) (ofString s) 0 _ (utf8?_ofString s)
    fun c hc => hs c (mem_ofString.mp hc)

/-- A surrogate stands for a byte from `0x80` to `0xFF`, never for zero. -/
theorem fsBytes?_zero_free {t : Text} {bs : List UInt8} (h : t.fsBytes? = .ok bs)
    (ht : ∀ c, Glyph.char c ∈ t → c.toNat ≠ 0) : (0 : UInt8) ∉ bs := by
  refine encodeFrom_zero_free (fun g out hg => ?_) t 0 bs h ht
  cases g with
  | char c => cases hg
  | surrogate n =>
    simp only [Glyph.byte?] at hg
    split at hg
    · rename_i hn
      cases hg
      simp only [Bool.and_eq_true, decide_eq_true_eq] at hn
      simp [Nat.toUInt8_eq, ← UInt8.toNat_inj]
      omega
    · cases hg

theorem fsBytes?_of_pathBytes {t : Text} {bs : List UInt8} (h : pathBytes (.str t) = .ok bs) :
    t.fsBytes? = .ok bs := by
  simp only [pathBytes, fsBytes, Except.mapError] at h
  split at h <;> simp_all

end Text

theorem hostText_ofString (fn : String) {s : String} (hs : ∀ c ∈ s.toList, c.toNat ≠ 0) :
    hostText fn (Value.ofString s) = .ok s := by
  have hfree := Text.encodeString_zero_free hs
  simp only [hostText, Value.ofString, strictUtf8, Text.utf8?_ofString, Except.mapError]
  simp [bind, Except.bind, hfree, Text.chars_ofString]

/-! ## Address characters -/

/-- The characters of the text forms of internet addresses: hexadecimal digits, colons and
dots. -/
def addressChar (c : Char) : Bool := isHexDigit c || c == ':' || c == '.'

/-- A text written with address characters only. -/
def AddressText (s : String) : Prop := ∀ c ∈ s.toList, addressChar c = true

theorem isHexDigit_iff {c : Char} : isHexDigit c = true ↔
    (48 ≤ c.toNat ∧ c.toNat ≤ 57) ∨ (97 ≤ c.toNat ∧ c.toNat ≤ 102) ∨
      (65 ≤ c.toNat ∧ c.toNat ≤ 70) := by
  have h0 : ('0' : Char).toNat = 48 := rfl
  have h9 : ('9' : Char).toNat = 57 := rfl
  have ha : ('a' : Char).toNat = 97 := rfl
  have hf : ('f' : Char).toNat = 102 := rfl
  have hA : ('A' : Char).toNat = 65 := rfl
  have hF : ('F' : Char).toNat = 70 := rfl
  simp only [isHexDigit, hexValue?, Char.le_def, UInt32.le_iff_toNat_le, Char.toNat_val,
    Bool.and_eq_true, decide_eq_true_eq, h0, h9, ha, hf, hA, hF]
  repeat' split
  all_goals simp only [Option.isSome_some, Option.isSome_none, Bool.false_eq_true,
    true_iff, false_iff]
  all_goals omega

/-- Every address character comes at or after `.` in the character table, so none is the
character zero or `%`. -/
theorem dot_le_of_addressChar {c : Char} (h : addressChar c = true) : 46 ≤ c.toNat := by
  simp only [addressChar, Bool.or_eq_true, beq_iff_eq, isHexDigit_iff] at h
  rcases h with (h | rfl) | rfl
  · omega
  · decide
  · decide

theorem addressChar_of_isDigit {c : Char} (h : c.isDigit = true) : addressChar c = true := by
  simp only [Char.isDigit, Bool.and_eq_true, decide_eq_true_eq, UInt32.le_iff_toNat_le,
    ge_iff_le, Char.toNat_val] at h
  simp only [addressChar, Bool.or_eq_true, isHexDigit_iff]
  simp at h
  omega

theorem addressChar_digitChar {m : Nat} (h : m < 16) : addressChar m.digitChar = true := by
  revert m
  decide

namespace AddressText

theorem append {a b : String} (ha : AddressText a) (hb : AddressText b) :
    AddressText (a ++ b) := by
  intro c hc
  simp only [String.toList_append, List.mem_append] at hc
  exact hc.elim (ha c) (hb c)

theorem colon : AddressText ":" := by
  intro c hc
  simp at hc
  subst hc
  decide

theorem ne_zero {s : String} (h : AddressText s) : ∀ c ∈ s.toList, c.toNat ≠ 0 := fun c hc => by
  have := dot_le_of_addressChar (h c hc)
  omega

theorem ne_percent {s : String} (h : AddressText s) : ∀ c ∈ s.toList, c ≠ '%' := fun c hc hpct => by
  have := dot_le_of_addressChar (h c hc)
  subst hpct
  simp at this

end AddressText

theorem mem_toDigits_hex {c : Char} {n : Nat} (h : c ∈ Nat.toDigits 16 n) :
    ∃ m < 16, c = m.digitChar := by
  induction n using Nat.strongRecOn with
  | ind n ih =>
    rw [Nat.toDigits_eq_if (by decide)] at h
    split at h
    · rename_i hlt
      exact ⟨n, hlt, by simpa using h⟩
    · simp only [List.mem_append, List.mem_singleton] at h
      rcases h with h | h
      · exact ih (n / 16) (by omega) h
      · exact ⟨n % 16, Nat.mod_lt _ (by decide), h⟩

theorem lowerHex_addressText (n : Nat) : AddressText (lowerHex n) := by
  intro c hc
  obtain ⟨m, hm, rfl⟩ := mem_toDigits_hex (by simpa [lowerHex] using hc)
  exact addressChar_digitChar hm

theorem forall_mem_intercalate {α : Type} {p : α → Prop} {sep : List α}
    (hsep : ∀ x ∈ sep, p x) :
    ∀ xss : List (List α), (∀ xs ∈ xss, ∀ x ∈ xs, p x) → ∀ x ∈ sep.intercalate xss, p x
  | [], _ => by simp [List.intercalate_nil]
  | [xs], h => by simpa [List.intercalate_singleton] using h xs
  | xs :: ys :: rest, h => by
    rw [List.intercalate_cons_cons]
    intro x hx
    simp only [List.mem_append] at hx
    rcases hx with (hx | hx) | hx
    · exact h xs (by simp) x hx
    · exact hsep x hx
    · exact forall_mem_intercalate hsep (ys :: rest) (fun l hl => h l (by simp [hl])) x hx

theorem Inet4.render_addressText (bs : List UInt8) : AddressText (Inet4.render bs) := by
  simp only [AddressText, Inet4.render, String.toList_intercalate, List.map_map]
  have hdot : ∀ x ∈ ['.'], addressChar x = true := by
    intro x hx
    rw [List.mem_singleton] at hx
    subst hx
    decide
  refine forall_mem_intercalate hdot _ ?_
  simp only [List.mem_map, Function.comp_apply, forall_exists_index, and_imp]
  rintro _ b _ rfl c hc
  rw [Nat.toString_eq_ofList_toDigits, String.toList_ofList] at hc
  exact addressChar_of_isDigit (Nat.isDigit_of_mem_toDigits (by decide) (by decide) hc)

/-- The groups are written one at a time onto `acc`; whatever the run of zeros and the embedded
quad, each step adds a colon, a group in hexadecimal or a dotted quad. -/
theorem Inet6.render.go_addressText (bs : List UInt8) (ws : List Nat)
    (best : Option (Nat × Nat)) (inRun : Nat → Bool) (embedded : Bool) :
    ∀ fuel i acc, AddressText acc →
      AddressText (Inet6.render.go bs ws best inRun embedded i fuel acc) := by
  intro fuel
  induction fuel with
  | zero =>
    intro i acc hacc
    simpa [Inet6.render.go] using hacc
  | succ fuel ih =>
    intro i acc hacc
    unfold Inet6.render.go
    -- past the last group, inside the run of zeros, or writing one group
    split
    · exact hacc
    split
    · split
      · exact ih _ _ (hacc.append AddressText.colon)
      · exact ih _ _ hacc
    · have hsep : AddressText (if i != 0 then acc ++ ":" else acc) := by
        split
        · exact hacc.append AddressText.colon
        · exact hacc
      dsimp only
      generalize (if i != 0 then acc ++ ":" else acc) = acc' at hsep ⊢
      split
      · exact hsep.append (Inet4.render_addressText _)
      · exact ih _ _ (hsep.append (lowerHex_addressText _))

theorem Inet6.render_addressText (bs : List UInt8) : AddressText (Inet6.render bs) := by
  have hbody : ∀ ws best inRun embedded,
      AddressText (Inet6.render.go bs ws best inRun embedded 0 8 "") :=
    fun ws best inRun embedded =>
      Inet6.render.go_addressText bs ws best inRun embedded 8 0 "" (by simp [AddressText])
  unfold Inet6.render
  dsimp only
  split
  · split
    · exact (hbody _ _ _ _).append AddressText.colon
    · exact hbody _ _ _ _
  · exact hbody _ _ _ _

/-! ## What the parsers yield -/

theorem length_of_mapM_some {α β : Type} {f : α → Option β} :
    ∀ {xs : List α} {ys : List β}, xs.mapM f = some ys → ys.length = xs.length
  | [], ys, h => by cases h; rfl
  | x :: xs, ys, h => by
    simp only [List.mapM_cons, Option.bind_eq_bind, Option.pure_def, Option.bind_eq_some_iff,
      Option.some.injEq] at h
    obtain ⟨_, _, rest, hrest, rfl⟩ := h
    simp [length_of_mapM_some hrest]

/-- A dotted quad reads as four bytes. -/
theorem Inet4.length_of_parse? {s : String} {bs : List UInt8} (h : Inet4.parse? s = some bs) :
    bs.length = 4 := by
  unfold Inet4.parse? at h
  dsimp only at h
  split at h
  · cases h
  · rename_i hparts
    rw [length_of_mapM_some h]
    simpa using hparts

namespace Inet6

/-- Filling in the zeros of `::` gives sixteen bytes when the bytes read so far fit. -/
theorem length_of_expand {out bs : List UInt8} {colon : Option Nat}
    (h : expand out colon = some bs) (hout : out.length ≤ 16)
    (hcolon : ∀ p, colon = some p → p ≤ out.length) : bs.length = 16 := by
  unfold expand at h
  split at h
  · rename_i p
    have hp := hcolon p rfl
    split at h
    · cases h
    · cases h
      simp
      omega
  · split at h
    · rename_i hlen
      cases h
      simpa using hlen
    · cases h

/-- The scan keeps at most sixteen bytes, with its `::` among them, so what it yields is sixteen
bytes. -/
theorem length_of_scan : ∀ (cs tok : List Char) (out : List UInt8) (colon : Option Nat)
    (digits val : Nat) {bs : List UInt8}, scan tok out colon digits val cs = some bs →
    out.length ≤ 16 → (∀ p, colon = some p → p ≤ out.length) → bs.length = 16 := by
  intro cs
  induction cs with
  | nil =>
    intro tok out colon digits val bs h hout hcolon
    simp only [scan] at h
    split at h
    · split at h
      · cases h
      · refine length_of_expand h (by simp [groupBytes]; omega) fun p hp => ?_
        have := hcolon p hp
        simp
        omega
    · exact length_of_expand h hout hcolon
  | cons c rest ih =>
    intro tok out colon digits val bs h hout hcolon
    simp only [scan] at h
    split at h
    · -- a hexadecimal digit extends the group
      split at h
      · cases h
      · exact ih _ _ _ _ _ h hout hcolon
    split at h
    · -- a colon closes the group, or marks the `::` where it starts one
      split at h
      · split at h
        · cases h
        · exact ih _ _ _ _ _ h hout fun p hp => by cases hp; exact Nat.le_refl _
      · split at h
        · cases h
        · rename_i hroom
          simp only [Bool.or_eq_true, decide_eq_true_eq, not_or] at hroom
          refine ih _ _ _ _ _ h (by simp [groupBytes]; omega) fun p hp => ?_
          have := hcolon p hp
          simp
          omega
    · -- a dot ends the text with a dotted quad in place of the last two groups
      split at h
      · rename_i hroom
        simp only [Bool.and_eq_true, beq_iff_eq, decide_eq_true_eq] at hroom
        split at h
        · rename_i four hfour
          refine length_of_expand h (by simp [Inet4.length_of_parse? hfour]; omega) fun p hp => ?_
          have := hcolon p hp
          simp
          omega
        · cases h
      · cases h

/-- A version 6 text reads as sixteen bytes. -/
theorem length_of_parse? {s : String} {bs : List UInt8} (h : parse? s = some bs) :
    bs.length = 16 := by
  unfold parse? at h
  have hstart : ∀ cs, scan cs [] none 0 0 cs = some bs → bs.length = 16 :=
    fun cs hs => length_of_scan cs cs [] none 0 0 hs (by simp) (by simp)
  split at h
  · cases h
  · split at h
    · exact hstart _ h
    · cases h
  · exact hstart _ h

end Inet6

/-! ## Layouts written and read -/

namespace Address

/-- The layout of an internet address reads back as its host text and port. -/
theorem decode_inet {port : Nat} {host : List UInt8} (hport : port < 2 ^ 16)
    (hhost : host.length = 4) :
    decode (le16 2 ++ be16 port ++ host ++ List.replicate 8 0) =
      some (.inet (.ofString (Inet4.render host)) (.int port)) := by
  have hfamily := Family.ofValue?_value .inet
  simp only [Family.value] at hfamily
  have hhead : (le16 2 ++ be16 port ++ host ++ List.replicate 8 0).take 2 = le16 2 := by
    simp only [List.append_assoc]
    exact List.take_left' rfl
  have hbody : (le16 2 ++ be16 port ++ host ++ List.replicate 8 0).drop 2 =
      be16 port ++ host ++ List.replicate 8 0 := by
    simp only [List.append_assoc]
    exact List.drop_left' rfl
  have hport' : (be16 port ++ host ++ List.replicate 8 0).take 2 = be16 port := by
    simpa using take_drop_append [] (be16 port) (host ++ List.replicate 8 0) rfl rfl
  have hhost' : ((be16 port ++ host ++ List.replicate 8 0).drop 2).take 4 = host :=
    take_drop_append (be16 port) host _ rfl hhost
  have hlong : ¬(le16 2 ++ be16 port ++ host ++ List.replicate 8 0).length < 2 := by
    simp only [List.length_append, length_le16]
    omega
  simp only [decode, hlong, if_false, hhead, hbody, readLe_le16 (show 2 < 2 ^ 16 by decide), hport', hhost',
    readBe_be16 hport]
  simp [hhost, hfamily]

/-- The layout of a version 6 address reads back as its host text, port, flow label and
scope. -/
theorem decode_inet6 {port flow scope : Nat} {host : List UInt8} (hport : port < 2 ^ 16)
    (hflow : flow < 2 ^ 32) (hscope : scope < 2 ^ 32) (hhost : host.length = 16) :
    decode (le16 10 ++ be16 port ++ be32 flow ++ host ++ le32 scope) =
      some (.inet6 (.ofString (Inet6.render host)) (.int port) (.int flow) (.int scope)) := by
  have hfamily := Family.ofValue?_value .inet6
  simp only [Family.value] at hfamily
  have hhead : (le16 10 ++ be16 port ++ be32 flow ++ host ++ le32 scope).take 2 = le16 10 := by
    simp only [List.append_assoc]
    exact List.take_left' rfl
  have hbody : (le16 10 ++ be16 port ++ be32 flow ++ host ++ le32 scope).drop 2 =
      be16 port ++ be32 flow ++ host ++ le32 scope := by
    simp only [List.append_assoc]
    exact List.drop_left' rfl
  have hport' : (be16 port ++ be32 flow ++ host ++ le32 scope).take 2 = be16 port := by
    simpa [List.append_assoc] using
      take_drop_append [] (be16 port) (be32 flow ++ host ++ le32 scope) rfl rfl
  have hflow' : ((be16 port ++ be32 flow ++ host ++ le32 scope).drop 2).take 4 = be32 flow := by
    simpa [List.append_assoc] using
      take_drop_append (be16 port) (be32 flow) (host ++ le32 scope) rfl rfl
  have hhost' : ((be16 port ++ be32 flow ++ host ++ le32 scope).drop 6).take 16 = host := by
    simpa [List.append_assoc] using
      take_drop_append (be16 port ++ be32 flow) host (le32 scope) rfl hhost
  have hscope' : ((be16 port ++ be32 flow ++ host ++ le32 scope).drop 22).take 4 = le32 scope := by
    simpa [List.append_assoc] using
      take_drop_append (be16 port ++ be32 flow ++ host) (le32 scope) [] (by simp [hhost]) rfl
  have hlong : ¬(le16 10 ++ be16 port ++ be32 flow ++ host ++ le32 scope).length < 2 := by
    simp only [List.length_append, length_le16]
    omega
  simp only [decode, hlong, if_false, hhead, hbody, readLe_le16 (show 10 < 2 ^ 16 by decide), hport', hflow',
    hhost', hscope', readBe_be16 hport, readBe_be32 hflow, readLe_le32 hscope]
  simp [hhost, hfamily]

/-- The layout of a Unix-domain address reads back as the text of its path, which ends at the
first zero byte. -/
theorem decode_unix {path : List UInt8} {pad : Nat} (hpath : (0 : UInt8) ∉ path) :
    decode (le16 1 ++ path ++ List.replicate (pad + 1) 0) =
      some (.unix (.str (Text.decode path))) := by
  have hfamily := Family.ofValue?_value .unix
  simp only [Family.value] at hfamily
  have hhead : (le16 1 ++ path ++ List.replicate (pad + 1) 0).take 2 = le16 1 := by
    simp only [List.append_assoc]
    exact List.take_left' rfl
  have hbody : (le16 1 ++ path ++ List.replicate (pad + 1) 0).drop 2 =
      path ++ List.replicate (pad + 1) 0 := by
    simp only [List.append_assoc]
    exact List.drop_left' rfl
  have hcut : (path ++ List.replicate (pad + 1) 0).takeWhile (· != 0) = path := by
    rw [List.takeWhile_append_of_pos fun b hb => by simpa using ne_of_mem_of_not_mem hb hpath]
    simp [List.replicate_succ]
  have hlong : ¬(le16 1 ++ path ++ List.replicate (pad + 1) 0).length < 2 := by
    simp only [List.length_append, length_le16]
    omega
  simp only [decode, hlong, if_false, hhead, hbody, readLe_le16 (show 1 < 2 ^ 16 by decide), hcut]
  simp [hfamily]

/-- A host text without `%` has no zone to cut off. -/
theorem hostPart_ofString {s : String} (h : ∀ c ∈ s.toList, c ≠ '%') :
    hostPart (.ofString s) = hostText "inet_pton" (.ofString s) := by
  have hall : ∀ g ∈ Text.ofString s, (g != Glyph.char '%') = true := by
    intro g hg
    obtain ⟨c, hc, rfl⟩ := List.mem_map.mp hg
    simpa using h c hc
  have hkeep : (Text.ofString s).takeWhile (· != Glyph.char '%') = Text.ofString s := by
    simpa using @List.takeWhile_append_of_pos _ (· != Glyph.char '%') _ [] hall
  simp only [hostPart, Value.ofString, hkeep]

/-- The layout of an internet address whose host is the dotted quad of `host`. -/
theorem toRaw_inet {s : String} {p : Value} {host : List UInt8} {port : Nat}
    (hparse : Inet4.parse? s = some host) (hrender : Inet4.render host = s)
    (hp : p.asInt? = some (port : Int)) (hport : port < 2 ^ 16) :
    toRaw (.inet (.ofString s) p) = .ok (le16 2 ++ be16 port ++ host ++ List.replicate 8 0, 16) := by
  have htext := hrender ▸ Inet4.render_addressText host
  simp only [toRaw, packHost4, hostText_ofString _ htext.ne_zero,
    packUnsigned_of_fits hp hport (by decide)]
  simp [bind, Except.bind, hparse]

/-- The layout of a version 6 address whose host is the canonical text of `host`. -/
theorem toRaw_inet6 {s : String} {p f sc : Value} {host : List UInt8} {port flow scope : Nat}
    (hparse : Inet6.parse? s = some host) (hrender : Inet6.render host = s)
    (hp : p.asInt? = some (port : Int)) (hport : port < 2 ^ 16)
    (hf : f.asInt? = some (flow : Int)) (hflow : flow < 2 ^ 32)
    (hsc : sc.asInt? = some (scope : Int)) (hscope : scope < 2 ^ 32) :
    toRaw (.inet6 (.ofString s) p f sc) =
      .ok (le16 10 ++ be16 port ++ be32 flow ++ host ++ le32 scope, 28) := by
  have htext := hrender ▸ Inet6.render_addressText host
  simp only [toRaw, hostPart_ofString htext.ne_percent, hostText_ofString _ htext.ne_zero,
    packHost6, packUnsigned_of_fits hp hport (by decide),
    packUnsigned_of_fits hf hflow (by decide), packUnsigned_of_fits hsc hscope (by decide)]
  simp [bind, Except.bind, hparse]

/-- The layout of a Unix-domain address whose path has file-system bytes that fit. -/
theorem toRaw_unix {t : Text} {bs : List UInt8} (hbytes : t.fsBytes? = .ok bs)
    (hfit : bs.length < unixPathMax) :
    toRaw (.unix (.str t)) =
      .ok (le16 1 ++ bs ++ List.replicate (unixPathMax - bs.length) 0, 2 + unixPathMax) := by
  simp only [toRaw, pathBytes, fsBytes, hbytes, Except.mapError]
  simp [bind, Except.bind, Nat.not_le.mpr hfit]

end Address

/-! ## Round trips -/

/-- A dotted quad in canonical form: the text of the four bytes it reads as. -/
def Inet4.Canonical (s : String) : Prop := (Inet4.parse? s).map Inet4.render = some s

instance : DecidablePred Inet4.Canonical := fun s => inferInstanceAs (Decidable (_ = some s))

/-- A version 6 text in canonical form: the text of the sixteen bytes it reads as. -/
def Inet6.Canonical (s : String) : Prop := (Inet6.parse? s).map Inet6.render = some s

instance : DecidablePred Inet6.Canonical := fun s => inferInstanceAs (Decidable (_ = some s))

/-- A value that packs into an unsigned word of `bits` bits: an integer, or a flag, from zero
up to below `2 ^ bits`. -/
def Value.FitsWord (bits : Nat) (v : Value) : Prop :=
  ∃ n : Nat, v.asInt? = some (n : Int) ∧ n < 2 ^ bits

/-- A Unix-domain path that the layout keeps whole: no zero character, and file-system bytes
that decode back to it and leave room for the terminating zero. -/
def Text.FitsUnixPath (t : Text) : Prop :=
  (∀ c, Glyph.char c ∈ t → c.toNat ≠ 0) ∧
    ∃ bs, t.fsBytes? = .ok bs ∧ Text.decode bs = t ∧ bs.length < unixPathMax

theorem Value.str_equals_self (t : Text) : (Value.str t).equals (.str t) = true := by
  simp [Value.equals, Value.tupleItems?, Value.equalsScalar]

/-- An integer equals every value that stands for it, flags included. -/
theorem Value.int_equals_of_asInt? {v : Value} {n : Int} (h : v.asInt? = some n) :
    (Value.int n).equals v = true := by
  cases v <;> simp [Value.asInt?] at h <;> subst h <;>
    simp [Value.equals, Value.tupleItems?, Value.equalsScalar, Value.asBytes?, Value.asInt?]

namespace Address

/-- An address of canonical host text and fields in range. -/
def Canonical : Address Value → Prop
  | .inet h p => (∃ s, h = .ofString s ∧ Inet4.Canonical s) ∧ p.FitsWord 16
  | .inet6 h p f sc =>
    (∃ s, h = .ofString s ∧ Inet6.Canonical s) ∧ p.FitsWord 16 ∧ f.FitsWord 32 ∧ sc.FitsWord 32
  | .unix p => ∃ t, p = .str t ∧ t.FitsUnixPath

/-- The layout of an address is as long as its size says, and reading it back gives an address
equal to it. -/
def RoundTrips (a : Address Value) : Prop :=
  ∃ raw, a.toRaw = .ok (raw, a.size) ∧ raw.length = a.size ∧
    ∃ d, decode raw = some d ∧ (Value.addr d).equals (.addr a) = true

theorem roundTrips_inet {h p : Value} (hc : Canonical (.inet h p)) : RoundTrips (.inet h p) := by
  obtain ⟨⟨s, rfl, hs⟩, ⟨port, hp, hport⟩⟩ := hc
  obtain ⟨host, hparse, hrender⟩ := Option.map_eq_some_iff.mp hs
  refine ⟨_, toRaw_inet hparse hrender hp hport, ?_, _,
    decode_inet hport (Inet4.length_of_parse? hparse), ?_⟩
  · simp [Inet4.length_of_parse? hparse, size, family]
  · simp [Value.equals, Value.equalsAddr, Value.tupleItems?, hrender, Value.ofString,
      Value.str_equals_self, Value.int_equals_of_asInt? hp]

theorem roundTrips_inet6 {h p f sc : Value} (hc : Canonical (.inet6 h p f sc)) :
    RoundTrips (.inet6 h p f sc) := by
  obtain ⟨⟨s, rfl, hs⟩, ⟨port, hp, hport⟩, ⟨flow, hf, hflow⟩, ⟨scope, hsc, hscope⟩⟩ := hc
  obtain ⟨host, hparse, hrender⟩ := Option.map_eq_some_iff.mp hs
  refine ⟨_, toRaw_inet6 hparse hrender hp hport hf hflow hsc hscope, ?_, _,
    decode_inet6 hport hflow hscope (Inet6.length_of_parse? hparse), ?_⟩
  · simp [Inet6.length_of_parse? hparse, size, family]
  · simp [Value.equals, Value.equalsAddr, Value.tupleItems?, hrender, Value.ofString,
      Value.str_equals_self, Value.int_equals_of_asInt? hp, Value.int_equals_of_asInt? hf,
      Value.int_equals_of_asInt? hsc]

theorem roundTrips_unix {p : Value} (hc : Canonical (.unix p)) : RoundTrips (.unix p) := by
  obtain ⟨t, rfl, hzero, bs, hbytes, hdecode, hfit⟩ := hc
  -- the padding after the path is never empty, so the path ends where the zeros start
  have hpad : unixPathMax - bs.length = (unixPathMax - bs.length - 1) + 1 := by omega
  have hdec := @decode_unix bs (unixPathMax - bs.length - 1) (Text.fsBytes?_zero_free hbytes hzero)
  rw [← hpad] at hdec
  refine ⟨_, toRaw_unix hbytes hfit, ?_, _, hdec, ?_⟩
  · simp [size, family]
    omega
  · simp [Value.equals, Value.equalsAddr, Value.tupleItems?, hdecode, Value.str_equals_self]

/-- Every address in canonical form reads back from its layout. -/
theorem roundTrips_of_canonical : ∀ a : Address Value, a.Canonical → a.RoundTrips
  | .inet _ _, hc => roundTrips_inet hc
  | .inet6 _ _ _ _, hc => roundTrips_inet6 hc
  | .unix _, hc => roundTrips_unix hc

end Address

/-- A signature for a path holds the Unix-domain address of that path, whose file-system bytes
leave room for the terminating zero. -/
theorem Signature.forPath_address {type proto path : Value} {g : Signature}
    (h : Signature.forPath type proto path = .ok g) :
    g.address = .addr (.unix path) ∧ ∃ bs, pathBytes path = .ok bs ∧ bs.length < unixPathMax := by
  unfold Signature.forPath at h
  simp only [bind, Except.bind, pure, Except.pure, throw, throwThe, MonadExceptOf.throw] at h
  repeat' split at h
  all_goals cases h
  all_goals exact ⟨rfl, _, ‹_›, Nat.lt_of_not_le ‹_›⟩

/-- Reading a layout back undoes writing it. Every address of canonical host text and fields in
range, and the address of every signature for a path that the layout keeps whole, is written as
a layout of its family's size that reads back as an equal address. -/
theorem decode_undoes_toRaw :
    (∀ a : Address Value, a.Canonical → a.RoundTrips) ∧
    (∀ (type proto : Value) (t : Text) (g : Signature),
      Signature.forPath type proto (.str t) = .ok g →
      (∀ c, Glyph.char c ∈ t → c.toNat ≠ 0) →
      (∀ bs, t.fsBytes? = .ok bs → Text.decode bs = t) →
      ∃ a, g.address = .addr a ∧ a.RoundTrips) := by
  refine ⟨Address.roundTrips_of_canonical, ?_⟩
  intro type proto t g h hzero hdecode
  obtain ⟨haddr, bs, hpath, hfit⟩ := Signature.forPath_address h
  have hbytes := Text.fsBytes?_of_pathBytes hpath
  exact ⟨_, haddr, Address.roundTrips_unix ⟨t, rfl, hzero, bs, hbytes, hdecode bs hbytes, hfit⟩⟩

theorem loopback6_layout_round_trips :
    Address.Canonical (.inet6 (.ofString "::1") (.int 8080) (.int 0) (.int 0)) ∧
      Address.RoundTrips (.inet6 (.ofString "::1") (.int 8080) (.int 0) (.int 0)) :=
  have hc : Address.Canonical (.inet6 (.ofString "::1") (.int 8080) (.int 0) (.int 0)) :=
    ⟨⟨"::1", rfl, by cbv⟩, ⟨8080, rfl, by decide⟩, ⟨0, rfl, by decide⟩, ⟨0, rfl, by decide⟩⟩
  ⟨hc, decode_undoes_toRaw.1 _ hc⟩

end Sockets
