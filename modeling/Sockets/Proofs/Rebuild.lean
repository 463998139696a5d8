import Sockets.Proofs.Layout

/-!
# Layouts written again from what they read as

`Address.decode` reads a native layout as an address and `Address.toRaw` writes an address as
its layout. Writing again what a layout reads as gives back the bytes the reader looked at, and
regenerates the rest (`toRaw_undoes_decode`).

*Refusals.*  A layout reads as nothing exactly when it has no header, its header names no known
family, or an internet layout is cut short (`Address.decode_eq_none_iff`).

*What comes back.*  The reader keeps every field it looks at, and a word read and written again
is the bytes it was read from (`le16_readLe`, `be16_readBe`, `be32_readBe`, `le32_readLe`):

* internet: the first eight bytes come back, and eight zero bytes stand for whatever followed
  (`Address.rebuild_inet`);
* version 6: the first 28 bytes come back (`Address.rebuild_inet6`);
* Unix domain: the header and the path up to its first zero byte come back, padded with zero
  bytes to the 108 of the path field; a path of 108 bytes or more is refused
  (`Address.rebuild_unix`).

The host texts and the path pass through the system's text conversions on the way. The
rebuilding takes for granted what those conversions promise, and only for the bytes at hand:
that parsing an address text gives back the bytes it was rendered from, and that the
file-system bytes of a decoded path are the path's bytes.
-/

namespace Sockets

/-! ## Words read and written again

A word of the layout is read from two or four bytes and written back into as many, so each
word's writer undoes its reader on every byte string of the word's length. -/

theorem le16_readLe {bs : List UInt8} (h : bs.length = 2) : le16 (readLe bs) = bs := by
  match bs, h with
  | [a, b], _ =>
    have ha := a.toNat_lt
    have hb := b.toNat_lt
    simp [le16, readLe, readBe, Nat.toUInt8_eq, ← UInt8.toNat_inj]
    omega

theorem be16_readBe {bs : List UInt8} (h : bs.length = 2) : be16 (readBe bs) = bs := by
  match bs, h with
  | [a, b], _ =>
    have ha := a.toNat_lt
    have hb := b.toNat_lt
    simp [be16, readBe, Nat.toUInt8_eq, ← UInt8.toNat_inj]
    omega

theorem be32_readBe {bs : List UInt8} (h : bs.length = 4) : be32 (readBe bs) = bs := by
  match bs, h with
  | [a, b, c, d], _ =>
    have ha := a.toNat_lt
    have hb := b.toNat_lt
    have hc := c.toNat_lt
    have hd := d.toNat_lt
    simp [be32, readBe, Nat.toUInt8_eq, ← UInt8.toNat_inj]
    omega

theorem le32_readLe {bs : List UInt8} (h : bs.length = 4) : le32 (readLe bs) = bs := by
  rw [le32, readLe, be32_readBe (by simpa using h), List.reverse_reverse]

/-- A word read from two bytes fits sixteen bits, so it packs as a port. -/
theorem readBe_lt_of_length_two {bs : List UInt8} (h : bs.length = 2) : readBe bs < 2 ^ 16 := by
  match bs, h with
  | [a, b], _ =>
    have ha := a.toNat_lt
    have hb := b.toNat_lt
    simp [readBe]
    omega

theorem readBe_lt_of_length_four {bs : List UInt8} (h : bs.length = 4) : readBe bs < 2 ^ 32 := by
  match bs, h with
  | [a, b, c, d], _ =>
    have ha := a.toNat_lt
    have hb := b.toNat_lt
    have hc := c.toNat_lt
    have hd := d.toNat_lt
    simp [readBe]
    omega

theorem readLe_lt_of_length_four {bs : List UInt8} (h : bs.length = 4) : readLe bs < 2 ^ 32 :=
  readBe_lt_of_length_four (by simpa using h)

/-! ## Family numbers -/

/-- Two integers are equal as values when they are equal numbers. -/
theorem Value.int_equals_int (m n : Int) : (Value.int m).equals (.int n) = (m == n) := by
  simp [Value.equals, Value.equalsScalar, Value.tupleItems?, Value.asBytes?, Value.asInt?]

theorem Family.ofValue?_int_eq_some {n : Int} {f : Family} :
    Family.ofValue? (.int n) = some f ↔ n = f.value := by
  constructor
  · intro h
    simpa [Value.int_equals_int] using List.find?_some h
  · rintro rfl
    exact Family.ofValue?_value f

/-- An integer names no family unless it is 1, 2 or 10. -/
theorem Family.ofValue?_int_eq_none {n : Int} :
    Family.ofValue? (.int n) = none ↔ n ∉ [1, 2, 10] := by
  simp only [Family.ofValue?, List.find?_eq_none, Family.all, Value.int_equals_int]
  simp [Family.value]
  omega

namespace Address

/-! ## What a layout reads as -/

/-- A layout reads as nothing exactly when it has no header, names an unknown family, or is an
internet layout of fewer than 16 bytes or a version 6 layout of fewer than 28. -/
theorem decode_eq_none_iff (b : List UInt8) :
    decode b = none ↔ b.length < 2 ∨ readLe (b.take 2) ∉ [1, 2, 10] ∨
      (readLe (b.take 2) = 2 ∧ (b.drop 2).length < 14) ∨
      (readLe (b.take 2) = 10 ∧ (b.drop 2).length < 26) := by
  unfold decode
  by_cases hlen : b.length < 2
  · simp [hlen]
  rw [if_neg hlen]
  rcases hf : Family.ofValue? (.int (readLe (b.take 2))) with _ | f
  · have hout := Family.ofValue?_int_eq_none.mp hf
    simp only [List.mem_cons, List.not_mem_nil, or_false, not_or] at hout
    simp
    omega
  · have hv := Family.ofValue?_int_eq_some.mp hf
    cases f <;> simp only [Family.value] at hv <;> simp <;> omega

/-- The header of a layout that reads as an address of family `f` is the family's number. -/
theorem header_of_family {b : List UInt8} {f : Family} (hlen : ¬b.length < 2)
    (hf : Family.ofValue? (.int (readLe (b.take 2))) = some f) :
    b.take 2 = le16 f.value.toNat := by
  have hv := Family.ofValue?_int_eq_some.mp hf
  rw [← le16_readLe (show (b.take 2).length = 2 by simp; omega)]
  congr
  omega

/-- A layout that reads as an internet address: the internet header, at least sixteen bytes,
the dotted quad of bytes 4 to 7 as host and the big-endian word of bytes 2 and 3 as port. -/
theorem decode_eq_inet {b : List UInt8} {h p : Value} (hd : decode b = some (.inet h p)) :
    b.take 2 = le16 2 ∧ 16 ≤ b.length ∧ h = .ofString (Inet4.render ((b.drop 4).take 4)) ∧
      p = .int (readBe ((b.drop 2).take 2)) := by
  unfold decode at hd
  split at hd
  · cases hd
  rcases hf : Family.ofValue? (.int (readLe (b.take 2))) with _ | f
  · simp [hf] at hd
  have hhead := header_of_family ‹_› hf
  cases f <;> simp only [hf] at hd
  case inet =>
    split at hd
    · cases hd
    · simp only [Option.some.injEq, Address.inet.injEq] at hd
      obtain ⟨rfl, rfl⟩ := hd
      refine ⟨hhead, by simp at *; omega, by simp, rfl⟩
  case inet6 => split at hd <;> simp at hd
  case unix => simp at hd

/-- A layout that reads as a version 6 address: the version 6 header, at least 28 bytes, the
text of bytes 8 to 23 as host, and the words of bytes 2 to 7 and 24 to 27 as port, flow label
and scope. -/
theorem decode_eq_inet6 {b : List UInt8} {h p f sc : Value}
    (hd : decode b = some (.inet6 h p f sc)) :
    b.take 2 = le16 10 ∧ 28 ≤ b.length ∧ h = .ofString (Inet6.render ((b.drop 8).take 16)) ∧
      p = .int (readBe ((b.drop 2).take 2)) ∧ f = .int (readBe ((b.drop 4).take 4)) ∧
      sc = .int (readLe ((b.drop 24).take 4)) := by
  unfold decode at hd
  split at hd
  · cases hd
  rcases hf : Family.ofValue? (.int (readLe (b.take 2))) with _ | fam
  · simp [hf] at hd
  have hhead := header_of_family ‹_› hf
  cases fam <;> simp only [hf] at hd
  case inet6 =>
    split at hd
    · cases hd
    · simp only [Option.some.injEq, Address.inet6.injEq] at hd
      obtain ⟨rfl, rfl, rfl, rfl⟩ := hd
      refine ⟨hhead, by simp at *; omega, by simp, rfl, by simp, by simp⟩
  case inet => split at hd <;> simp at hd
  case unix => simp at hd

/-- A layout that reads as a Unix-domain address: the Unix-domain header, and as path the text
of the bytes after it up to the first zero byte. -/
theorem decode_eq_unix {b : List UInt8} {path : Value} (hd : decode b = some (.unix path)) :
    b.take 2 = le16 1 ∧ 2 ≤ b.length ∧
      path = .str (Text.decode ((b.drop 2).takeWhile (· != 0))) := by
  unfold decode at hd
  split at hd
  · cases hd
  rcases hf : Family.ofValue? (.int (readLe (b.take 2))) with _ | fam
  · simp [hf] at hd
  have hhead := header_of_family ‹_› hf
  cases fam <;> simp only [hf] at hd
  case unix =>
    simp only [Option.some.injEq, Address.unix.injEq] at hd
    exact ⟨hhead, by omega, hd.symm⟩
  case inet => split at hd <;> simp at hd
  case inet6 => split at hd <;> simp at hd

/-! ## Writing again -/

/-- The layout of a Unix-domain address whose path has the file-system bytes `bs`: written when
they leave room for the terminating zero, refused otherwise. -/
theorem toRaw_unix_eq {t : Text} {bs : List UInt8} (hbytes : t.fsBytes? = .ok bs) :
    toRaw (.unix (.str t)) =
      if unixPathMax ≤ bs.length then .error (.valueError "Pathname supplied is too long.")
      else .ok (le16 1 ++ bs ++ List.replicate (unixPathMax - bs.length) 0, 2 + unixPathMax) := by
  simp only [toRaw, pathBytes, fsBytes, hbytes, Except.mapError]
  split <;> simp [bind, Except.bind, *]

/-- The first `m + n` bytes are the first `m` and the `n` after them. -/
theorem take_add_split (b : List UInt8) (m n : Nat) :
    b.take (m + n) = b.take m ++ (b.drop m).take n :=
  List.take_add

/-- Writing again the internet address a layout reads as gives back its first eight bytes and
eight zero bytes. -/
theorem rebuild_inet {b : List UInt8} {h p : Value} (hd : decode b = some (.inet h p))
    (hhost : Inet4.parse? (Inet4.render ((b.drop 4).take 4)) = some ((b.drop 4).take 4)) :
    toRaw (.inet h p) = .ok (b.take 8 ++ List.replicate 8 0, 16) := by
  obtain ⟨hhead, hlen, rfl, rfl⟩ := decode_eq_inet hd
  have hport := readBe_lt_of_length_two (show ((b.drop 2).take 2).length = 2 by simp; omega)
  have hfront : b.take 8 = le16 2 ++ be16 (readBe ((b.drop 2).take 2)) ++ (b.drop 4).take 4 := by
    rw [be16_readBe (by simp; omega), ← hhead, show 8 = 2 + 2 + 4 from rfl, take_add_split,
      take_add_split]
  rw [toRaw_inet hhost rfl rfl hport, hfront]

/-- Writing again the version 6 address a layout reads as gives back its first 28 bytes. -/
theorem rebuild_inet6 {b : List UInt8} {h p f sc : Value}
    (hd : decode b = some (.inet6 h p f sc))
    (hhost : Inet6.parse? (Inet6.render ((b.drop 8).take 16)) = some ((b.drop 8).take 16)) :
    toRaw (.inet6 h p f sc) = .ok (b.take 28, 28) := by
  obtain ⟨hhead, hlen, rfl, rfl, rfl, rfl⟩ := decode_eq_inet6 hd
  have hport := readBe_lt_of_length_two (show ((b.drop 2).take 2).length = 2 by simp; omega)
  have hflow := readBe_lt_of_length_four (show ((b.drop 4).take 4).length = 4 by simp; omega)
  have hscope := readLe_lt_of_length_four (show ((b.drop 24).take 4).length = 4 by simp; omega)
  have hfront : b.take 28 = le16 10 ++ be16 (readBe ((b.drop 2).take 2)) ++
      be32 (readBe ((b.drop 4).take 4)) ++ (b.drop 8).take 16 ++
      le32 (readLe ((b.drop 24).take 4)) := by
    rw [be16_readBe (by simp; omega), be32_readBe (by simp; omega), le32_readLe (by simp; omega),
      ← hhead, show 28 = 2 + 2 + 4 + 16 + 4 from rfl, take_add_split, take_add_split,
      take_add_split, take_add_split]
  rw [toRaw_inet6 hhost rfl rfl hport rfl hflow rfl hscope, hfront]

/-- Writing again the Unix-domain address a layout reads as gives back its header and its path
up to the first zero byte, padded with zero bytes, when the path leaves room for the zero that
ends it. -/
theorem rebuild_unix {b : List UInt8} {path : Value} (hd : decode b = some (.unix path))
    (hpath : (Text.decode ((b.drop 2).takeWhile (· != 0))).fsBytes? =
      .ok ((b.drop 2).takeWhile (· != 0))) :
    toRaw (.unix path) =
      let p := (b.drop 2).takeWhile (· != 0)
      if unixPathMax ≤ p.length then .error (.valueError "Pathname supplied is too long.")
      else .ok (b.take 2 ++ p ++ List.replicate (unixPathMax - p.length) 0, 2 + unixPathMax) := by
  obtain ⟨hhead, -, rfl⟩ := decode_eq_unix hd
  rw [toRaw_unix_eq hpath, hhead]

end Address

/-- A computation whose optional result is `a` returned `a`. -/
theorem Except.eq_ok_of_toOption {ε α : Type} {r : Except ε α} {a : α}
    (h : r.toOption = some a) : r = .ok a := by
  cases r <;> simp_all [Except.toOption]

/-- Writing a layout again from what it reads as rebuilds it. A layout reads as nothing exactly
when it is too short for its header, names an unknown family or is a cut internet layout; an
internet layout is rebuilt in its first 8 bytes and a version 6 one in its first 28, the rest
regenerated; a Unix-domain layout is rebuilt from its path up to the first zero byte, and refused
when that path has 108 bytes or more. The host texts and the path must read back as their bytes. -/
theorem toRaw_undoes_decode :
    (∀ b : List UInt8, Address.decode b = none ↔ b.length < 2 ∨ readLe (b.take 2) ∉ [1, 2, 10] ∨
      (readLe (b.take 2) = 2 ∧ (b.drop 2).length < 14) ∨
      (readLe (b.take 2) = 10 ∧ (b.drop 2).length < 26)) ∧
    (∀ (b : List UInt8) (h p : Value), Address.decode b = some (.inet h p) →
      Inet4.parse? (Inet4.render ((b.drop 4).take 4)) = some ((b.drop 4).take 4) →
      Address.toRaw (.inet h p) = .ok (b.take 8 ++ List.replicate 8 0, 16)) ∧
    (∀ (b : List UInt8) (h p f sc : Value), Address.decode b = some (.inet6 h p f sc) →
      Inet6.parse? (Inet6.render ((b.drop 8).take 16)) = some ((b.drop 8).take 16) →
      Address.toRaw (.inet6 h p f sc) = .ok (b.take 28, 28)) ∧
    (∀ (b : List UInt8) (path : Value), Address.decode b = some (.unix path) →
      ∀ p, (b.drop 2).takeWhile (· != 0) = p → (Text.decode p).fsBytes? = .ok p →
      Address.toRaw (.unix path) =
        if 108 ≤ p.length then .error (.valueError "Pathname supplied is too long.")
        else .ok (b.take 2 ++ p ++ List.replicate (108 - p.length) 0, 110)) :=
  ⟨Address.decode_eq_none_iff, fun _ _ _ hd hhost => Address.rebuild_inet hd hhost,
    fun _ _ _ _ _ hd hhost => Address.rebuild_inet6 hd hhost,
    fun _ _ hd _ hp hpath => by rw [Address.rebuild_unix hd (hp ▸ hpath), hp]; rfl⟩

/-- A Unix-domain layout whose path holds a byte that is no UTF-8, cut by a zero byte with a
stray byte after it. -/
def strayUnixLayout : List UInt8 := [1, 0, 0x61, 0xff, 0, 0x62]

theorem stray_unix_layout_rebuilt :
    Address.decode strayUnixLayout = some (.unix (.str (Text.decode [0x61, 0xff]))) ∧
      (Text.decode [0x61, 0xff]).fsBytes? = .ok [0x61, 0xff] ∧
      Address.toRaw (.unix (.str (Text.decode [0x61, 0xff]))) =
        .ok ([1, 0, 0x61, 0xff] ++ List.replicate 106 0, 110) :=
  have hd : Address.decode strayUnixLayout = some (.unix (.str (Text.decode [0x61, 0xff]))) := by
    have hfamily : Family.ofValue? (.int 1) = some .unix := Family.ofValue?_value .unix
    simp [Address.decode, strayUnixLayout, readLe, readBe, hfamily]
  have hp : (Text.decode [0x61, 0xff]).fsBytes? = .ok [0x61, 0xff] :=
    Except.eq_ok_of_toOption (by decide +kernel)
  ⟨hd, hp, toRaw_undoes_decode.2.2.2 _ _ hd _ rfl hp⟩

end Sockets
