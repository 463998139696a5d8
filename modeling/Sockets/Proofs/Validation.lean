import Mathlib
import Sockets.Signature

/-!
# What the signature constructors answer

A caller names a family, a type and a protocol by a raw number, a member's or any other, or by
none (`Value.ofNumber`). Each constructor of a signature then answers in one of a few ways
(`Signature.Answers`): it builds a signature whose type goes with its protocol
(`SocketType.carries`: a stream over TCP or the Unix protocol, datagrams over UDP or the Unix
protocol) and that holds what it was given, or it refuses with the code for bad signature
parameters (`Signature.Refusal`), or it fails in a way named for that constructor.

* *Classifying first.* `fromValues` and `forEndpoint` look every number up before anything else,
  so a number that names no member is refused, and they answer in no other way
  (`fromValues_answers`, `forEndpoint_answers`).
* *Checking in place.* `forHost` and `forPath` take members, and check only that a known type
  goes with the protocol; a type that names no member passes the check and fails later, where it
  must become a member, with a value error (`unknownType`). `forPath` also fails as making the
  path's file-system bytes fails, for a path that is neither text nor bytes or text that has no
  such bytes (`forHost_answers`, `forPath_answers`).

The numbers are looked up in the enumerations by one rule: among members with distinct numbers,
a raw number finds the member it is the number of (`find?_number_eq_some`).
-/

namespace Sockets

/-- A family, type or protocol as a caller passes it by number: a member's number, any other
integer, or none. -/
def Value.ofNumber : Option Int → Value
  | some n => .int n
  | Option.none => .none

@[simp] theorem Value.equals_ofNumber (x : Option Int) (m : Int) :
    (Value.ofNumber x).equals (.int m) = decide (x = some m) := by
  cases x with
  | none =>
    simp [Value.ofNumber, Value.equals, Value.equalsScalar, Value.tupleItems?, Value.asBytes?,
      Value.asInt?]
  | some n =>
    by_cases h : n = m <;>
      simp [Value.ofNumber, Value.equals, Value.equalsScalar, Value.tupleItems?, Value.asBytes?,
        Value.asInt?, h]

@[simp] theorem Value.unhashablePart?_ofNumber (x : Option Int) :
    (Value.ofNumber x).unhashablePart? = Option.none := by
  cases x <;> simp [Value.ofNumber, Value.unhashablePart?]

theorem memberOf_ofNumber (x : Option Int) (ns : List Int) :
    memberOf (.ofNumber x) ns = .ok (decide (∃ n ∈ ns, x = some n)) := by
  simp only [memberOf, Value.unhashablePart?_ofNumber, Except.ok.injEq]
  exact Bool.eq_iff_iff.mpr (by simp)

/-! ## Looking a number up -/

/-- Among members with distinct numbers, a raw number finds exactly the member it is the number
of. -/
theorem find?_number_eq_some {α : Type} (value : α → Int) {all : List α}
    (hdistinct : (all.map value).Nodup) {m : α} (hm : m ∈ all) (x : Option Int) :
    all.find? (fun a => (Value.ofNumber x).equals (.int (value a))) = some m ↔
      x = some (value m) := by
  simp only [Value.equals_ofNumber]
  induction all with
  | nil => cases hm
  | cons a rest ih =>
    rw [List.map_cons, List.nodup_cons, List.mem_map] at hdistinct
    obtain ⟨ha, hrest⟩ := hdistinct
    rw [List.find?_cons]
    by_cases hx : x = some (value a)
    · -- the head is found, and no later member has its number
      simp only [hx, decide_true, Option.some.injEq]
      constructor
      · rintro rfl
        rfl
      · intro h
        rcases List.mem_cons.1 hm with rfl | hm'
        · rfl
        · exact absurd ⟨m, hm', h.symm⟩ ha
    · simp only [hx, decide_false]
      rcases List.mem_cons.1 hm with rfl | hm'
      · simp only [hx, iff_false]
        intro h
        exact ha ⟨m, List.mem_of_find?_eq_some h, rfl⟩
      · exact ih hrest hm'

theorem Family.ofValue?_ofNumber (x : Option Int) (f : Family) :
    Family.ofValue? (.ofNumber x) = some f ↔ x = some f.value :=
  find?_number_eq_some Family.value (by decide) (by cases f <;> decide) x

theorem SocketType.ofValue?_ofNumber (x : Option Int) (t : SocketType) :
    SocketType.ofValue? (.ofNumber x) = some t ↔ x = some t.value :=
  find?_number_eq_some SocketType.value (by decide) (by cases t <;> decide) x

theorem Protocol.ofValue?_ofNumber (x : Option Int) (p : Protocol) :
    Protocol.ofValue? (.ofNumber x) = some p ↔ x = some p.value :=
  find?_number_eq_some Protocol.value (by decide) (by cases p <;> decide) x

/-- A protocol that names no member is no member's number. -/
theorem Protocol.ne_of_ofValue?_none {y : Option Int}
    (hy : Protocol.ofValue? (.ofNumber y) = none) (p : Protocol) : y ≠ some p.value := fun h => by
  simp [(Protocol.ofValue?_ofNumber y p).2 h] at hy

/-- Whether a socket type goes with a protocol: a stream with TCP or the Unix protocol, datagrams
with UDP or the Unix protocol. -/
def SocketType.carries : SocketType → Protocol → Bool
  | .stream, .tcp | .stream, .unix | .datagram, .udp | .datagram, .unix => true
  | _, _ => false

namespace Signature

/-! ## The check of type and protocol -/

/-- The refusal of bad signature parameters, whatever its reason. -/
def Refusal (f : Failure) : Prop := ∃ reason, f = bad reason

@[simp] theorem refusal_bad (reason : String) : Refusal (bad reason) := ⟨reason, rfl⟩

/-- A type that names no member passes the check of type and protocol, whatever the protocol. -/
theorem checkTypeAndProtocol_of_unknown {x : Option Int}
    (hx : SocketType.ofValue? (.ofNumber x) = none) (proto : Value) :
    checkTypeAndProtocol (.ofNumber x) proto = .ok () := by
  have h1 : x ≠ some 1 := fun h => by
    simp [(SocketType.ofValue?_ofNumber x .stream).2 (by simp [h, SocketType.value])] at hx
  have h2 : x ≠ some 2 := fun h => by
    simp [(SocketType.ofValue?_ofNumber x .datagram).2 (by simp [h, SocketType.value])] at hx
  simp [checkTypeAndProtocol, SocketType.value, h1, h2, pure, Except.pure]

/-- For a known type, the check passes only for a protocol that is a member going with it, and
otherwise refuses. -/
theorem checkTypeAndProtocol_ofNumber (x y : Option Int) {t : SocketType}
    (ht : SocketType.ofValue? (.ofNumber x) = some t) :
    (∀ u, checkTypeAndProtocol (.ofNumber x) (.ofNumber y) = .ok u →
      ∃ p, Protocol.ofValue? (.ofNumber y) = some p ∧ t.carries p = true) ∧
    ∀ f, checkTypeAndProtocol (.ofNumber x) (.ofNumber y) = .error f → Refusal f := by
  have hx := (SocketType.ofValue?_ofNumber x t).1 ht
  subst hx
  cases hp : Protocol.ofValue? (.ofNumber y) with
  | some p =>
    have hy := (Protocol.ofValue?_ofNumber y p).1 hp
    subst hy
    cases t <;> cases p <;>
      simp [checkTypeAndProtocol, memberOf_ofNumber, SocketType.value, Protocol.value, bind,
        Except.bind, pure, Except.pure, throw, throwThe, MonadExceptOf.throw, SocketType.carries]
  | none =>
    -- no member's number is among those the check lets through
    have h6 := Protocol.ne_of_ofValue?_none hp .tcp
    have h17 := Protocol.ne_of_ofValue?_none hp .udp
    have h0 := Protocol.ne_of_ofValue?_none hp .unix
    simp only [Protocol.value] at h6 h17 h0
    cases t <;>
      simp [checkTypeAndProtocol, memberOf_ofNumber, SocketType.value, Protocol.value, bind,
        Except.bind, throw, throwThe, MonadExceptOf.throw, h6, h17, h0]

/-! ## The answers of a constructor -/

/-- How a constructor may answer: with a signature whose type goes with its protocol and of
which `P` holds, or by refusing bad signature parameters, or with a failure `other` allows. -/
def Answers (P : Signature → Prop) (other : Failure → Prop) : Except Failure Signature → Prop
  | .ok g => g.type.carries g.protocol = true ∧ P g
  | .error f => Refusal f ∨ other f

section Answers

variable {P : Signature → Prop} {other : Failure → Prop}

@[simp] theorem answers_ok (g : Signature) :
    Answers P other (.ok g) ↔ g.type.carries g.protocol = true ∧ P g := Iff.rfl

@[simp] theorem answers_error (f : Failure) :
    Answers P other (.error f) ↔ Refusal f ∨ other f := Iff.rfl

@[simp] theorem answers_bad (reason : String) : Answers P other (.error (bad reason)) :=
  .inl (refusal_bad reason)

/-- After the check of a known type and a protocol, a constructor answers as its continuation
does, which may take the protocol to be a member that goes with the type. -/
theorem answers_check_bind {x y : Option Int} {t : SocketType}
    (ht : SocketType.ofValue? (.ofNumber x) = some t) {k : Unit → Except Failure Signature}
    (hk : ∀ p, Protocol.ofValue? (.ofNumber y) = some p → t.carries p = true →
      Answers P other (k ())) :
    Answers P other (checkTypeAndProtocol (.ofNumber x) (.ofNumber y) >>= k) := by
  obtain ⟨hok, herr⟩ := checkTypeAndProtocol_ofNumber x y ht
  cases hc : checkTypeAndProtocol (.ofNumber x) (.ofNumber y) with
  | error f => exact .inl (herr f hc)
  | ok u =>
    obtain ⟨p, hp, hcarries⟩ := hok u hc
    exact hk p hp hcarries

end Answers

theorem ok_bind {α β : Type} (a : α) (k : α → Except Failure β) : (Except.ok a >>= k) = k a :=
  rfl

/-- The failure of a type that names no member, where it must become one. -/
def unknownType (type : Value) : Failure :=
  .valueError (type.quote ++ " is not a valid " ++ "SocketType")

theorem requireMember_unknownType {type : Value} (h : SocketType.ofValue? type = none) :
    requireMember "SocketType" SocketType.ofValue? type = .error (unknownType type) := by
  simp [requireMember, h, unknownType]

theorem requireMember_of_ofValue? {α : Type} {enum : String} {find : Value → Option α}
    {v : Value} {m : α} (h : find v = some m) : requireMember enum find v = .ok m := by
  simp [requireMember, h]

/-! ## Each constructor -/

/-- Made from raw numbers, a signature holds the members they name and the address; a number
that names no member, or a type and a protocol that do not go together, is refused. -/
theorem fromValues_answers (family type proto : Option Int) (address : Value) :
    Answers (fun g => family = some g.family.value ∧ type = some g.type.value ∧
        proto = some g.protocol.value ∧ g.address = address) (fun _ => False)
      (fromValues (.ofNumber family) (.ofNumber type) (.ofNumber proto) address) := by
  unfold fromValues
  split
  · rename_i f t p hf ht hp
    refine answers_check_bind ht fun p' hp' hcarries => ?_
    rw [hp] at hp'
    cases hp'
    exact ⟨hcarries, (Family.ofValue?_ofNumber _ _).1 hf, (SocketType.ofValue?_ofNumber _ _).1 ht,
      (Protocol.ofValue?_ofNumber _ _).1 hp, rfl⟩
  · exact answers_bad _

/-- Made for a known endpoint, a signature holds the members the numbers name, the address, the
host and the port; a number that names no member, a missing host or port, or a type and a
protocol that do not go together are refused. -/
theorem forEndpoint_answers (family type proto : Option Int) (address hostname port : Value) :
    Answers (fun g => family = some g.family.value ∧ type = some g.type.value ∧
        proto = some g.protocol.value ∧ g.address = address ∧ g.hostname = hostname ∧
        g.port = port) (fun _ => False)
      (forEndpoint (.ofNumber family) (.ofNumber type) (.ofNumber proto) address hostname
        port) := by
  unfold forEndpoint
  dsimp only
  split
  · rename_i f t p hf ht hp
    -- a missing host or port is refused before the check of type and protocol
    split <;> simp only [Bool.not_false, Bool.not_true, Bool.false_eq_true, ↓reduceIte]
    · exact answers_bad _
    · exact answers_bad _
    · refine answers_check_bind ht fun p' hp' hcarries => ?_
      rw [hp] at hp'
      cases hp'
      exact ⟨hcarries, (Family.ofValue?_ofNumber _ _).1 hf,
        (SocketType.ofValue?_ofNumber _ _).1 ht, (Protocol.ofValue?_ofNumber _ _).1 hp, rfl, rfl,
        rfl⟩
  · exact answers_bad _

/-- Made for an internet host, a signature holds an internet family, the members the numbers
name, the host and the port. A missing host or port, another family, or a known type and a
protocol that do not go together are refused; a type that names no member passes the check and
fails where it must become a member. -/
theorem forHost_answers (family type proto : Option Int) (hostname port : Value) :
    Answers (fun g => (g.family = .inet ∨ g.family = .inet6) ∧ family = some g.family.value ∧
        type = some g.type.value ∧ proto = some g.protocol.value ∧ g.hostname = hostname ∧
        g.port = port)
      (fun f => SocketType.ofValue? (.ofNumber type) = none ∧ f = unknownType (.ofNumber type))
      (forHost (.ofNumber family) (.ofNumber type) (.ofNumber proto) hostname port) := by
  unfold forHost
  dsimp only
  rw [memberOf_ofNumber]
  split_ifs with hmissing
  · exact answers_bad _
  rw [ok_bind]
  split_ifs with hfamily
  · exact answers_bad _
  -- only an internet family reaches the check of type and protocol
  obtain ⟨f, hf, hinet⟩ : ∃ f, Family.ofValue? (.ofNumber family) = some f ∧
      (f = .inet ∨ f = .inet6) := by
    simp only [Family.value, List.mem_cons, List.mem_nil_iff, or_false, exists_eq_or_imp,
      exists_eq_left, Bool.not_eq_true', decide_eq_false_iff_not, Classical.not_not] at hfamily
    rcases hfamily with rfl | rfl
    · exact ⟨.inet, (Family.ofValue?_ofNumber _ _).2 rfl, .inl rfl⟩
    · exact ⟨.inet6, (Family.ofValue?_ofNumber _ _).2 rfl, .inr rfl⟩
  cases ht : SocketType.ofValue? (.ofNumber type) with
  | none =>
    rw [checkTypeAndProtocol_of_unknown ht, ok_bind, requireMember_of_ofValue? hf, ok_bind,
      requireMember_unknownType ht]
    exact (answers_error _).2 (.inr ⟨rfl, rfl⟩)
  | some t =>
    refine answers_check_bind ht fun p hp hcarries => ?_
    rw [requireMember_of_ofValue? hf, ok_bind, requireMember_of_ofValue? ht, ok_bind,
      requireMember_of_ofValue? hp, ok_bind]
    exact ⟨hcarries, hinet, (Family.ofValue?_ofNumber _ _).1 hf,
      (SocketType.ofValue?_ofNumber _ _).1 ht, (Protocol.ofValue?_ofNumber _ _).1 hp, rfl, rfl⟩

/-- Made for a path, a signature is a Unix-domain one holding the members the numbers name, the
path and its address; the path is not empty, and its file-system bytes leave room for the
terminating zero. A missing or empty path, a known type and a protocol that do not go together,
or a path too long are refused; a path without file-system bytes fails as making them does, and
a type that names no member fails where it must become a member. -/
theorem forPath_answers (type proto : Option Int) (path : Value) :
    Answers (fun g => g.family = .unix ∧ type = some g.type.value ∧
        proto = some g.protocol.value ∧ g.path = path ∧ g.address = .addr (.unix path) ∧
        path.truthy = true ∧ ∃ bs, pathBytes path = .ok bs ∧ bs.length < unixPathMax)
      (fun f => (SocketType.ofValue? (.ofNumber type) = none ∧ f = unknownType (.ofNumber type)) ∨
        pathBytes path = .error f)
      (forPath (.ofNumber type) (.ofNumber proto) path) := by
  unfold forPath
  cases path with
  | none => exact answers_bad _
  | str t => ?_
  | bytes b => ?_
  | _ => exact (answers_error _).2 (.inr (.inr rfl))
  -- text and bytes go on alike: a path that is not empty reaches the check of type and protocol
  all_goals
    dsimp only
    rw [pure_bind]
    split_ifs with hempty
    · exact answers_bad _
    cases ht : SocketType.ofValue? (.ofNumber type) with
    | none =>
      rw [checkTypeAndProtocol_of_unknown ht, ok_bind]
      cases hbytes : pathBytes _ with
      | error e => exact (answers_error _).2 (.inr (.inr rfl))
      | ok bs =>
        rw [ok_bind]
        split_ifs
        · exact answers_bad _
        · rw [requireMember_unknownType ht]
          exact (answers_error _).2 (.inr (.inl ⟨rfl, rfl⟩))
    | some t =>
      refine answers_check_bind ht fun p hp hcarries => ?_
      cases hbytes : pathBytes _ with
      | error e => exact (answers_error _).2 (.inr (.inr rfl))
      | ok bs =>
        rw [ok_bind]
        split_ifs with hlong
        · exact answers_bad _
        · rw [requireMember_of_ofValue? ht, ok_bind, requireMember_of_ofValue? hp, ok_bind]
          exact ⟨hcarries, rfl, (SocketType.ofValue?_ofNumber _ _).1 ht,
            (Protocol.ofValue?_ofNumber _ _).1 hp, rfl, rfl, by simpa [Value.truthy] using hempty,
            bs, rfl, by omega⟩

end Signature

/-- Given a family, a type and a protocol each as a raw number or none, and any host, port,
path and address, every constructor of a signature either builds one whose type goes with its
protocol and that holds what it was given, or refuses with bad signature parameters, but for two
failures of values the constructors for a host and for a path do not take: a type that names no
member fails with a value error where it must become a member, and a path that is neither text
nor bytes, or text without file-system bytes, fails as making its bytes does. -/
theorem signature_constructors_validate (family type proto : Option Int)
    (address hostname port path : Value) :
    Signature.Answers (fun g => family = some g.family.value ∧ type = some g.type.value ∧
        proto = some g.protocol.value ∧ g.address = address) (fun _ => False)
      (Signature.fromValues (.ofNumber family) (.ofNumber type) (.ofNumber proto) address) ∧
    Signature.Answers (fun g => family = some g.family.value ∧ type = some g.type.value ∧
        proto = some g.protocol.value ∧ g.address = address ∧ g.hostname = hostname ∧
        g.port = port) (fun _ => False)
      (Signature.forEndpoint (.ofNumber family) (.ofNumber type) (.ofNumber proto) address
        hostname port) ∧
    Signature.Answers (fun g => (g.family = .inet ∨ g.family = .inet6) ∧
        family = some g.family.value ∧ type = some g.type.value ∧
        proto = some g.protocol.value ∧ g.hostname = hostname ∧ g.port = port)
      (fun f => SocketType.ofValue? (.ofNumber type) = none ∧
        f = Signature.unknownType (.ofNumber type))
      (Signature.forHost (.ofNumber family) (.ofNumber type) (.ofNumber proto) hostname port) ∧
    Signature.Answers (fun g => g.family = .unix ∧ type = some g.type.value ∧
        proto = some g.protocol.value ∧ g.path = path ∧ g.address = .addr (.unix path) ∧
        path.truthy = true ∧ ∃ bs, pathBytes path = .ok bs ∧ bs.length < unixPathMax)
      (fun f => (SocketType.ofValue? (.ofNumber type) = none ∧
          f = Signature.unknownType (.ofNumber type)) ∨ pathBytes path = .error f)
      (Signature.forPath (.ofNumber type) (.ofNumber proto) path) :=
  ⟨Signature.fromValues_answers family type proto address,
    Signature.forEndpoint_answers family type proto address hostname port,
    Signature.forHost_answers family type proto hostname port,
    Signature.forPath_answers type proto path⟩

/-- The raw type number 3 given to the constructor for a host, and the number 5 given as a path
to the constructor for a path, fail with a value error and a type error: neither a signature
nor the refusal of bad signature parameters. -/
theorem raw_type_escapes_refusal :
    Signature.forHost (.int 2) (.int 3) (.int 6) (.ofString "h") (.int 1) =
        .error (.valueError "3 is not a valid SocketType") ∧
      Signature.forPath (.int 1) (.int 0) (.int 5) =
        .error (.typeError "expected str, bytes or os.PathLike object, not int") ∧
      ¬Signature.Refusal (.valueError "3 is not a valid SocketType") ∧
      ¬Signature.Refusal (.typeError "expected str, bytes or os.PathLike object, not int") :=
  ⟨by cbv, rfl, (by rintro ⟨_, h⟩; cases h), (by rintro ⟨_, h⟩; cases h)⟩

end Sockets
