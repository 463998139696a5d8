import Sockets.Proofs.Serving
import Sockets.Proofs.Rebuild

/-!
# How much of a datagram a read hands out

A datagram read receives through the socket's read buffer: the native receive is given
`readBufferSize` bytes of room, and the system cuts the datagram to the room it is given. So a
datagram `D` reaches the caller cut twice: to the read buffer, and then, for
`read_datagram_into`, to the caller's buffer. `readDatagram_cut_to_read_buffer` states what
both reads return for every datagram, every read buffer size and every caller's buffer: the
first `min |D| readBufferSize` bytes of `D`, and of those the first that fit the caller's
buffer. A datagram longer than the read buffer loses its tail even when the caller's buffer
could hold it whole.
-/

namespace Sockets

namespace Socket

variable {σ : Type} (H : Host σ) {st : Socket × σ}

/-- The sender of a datagram, from the raw address its receive reported: none for a sender
without an address. -/
def senderAddress (h : Handle) (raw : Value) (w : σ) : Except Failure (Option (Address Value)) :=
  Address.ofSyscall (.int (match raw with
    | .none => -1
    | _ => H.family h w)) raw

/-- A sender without an address has none. -/
theorem senderAddress_none (h : Handle) (w : σ) : senderAddress H h .none w = .ok none := by
  have hfamily : Family.ofValue? (.int (-1)) = none := Family.ofValue?_int_eq_none.2 (by decide)
  simp [senderAddress, Address.ofSyscall, hfamily]

/-- A receive on an open datagram socket that the system answers with `data` from the address
`raw` returns `data` and the sender, and leaves the socket as it was. -/
theorem recvDatagram_eq {h : Handle} (hn : st.1.native = some h) (hfd : 0 ≤ H.fileno h st.2)
    (htype : st.1.signature.type = .datagram) {data : List UInt8} {raw : Value} {w' : σ}
    (hrecv : H.recvFrom h st.1.readBufferSize st.2 = .ok (data, raw) w')
    {a : Option (Address Value)} (ha : senderAddress H h raw w' = .ok a) :
    recvDatagram H st = .ok (data, a) (st.1, w') := by
  apply eq_ok_of_ends
  simp only [recvDatagram, requireDatagram, ↓ends_bind, ↓ends_checkDescriptor, ↓ends_current,
    ↓ends_ite, ↓ends_throw, ↓ends_pure, ↓ends_attempt, ↓ends_sys, ↓ends_system, htype, hn,
    Option.some.injEq, forall_eq', reduceCtorEq, false_implies, and_true, not_lt.2 hfd,
    bne_self_eq_false, Bool.false_eq_true, ↓reduceIte, hrecv, EStateM.Result.ok.injEq,
    Prod.mk.injEq, and_imp, implies_true]
  rintro _ _ rfl rfl
  -- the family the code reads for the sender is the one `senderAddress` reads: -1 for a sender
  -- without an address, else the native socket's
  cases raw <;> simp only [senderAddress] at ha <;>
    simp only [ha, Bool.false_eq_true, ↓reduceIte, ends_pure, and_self]

/-- A datagram `D` waiting on an open datagram socket, which the system cuts to the room a
receive gives it: `read_datagram` returns its first `min |D| readBufferSize` bytes, and
`read_datagram_into` writes the first of those that fit the caller's buffer at its front and
returns how many; both return the sender and leave the socket as it was. -/
theorem readDatagram_cut_to_read_buffer {h : Handle} (hn : st.1.native = some h)
    (hfd : 0 ≤ H.fileno h st.2) (htype : st.1.signature.type = .datagram)
    (D : List UInt8) {raw : Value} {w' : σ}
    (hrecv : ∀ size, H.recvFrom h size st.2 = .ok (D.take size, raw) w')
    {a : Option (Address Value)} (ha : senderAddress H h raw w' = .ok a) (buffer : List UInt8)
    (hbuffer : buffer ≠ []) :
    readDatagram H st = .ok (D.take (min D.length st.1.readBufferSize), a) (st.1, w') ∧
      readDatagramInto H buffer st =
        .ok (min D.length (min st.1.readBufferSize buffer.length), a,
          D.take (min D.length (min st.1.readBufferSize buffer.length)) ++
            buffer.drop (min D.length (min st.1.readBufferSize buffer.length)))
          (st.1, w') := by
  have hrun := recvDatagram_eq H hn hfd htype (hrecv st.1.readBufferSize) ha
  -- what the read buffer takes of `D` is its first `min |D| readBufferSize` bytes
  have hcut : D.take st.1.readBufferSize = D.take (min D.length st.1.readBufferSize) := by
    rw [List.take_eq_take_min, Nat.min_comm]
  -- cutting that again to the caller's buffer keeps the first bytes of `D`
  have htake : (D.take st.1.readBufferSize).take buffer.length =
      D.take (min D.length (min st.1.readBufferSize buffer.length)) := by
    rw [List.take_take, List.take_eq_take_min]
    congr 1
    omega
  have hlen : (D.take (min D.length (min st.1.readBufferSize buffer.length))).length =
      min D.length (min st.1.readBufferSize buffer.length) := by
    simp
  refine ⟨by rw [readDatagram, hrun, hcut], ?_⟩
  have hbuf : buffer.isEmpty = false := by simpa using hbuffer
  simp only [readDatagramInto, hbuf, bind, EStateM.bind, hrun, Bool.false_eq_true, ↓reduceIte,
    pure, EStateM.pure]
  rw [htake, hlen]

/-- An unbound sender's datagram of 5000 bytes on a Unix-domain datagram pair. -/
def longDatagram : List UInt8 := List.replicate 5000 0x61

/-- The machine, with that datagram waiting on every native socket. -/
def longDatagramHost : Host World :=
  { Machine.host with recvFrom := fun _ size => pure (longDatagram.take size, .none) }

/-- A connected Unix-domain datagram socket on the open endpoint, with the default read
buffer. -/
def datagramEnd : Socket :=
  { native := some ⟨1⟩, signature := { family := .unix, type := .datagram, protocol := .unix },
    connected := true }

/-- A caller's buffer with room for the whole datagram. -/
def roomyBuffer : List UInt8 := List.replicate 5000 0

/-- `read_datagram` hands out the datagram cut to the read buffer of 4096 bytes, and so does
`read_datagram_into` with a buffer of 5000 bytes. -/
theorem long_datagram_cut_to_read_buffer :
    readDatagram longDatagramHost (datagramEnd, openStreamWorld) =
        .ok (longDatagram.take (min longDatagram.length datagramEnd.readBufferSize), none)
          (datagramEnd, openStreamWorld) ∧
      readDatagramInto longDatagramHost roomyBuffer (datagramEnd, openStreamWorld) =
        .ok (min longDatagram.length (min datagramEnd.readBufferSize roomyBuffer.length), none,
          longDatagram.take (min longDatagram.length
              (min datagramEnd.readBufferSize roomyBuffer.length)) ++
            roomyBuffer.drop (min longDatagram.length
              (min datagramEnd.readBufferSize roomyBuffer.length)))
          (datagramEnd, openStreamWorld) :=
  @readDatagram_cut_to_read_buffer World longDatagramHost (datagramEnd, openStreamWorld) ⟨1⟩ rfl
    (by decide +kernel) rfl longDatagram .none openStreamWorld (fun _ => rfl) none
    (senderAddress_none _ _ _) roomyBuffer
    (List.ne_nil_of_length_pos (by rw [roomyBuffer, List.length_replicate]; decide))

end Socket

end Sockets
