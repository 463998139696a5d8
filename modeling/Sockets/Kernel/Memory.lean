/-!
# Socket memory

A Unix-domain socket may have `sendBuffer` bytes of its packets queued at its peers. A packet is
charged with its true size: the packet header (256 bytes), the block that holds its head data
and the pages that hold the rest.

* The head block holds the head data rounded up to 64 bytes plus 320 bytes of bookkeeping, in
  the least power of two of at least 512 bytes that holds them.
* A stream write is cut into packets of at most 36544 bytes; a packet of more than 3776 bytes
  (what fits one page beside the bookkeeping) keeps the rest in pages.
* A datagram keeps up to 16064 bytes in its head and the rest in pages.

A packet is allocated only while the sender's charge is below the send buffer, and a socket is
writable while four times its charge plus one stays within the send buffer.
-/

namespace Sockets

namespace Memory

/-- The send buffer of a socket. -/
def sendBuffer : Nat := 212992

/-- The size of a page. -/
def page : Nat := 4096

/-- `n` rounded up to a multiple of `m`. -/
def roundUp (n m : Nat) : Nat := (n + m - 1) / m * m

/-- The least power of two that is at least `n` and at least 512. -/
def powerBlock (n : Nat) : Nat := go 512 64
where
  /-- Double `b` until it holds `n`, at most `fuel` times. -/
  go (b : Nat) : Nat → Nat
    | 0 => b
    | fuel + 1 => if n ≤ b then b else go (2 * b) fuel

/-- The block that holds `head` bytes of head data. -/
def headBlock (head : Nat) : Nat :=
  powerBlock (roundUp head 64 + 320)

/-- The true size of a packet with `head` bytes in its head and `paged` bytes in pages. -/
def truesize (head paged : Nat) : Nat := headBlock head + 256 + roundUp paged page

/-- The most head data that fits one page beside the bookkeeping. -/
def pageHead : Nat := page - 320

/-- The largest packet of a stream write. -/
def streamChunk : Nat := pageHead + 32768

/-- The bytes of a stream packet of `size` bytes that go to pages. -/
def streamPaged (size : Nat) : Nat :=
  if size ≤ pageHead then 0 else min size (roundUp (size - pageHead) page)

/-- The true size of a stream packet of `size` bytes. -/
def streamTruesize (size : Nat) : Nat :=
  truesize (size - streamPaged size) (streamPaged size)

/-- The most head data of a datagram. -/
def datagramHead : Nat := 4 * page - 320

/-- The bytes of a datagram of `size` bytes that go to pages. -/
def datagramPaged (size : Nat) : Nat :=
  if size ≤ datagramHead then 0 else roundUp (min (size - datagramHead) (17 * page)) page

/-- The true size of a datagram of `size` bytes. -/
def datagramTruesize (size : Nat) : Nat :=
  truesize (size - datagramPaged size) (datagramPaged size)

/-- Whether a socket with this charge may allocate another packet. -/
def mayAllocate (wmem : Nat) : Bool := wmem < sendBuffer

/-- Whether a socket with this charge is writable. -/
def writable (wmem : Nat) : Bool := (wmem + 1) * 4 ≤ sendBuffer

/-- The largest datagram. -/
def datagramLimit : Nat := sendBuffer - 32

-- A full stream packet is charged 37120 bytes.
example : streamTruesize streamChunk = 37120 := by decide

end Memory

end Sockets
