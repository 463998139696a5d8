import Sockets.Kernel.Endpoint
import Sockets.Kernel.Memory

/-!
# Kernel calls

A kernel call reads and changes the kernel and may fail with an error number. What it changed
before it failed stays changed: a datagram sent to a peer that has gone away disconnects the
sender and still fails, and reading a pending error clears it.

The error numbers used by the kernel are named here.
-/

namespace Sockets

/-- A kernel call with a result of type `α`. -/
abbrev Call (α : Type) := EStateM Nat Kernel α

namespace Call

/-- Operation not permitted. -/
def eperm : Nat := 1
/-- No such file or directory. -/
def enoent : Nat := 2
/-- Bad file descriptor. -/
def ebadf : Nat := 9
/-- Resource temporarily unavailable. -/
def eagain : Nat := 11
/-- Permission denied. -/
def eacces : Nat := 13
/-- Not a directory. -/
def enotdir : Nat := 20
/-- Invalid argument. -/
def einval : Nat := 22
/-- Broken pipe. -/
def epipe : Nat := 32
/-- Numerical argument out of domain. -/
def edom : Nat := 33
/-- Destination address required. -/
def edestaddrreq : Nat := 89
/-- Message too long. -/
def emsgsize : Nat := 90
/-- Protocol wrong type for socket. -/
def eprototype : Nat := 91
/-- Protocol not available. -/
def enoprotoopt : Nat := 92
/-- Protocol not supported. -/
def eprotonosupport : Nat := 93
/-- Operation not supported. -/
def eopnotsupp : Nat := 95
/-- Address family not supported by protocol. -/
def eafnosupport : Nat := 97
/-- Address already in use. -/
def eaddrinuse : Nat := 98
/-- Cannot assign requested address. -/
def eaddrnotavail : Nat := 99
/-- Network is unreachable. -/
def enetunreach : Nat := 101
/-- Connection reset by peer. -/
def econnreset : Nat := 104
/-- Transport endpoint is already connected. -/
def eisconn : Nat := 106
/-- Transport endpoint is not connected. -/
def enotconn : Nat := 107
/-- Connection refused. -/
def econnrefused : Nat := 111

/-- The endpoint with a number; a released or unknown endpoint is a bad descriptor. -/
def endpoint (id : Nat) : Call Endpoint := do
  match (← get).get? id with
  | some e => if e.dead then throw ebadf else pure e
  | none => throw ebadf

/-- The endpoint with a number, released or not. -/
def anyEndpoint (id : Nat) : Call Endpoint := do
  match (← get).get? id with
  | some e => pure e
  | none => throw ebadf

/-- Change the endpoint with a number. -/
def update (id : Nat) (f : Endpoint → Endpoint) : Call Unit :=
  modify fun k => k.modify id f

/-- Fail with the pending error of an endpoint, clearing it. -/
def raisePending (id : Nat) : Call Unit := do
  let e ← anyEndpoint id
  if e.error != 0 then
    update id fun e => { e with error := 0 }
    throw e.error

/-- Free a packet: its memory is no longer charged to its sender. -/
def free (p : Packet) : Call Unit :=
  update p.sender fun e => { e with wmem := e.wmem - p.truesize }

/-- Free every packet of a list. -/
def freeAll : List Packet → Call Unit
  | [] => pure ()
  | p :: ps => do free p; freeAll ps

/-- Whether a call on an endpoint waits for news when nothing is ready: the endpoint is
blocking and the call did not ask to return at once. (A wait that no news can end is not
modelled; such a call fails as if its time ran out.) -/
def waits (e : Endpoint) (dontWait : Bool) : Bool := !e.nonblocking && !dontWait

/-- The first port from `p` on, within `fuel` tries, that `taken` does not hold. -/
def firstFree (taken : Nat → Bool) (p : Nat) : Nat → Nat
  | 0 => p
  | fuel + 1 => if taken p then firstFree taken (if p ≥ 60999 then 32768 else p + 1) fuel else p

/-- The next free ephemeral port. -/
def ephemeralPort (taken : Nat → Bool) : Call Nat := do
  let k ← get
  let p := firstFree taken k.nextPort 28232
  set { k with nextPort := if p ≥ 60999 then 32768 else p + 1 }
  pure p

end Call

end Sockets
