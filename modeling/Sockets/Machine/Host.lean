import Sockets.Machine.Script

/-!
# The machine as a host

`Machine.host` is the `Host` the sessions run the library on: the native calls of
`Sockets.Native` over the kernel, and the scripted delegates.
-/

namespace Sockets

namespace Machine

/-- The endpoint behind a native socket, for reading its settings. -/
def settings (h : Handle) (w : World) : Option Endpoint := w.kernel.get? h.id

/-- The machine as the host of the library. -/
def host : Host World where
  fileno := Native.fileno
  family h w := (Native.familyOf h w).value
  socketType h w := (((settings h w).map Endpoint.type).getD SocketType.stream).value
  blocking h w := ((settings h w).map fun e => !e.nonblocking).getD true
  interruptions _ _ := 0
  create := Native.create
  adopt := Native.adopt
  close := Native.close
  shutdown := Native.shutdown
  setBlocking := Native.setBlocking
  setOption := Native.setOption
  bind := Native.bind
  listen := Native.listen
  accept := Native.accept
  connect := Native.connect
  sockName := Native.sockName
  pendingError := Native.pendingError
  recv := Native.recv
  recvFrom := Native.recvFrom
  send := Native.send
  sendTo := Native.sendTo
  select := Native.select
  unlink := Native.unlink
  resolve := Native.resolve
  delegates := Script.delegates

end Machine

end Sockets
