import Sockets.Value

/-!
# Families, types and protocols

A socket is an endpoint of one address family (internet, internet version 6, Unix domain), one
type (a byte stream or datagrams) and one protocol (TCP, UDP, or the Unix domain's own). Each is
a small enumeration with the number the system calls use for it.

A caller may pass any value where one of these is expected; `ofValue?` finds the member whose
number equals it (so the flag `true` is the Unix family, number 1) and gives `none` otherwise.
-/

namespace Sockets

/-- The supported address families. -/
inductive Family where
  /-- Internet (IPv4). -/
  | inet
  /-- Internet version 6. -/
  | inet6
  /-- Unix domain. -/
  | unix
  deriving DecidableEq, Inhabited, Repr

namespace Family

/-- The members in declaration order. -/
def all : List Family := [.inet, .inet6, .unix]

/-- The number of a family. -/
def value : Family → Int
  | .inet => 2
  | .inet6 => 10
  | .unix => 1

/-- The name of a family. -/
def name : Family → String
  | .inet => "INET"
  | .inet6 => "INET6"
  | .unix => "UNIX"

/-- The member whose number equals `v`. -/
def ofValue? (v : Value) : Option Family := all.find? fun f => v.equals (.int f.value)

/-- The member with a given name. -/
def ofName? (s : String) : Option Family := all.find? (·.name == s)

end Family

/-- The supported socket types. -/
inductive SocketType where
  /-- A reliable, ordered byte stream. -/
  | stream
  /-- Datagrams with message boundaries. -/
  | datagram
  deriving DecidableEq, Inhabited, Repr

namespace SocketType

/-- The members in declaration order. -/
def all : List SocketType := [.stream, .datagram]

/-- The number of a type. -/
def value : SocketType → Int
  | .stream => 1
  | .datagram => 2

/-- The name of a type. -/
def name : SocketType → String
  | .stream => "STREAM"
  | .datagram => "DATAGRAM"

/-- The member whose number equals `v`. -/
def ofValue? (v : Value) : Option SocketType := all.find? fun t => v.equals (.int t.value)

/-- The member with a given name. -/
def ofName? (s : String) : Option SocketType := all.find? (·.name == s)

end SocketType

/-- The supported protocols. -/
inductive Protocol where
  /-- The transmission control protocol, for internet streams. -/
  | tcp
  /-- The user datagram protocol, for internet datagrams. -/
  | udp
  /-- The Unix domain's protocol, number 0. -/
  | unix
  deriving DecidableEq, Inhabited, Repr

namespace Protocol

/-- The members in declaration order. -/
def all : List Protocol := [.tcp, .udp, .unix]

/-- The number of a protocol. -/
def value : Protocol → Int
  | .tcp => 6
  | .udp => 17
  | .unix => 0

/-- The name of a protocol. -/
def name : Protocol → String
  | .tcp => "TCP"
  | .udp => "UDP"
  | .unix => "UNIX"

/-- The member whose number equals `v`. -/
def ofValue? (v : Value) : Option Protocol := all.find? fun p => v.equals (.int p.value)

/-- The member with a given name. -/
def ofName? (s : String) : Option Protocol := all.find? (·.name == s)

end Protocol

end Sockets
