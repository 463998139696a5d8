/-!
# Operating-system error numbers

The error numbers of the Linux system calls that sockets use, and the text the C library gives
each (`Errno.text`): a number without a text of its own reads `Unknown error N`.

An error number also decides the kind of an OS error (`Errno.kind`): a would-block error, a broken
pipe, a refused connection and so on, each with its own name, and plain `OSError` for the rest.
-/

namespace Sockets

namespace Errno

/-! ## Numbers the library tests for -/

/-- Operation not permitted. -/
def eperm : Int := 1
/-- No such file or directory. -/
def enoent : Int := 2
/-- Interrupted system call. -/
def eintr : Int := 4
/-- Bad file descriptor. -/
def ebadf : Int := 9
/-- Resource temporarily unavailable: the operation would block. -/
def eagain : Int := 11
/-- Permission denied. -/
def eacces : Int := 13
/-- File exists. -/
def eexist : Int := 17
/-- Invalid argument. -/
def einval : Int := 22
/-- Broken pipe. -/
def epipe : Int := 32
/-- Socket operation on non-socket. -/
def enotsock : Int := 88
/-- Destination address required. -/
def edestaddrreq : Int := 89
/-- Message too long. -/
def emsgsize : Int := 90
/-- Protocol not available. -/
def enoprotoopt : Int := 92
/-- Operation not supported. -/
def eopnotsupp : Int := 95
/-- Address family not supported by protocol. -/
def eafnosupport : Int := 97
/-- Address already in use. -/
def eaddrinuse : Int := 98
/-- Cannot assign requested address. -/
def eaddrnotavail : Int := 99
/-- Network is unreachable. -/
def enetunreach : Int := 101
/-- Connection reset by peer. -/
def econnreset : Int := 104
/-- Transport endpoint is already connected. -/
def eisconn : Int := 106
/-- Transport endpoint is not connected. -/
def enotconn : Int := 107
/-- Connection refused. -/
def econnrefused : Int := 111
/-- Operation now in progress. -/
def einprogress : Int := 115

/-! ## Texts -/

/-- The C library's text of an error number that has one. -/
def knownText? : Nat → Option String
  | 0 => some "Success"
  | 1 => some "Operation not permitted"
  | 2 => some "No such file or directory"
  | 3 => some "No such process"
  | 4 => some "Interrupted system call"
  | 5 => some "Input/output error"
  | 6 => some "No such device or address"
  | 7 => some "Argument list too long"
  | 8 => some "Exec format error"
  | 9 => some "Bad file descriptor"
  | 10 => some "No child processes"
  | 11 => some "Resource temporarily unavailable"
  | 12 => some "Cannot allocate memory"
  | 13 => some "Permission denied"
  | 14 => some "Bad address"
  | 15 => some "Block device required"
  | 16 => some "Device or resource busy"
  | 17 => some "File exists"
  | 18 => some "Invalid cross-device link"
  | 19 => some "No such device"
  | 20 => some "Not a directory"
  | 21 => some "Is a directory"
  | 22 => some "Invalid argument"
  | 23 => some "Too many open files in system"
  | 24 => some "Too many open files"
  | 25 => some "Inappropriate ioctl for device"
  | 26 => some "Text file busy"
  | 27 => some "File too large"
  | 28 => some "No space left on device"
  | 29 => some "Illegal seek"
  | 30 => some "Read-only file system"
  | 31 => some "Too many links"
  | 32 => some "Broken pipe"
  | 33 => some "Numerical argument out of domain"
  | 34 => some "Numerical result out of range"
  | 35 => some "Resource deadlock avoided"
  | 36 => some "File name too long"
  | 37 => some "No locks available"
  | 38 => some "Function not implemented"
  | 39 => some "Directory not empty"
  | 40 => some "Too many levels of symbolic links"
  | 42 => some "No message of desired type"
  | 43 => some "Identifier removed"
  | 44 => some "Channel number out of range"
  | 45 => some "Level 2 not synchronized"
  | 46 => some "Level 3 halted"
  | 47 => some "Level 3 reset"
  | 48 => some "Link number out of range"
  | 49 => some "Protocol driver not attached"
  | 50 => some "No CSI structure available"
  | 51 => some "Level 2 halted"
  | 52 => some "Invalid exchange"
  | 53 => some "Invalid request descriptor"
  | 54 => some "Exchange full"
  | 55 => some "No anode"
  | 56 => some "Invalid request code"
  | 57 => some "Invalid slot"
  | 59 => some "Bad font file format"
  | 60 => some "Device not a stream"
  | 61 => some "No data available"
  | 62 => some "Timer expired"
  | 63 => some "Out of streams resources"
  | 64 => some "Machine is not on the network"
  | 65 => some "Package not installed"
  | 66 => some "Object is remote"
  | 67 => some "Link has been severed"
  | 68 => some "Advertise error"
  | 69 => some "Srmount error"
  | 70 => some "Communication error on send"
  | 71 => some "Protocol error"
  | 72 => some "Multihop attempted"
  | 73 => some "RFS specific error"
  | 74 => some "Bad message"
  | 75 => some "Value too large for defined data type"
  | 76 => some "Name not unique on network"
  | 77 => some "File descriptor in bad state"
  | 78 => some "Remote address changed"
  | 79 => some "Can not access a needed shared library"
  | 80 => some "Accessing a corrupted shared library"
  | 81 => some ".lib section in a.out corrupted"
  | 82 => some "Attempting to link in too many shared libraries"
  | 83 => some "Cannot exec a shared library directly"
  | 84 => some "Invalid or incomplete multibyte or wide character"
  | 85 => some "Interrupted system call should be restarted"
  | 86 => some "Streams pipe error"
  | 87 => some "Too many users"
  | 88 => some "Socket operation on non-socket"
  | 89 => some "Destination address required"
  | 90 => some "Message too long"
  | 91 => some "Protocol wrong type for socket"
  | 92 => some "Protocol not available"
  | 93 => some "Protocol not supported"
  | 94 => some "Socket type not supported"
  | 95 => some "Operation not supported"
  | 96 => some "Protocol family not supported"
  | 97 => some "Address family not supported by protocol"
  | 98 => some "Address already in use"
  | 99 => some "Cannot assign requested address"
  | 100 => some "Network is down"
  | 101 => some "Network is unreachable"
  | 102 => some "Network dropped connection on reset"
  | 103 => some "Software caused connection abort"
  | 104 => some "Connection reset by peer"
  | 105 => some "No buffer space available"
  | 106 => some "Transport endpoint is already connected"
  | 107 => some "Transport endpoint is not connected"
  | 108 => some "Cannot send after transport endpoint shutdown"
  | 109 => some "Too many references: cannot splice"
  | 110 => some "Connection timed out"
  | 111 => some "Connection refused"
  | 112 => some "Host is down"
  | 113 => some "No route to host"
  | 114 => some "Operation already in progress"
  | 115 => some "Operation now in progress"
  | 116 => some "Stale file handle"
  | 117 => some "Structure needs cleaning"
  | 118 => some "Not a XENIX named type file"
  | 119 => some "No XENIX semaphores available"
  | 120 => some "Is a named type file"
  | 121 => some "Remote I/O error"
  | 122 => some "Disk quota exceeded"
  | 123 => some "No medium found"
  | 124 => some "Wrong medium type"
  | 125 => some "Operation canceled"
  | 126 => some "Required key not available"
  | 127 => some "Key has expired"
  | 128 => some "Key has been revoked"
  | 129 => some "Key was rejected by service"
  | 130 => some "Owner died"
  | 131 => some "State not recoverable"
  | 132 => some "Operation not possible due to RF-kill"
  | 133 => some "Memory page has hardware error"
  | _ => none

/-- The C library's text of any error number. -/
def text (n : Int) : String :=
  match n with
  | .ofNat k => (knownText? k).getD ("Unknown error " ++ toString n)
  | .negSucc _ => "Unknown error " ++ toString n

/-! ## Kinds -/

/-- The name of the kind of an OS error with number `n`. -/
def kind (n : Int) : String :=
  if n == 11 || n == 114 || n == 115 then "BlockingIOError"
  else if n == 10 then "ChildProcessError"
  else if n == 32 || n == 108 then "BrokenPipeError"
  else if n == 103 then "ConnectionAbortedError"
  else if n == 111 then "ConnectionRefusedError"
  else if n == 104 then "ConnectionResetError"
  else if n == 17 then "FileExistsError"
  else if n == 2 then "FileNotFoundError"
  else if n == 21 then "IsADirectoryError"
  else if n == 20 then "NotADirectoryError"
  else if n == 4 then "InterruptedError"
  else if n == 1 || n == 13 then "PermissionError"
  else if n == 3 then "ProcessLookupError"
  else if n == 110 then "TimeoutError"
  else "OSError"

end Errno

end Sockets
