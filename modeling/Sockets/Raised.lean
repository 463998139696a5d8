import Sockets.Failure
import Sockets.Value
import Sockets.Checks
import Sockets.Value.Conversion
import Sockets.Value.Order

/-!
# Exception objects handed in by callers

Some helpers take an exception object rather than raise one: the reason text of a failure, and
whether an OS error means a closed socket. `Raised` is such an object: its class and the
arguments it was built with.

An OS error built with two to five arguments reads them as error number, text, file name, a
platform code and a second file name; its text is `[Errno <n>] <text>`, followed by
`: <file>` (and ` -> <file2>`) when a file name was given. With fewer or more arguments it has
no number and no text, and reads like any other exception: empty for no argument, the argument's
text for one, the quoted tuple for several.

A socket failure can also be built from a caller's values (`SocketErrorObject`): its code becomes
the member of `ErrorCode` that equals it, when one does, and is kept as given otherwise; its text
converts the code to an integer, so a code that is no number refuses to print. A delegate failure
built from values (`DelegateErrorObject`) prints as its reason, which must then be text.
-/

namespace Sockets

/-- An exception object: its class name and constructor arguments. -/
structure Raised where
  /-- The class name. -/
  kind : String
  /-- The constructor arguments. -/
  args : List Value
  /-- The count of characters written that a blocking error took from a number in place of a
  file name. -/
  written : Option Int := none
  deriving Inhabited

namespace Raised

/-- The classes that are OS errors. -/
def osKinds : List String :=
  ["OSError", "BlockingIOError", "ConnectionResetError", "ConnectionRefusedError",
    "ConnectionAbortedError", "BrokenPipeError", "ConnectionError", "FileNotFoundError",
    "FileExistsError", "InterruptedError", "PermissionError", "TimeoutError", "ChildProcessError",
    "IsADirectoryError", "NotADirectoryError", "ProcessLookupError"]

/-- The exception object of a class built with arguments. A `BlockingIOError` whose third
argument is a number takes it as the count of characters written in place of a file name; the
count must be an integer that fits a native index. -/
def make (kind : String) (args : List Value) : Except Failure Raised :=
  match args with
  | [_, _, w] | [_, _, w, _] | [_, _, w, _, _] =>
    if kind == "BlockingIOError" && w.number?.isSome then do
      let n ← w.index
      if n < -Int.pow 2 63 || n ≥ Int.pow 2 63 then
        throw (.valueError "cannot fit 'int' into an index-sized integer")
      pure { kind, args, written := some n }
    else pure { kind, args }
  | _ => pure { kind, args }

/-- Whether the object is an OS error. -/
def isOs (r : Raised) : Bool := osKinds.contains r.kind

/-- Whether the arguments are read as number, text and file names. -/
def structured (r : Raised) : Bool := r.isOs && 2 ≤ r.args.length && r.args.length ≤ 5

/-- The error number of an OS error (none when not structured). -/
def errno (r : Raised) : Value := if r.structured then r.args.getD 0 .none else .none

/-- The text of an OS error (none when not structured). -/
def strerror (r : Raised) : Value := if r.structured then r.args.getD 1 .none else .none

/-- The text of an exception with its plain arguments. -/
def plainText (args : List Value) : Text :=
  match args with
  | [] => []
  | [a] => a.display
  | _ => Text.ofString (Value.quote (.tuple args))

/-- The text of the exception. -/
def text (r : Raised) : Text :=
  if r.structured then
    let head := Text.ofString "[Errno " ++ r.errno.display ++ Text.ofString "] " ++ r.strerror.display
    let file := if r.written.isSome then .none else r.args.getD 2 .none
    let file2 := r.args.getD 4 .none
    match file, file2 with
    | .none, _ => head
    | f, .none => head ++ Text.ofString (": " ++ f.quote)
    | f, g => head ++ Text.ofString (": " ++ f.quote ++ " -> " ++ g.quote)
  else plainText r.args

/-- The C library's text of an error number that must fit a C `int`. -/
def errnoText (n : Int) : Except Failure String :=
  if n < -Int.pow 2 31 || n ≥ Int.pow 2 31 then .error (.overflow "Python int too large to convert to C int")
  else .ok (Errno.text n)

/-- The reason a failure gives: an OS error's non-empty text, else the text of its non-zero
number, else the exception's own text, else its class name. -/
def reason (r : Raised) : Except Failure Text :=
  match r.strerror with
  | .str t => if !t.isEmpty then .ok t else byNumber
  | _ => byNumber
where
  /-- The reason once the text did not serve. -/
  byNumber : Except Failure Text :=
    match r.errno.asInt? with
    | some n => if n != 0 then (errnoText n).map Text.ofString else fallback
    | none => fallback
  /-- The exception's text, or its class name when the text is empty. -/
  fallback : Except Failure Text :=
    let t := r.text
    .ok (if t.isEmpty then Text.ofString r.kind else t)

/-- Whether an OS error means that the socket is closed. -/
def isClosedSocket (r : Raised) : Except Failure Bool :=
  if !r.isOs then .error (.attributeError ("'" ++ r.kind ++ "' object has no attribute 'errno'"))
  else
    match r.errno.unhashablePart? with
    | some name => .error (.typeError ("unhashable type: '" ++ name ++ "'"))
    | none => .ok (Limits.closedSocketErrnos.any fun n => r.errno.equals (.int n))

end Raised

/-- A socket failure built from a caller's values. -/
structure SocketErrorObject where
  /-- The member of `ErrorCode` the code equals, if any. -/
  member : Option ErrorCode
  /-- The code as given. -/
  code : Value
  /-- The reason as given (none when absent). -/
  reason : Value
  /-- The buffer size needed, as given. -/
  needed : Value
  deriving Inhabited

namespace SocketErrorObject

/-- The failure built from a code, a reason and a needed size. -/
def build (code reason needed : Value) : SocketErrorObject :=
  { member := ErrorCode.all.find? fun c => code.equals (.int c.value), code, reason, needed }

/-- The code as it is kept: the member's number, or the value as given. -/
def codeValue (e : SocketErrorObject) : Value :=
  match e.member with
  | some c => .int c.value
  | none => e.code

/-- The constructor arguments as kept: the code and the reason. -/
def args (e : SocketErrorObject) : List Value := [e.codeValue, e.reason]

/-- The code as an integer. -/
def intCode (e : SocketErrorObject) : Except Failure Int := e.codeValue.toInt

/-- The text of the failure: `Error code: <code>(0x<hex>), <reason>`. -/
def text (e : SocketErrorObject) : Except Failure Text := do
  let n ← e.intCode
  let reason ← match e.reason with
    | .none => pure (Text.ofString "Reason: Unavailable")
    | r => Address.textOf r
  pure (Text.ofString ("Error code: " ++ toString n ++ "(0x" ++ signedHex n ++ "), ") ++ reason)

end SocketErrorObject

/-- A delegate failure built from a caller's values, or the request to retry. -/
structure DelegateErrorObject where
  /-- The delegate's code. -/
  code : Value
  /-- The delegate's reason. -/
  reason : Value
  /-- Whether this is the request to retry. -/
  isRetry : Bool := false
  deriving Inhabited

namespace DelegateErrorObject

/-- The request to retry. -/
def retry : DelegateErrorObject := { code := .int (-1), reason := .ofString "Retry operation", isRetry := true }

/-- The text of the failure: its reason, which must be text. -/
def text (e : DelegateErrorObject) : Except Failure Text :=
  match e.reason with
  | .str t => .ok t
  | r => .error (.typeError ("__str__ returned non-string (type " ++ r.typeName ++ ")"))

/-- The socket failure it becomes: the same code and reason. -/
def toSocketError (e : DelegateErrorObject) : SocketErrorObject :=
  SocketErrorObject.build e.code e.reason (.int 0)

end DelegateErrorObject

/-- The OS error of an error number with its text (the C library's text when none is given):
its class name, number and text. -/
def osErrorOf (errno : Value) (msg : Value) : Except Failure (String × Value × Value) := do
  let text ← match msg with
    | .none =>
      match errno.asInt? with
      | some n => (Raised.errnoText n).map Value.ofString
      | none => .error (.typeError ("'" ++ errno.typeName ++ "' object cannot be interpreted as an integer"))
    | m => pure m
  let kind := match errno.asInt? with
    | some n => Errno.kind n
    | none => "OSError"
  pure (kind, errno, text)

end Sockets
