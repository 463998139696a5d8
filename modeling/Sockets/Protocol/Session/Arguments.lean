import Sockets.Protocol.Session.State

/-!
# The arguments of a step

A step is an object; its fields are read in three ways.

* *Needed* fields must be present: a missing one is a `KeyError` naming the field.
* *Decoded* fields go through the session's decoder: objects stand for bytes, floats,
  addresses and port references, arrays stay lists.
* *Written* fields are taken as the request writes them: an array is a list and an object a
  dictionary.

Data to send is text (sent as text), or an object with `hex` (bytes), `repeat` (the UTF-8 of a
text, repeated `times` times) or `repeat_hex` (bytes repeated), looked for in that order; any
other value is decoded. A prefix is the same, except that text is its UTF-8 bytes; the bytes
read are appended to a new mutable copy of it.

A delegate configuration is a dictionary with a `name`. The first configuration of a name makes a
scripted delegate and every later one of an equal name gets that delegate back. The script reads
`fail` (hooks with the code and reason they fail with), `retry_send` and `retry_recv` (counts,
converted to integers), `retry_send_on` and `retry_recv_on` (collections of counts, each of
which must be a possible key) and `shutdown_send` (a flag).
-/

namespace Sockets

namespace Session

open Wire

/-- A field that must be present. -/
def need (req : Doc) (key : String) : Except Problem Doc :=
  match req.field? key with
  | some d => .ok d
  | none => .error (.missingKey (.ofString key))

/-- A field as the request writes it, or `dflt` when absent. -/
def rawOr (req : Doc) (key : String) (dflt : Value) : Value :=
  ((req.field? key).map rawValue).getD dflt

/-- A needed field as the request writes it. -/
def needRaw (req : Doc) (key : String) : Except Problem Value := rawValue <$> need req key

/-- A needed field, decoded. -/
def needValue (s : Session) (req : Doc) (key : String) : Except Problem Value := do
  s.decoder.value (← need req key)

/-- A field, decoded, or `dflt` when absent. -/
def valueOr (s : Session) (req : Doc) (key : String) (dflt : Value) : Except Problem Value :=
  match req.field? key with
  | some d => s.decoder.value d
  | none => .ok dflt

/-- The id a step names: its `id` field as written, `None` when absent. -/
def idOf (req : Doc) : Value := rawOr req "id" .none

/-- The value of a dictionary's key, or `dflt` when it has none. -/
def getOr (fields : List (String × Value)) (key : String) (dflt : Value) : Value :=
  (fields.lookup key).getD dflt

/-- Lift a library result. -/
def lib {α : Type} (r : Except Failure α) : Except Problem α := r.mapError .failure

/-! ## Data -/

/-- The UTF-8 bytes of a value that must be text. -/
def encodeText (v : Value) : Except Failure (List UInt8) :=
  match v with
  | .str t => t.utf8?.mapError Failure.surrogates
  | v => .error (.attributeError ("'" ++ v.typeName ++ "' object has no attribute 'encode'"))

/-- The value of a needed key of a dictionary. -/
def needKey (fields : List (String × Value)) (key : String) : Except Problem Value :=
  match fields.lookup key with
  | some v => .ok v
  | none => .error (.missingKey (.ofString key))

/-- The bytes a data object writes, if it is one: `hex`, `repeat` or `repeat_hex`. -/
def dataObject? (fields : List (String × Value)) : Option (Except Problem (List UInt8)) :=
  match fields.lookup "hex", fields.lookup "repeat", fields.lookup "repeat_hex" with
  | some h, _, _ => some (lib (hexOfValue h))
  | none, some t, _ => some do
    let bs ← lib (encodeText t)
    lib (Value.repeatBytes bs (← needKey fields "times"))
  | none, none, some h => some do
    let bs ← lib (hexOfValue h)
    lib (Value.repeatBytes bs (← needKey fields "times"))
  | none, none, none => none

/-- The value data stands for: text as text, a data object as its bytes, anything else
decoded. -/
def dataOf (s : Session) (d : Doc) : Except Problem Value :=
  match d with
  | .str t => .ok (.ofString t)
  | .text t => .ok (.str t)
  | d =>
    match rawValue d with
    | .dict fields =>
      match dataObject? fields with
      | some r => Value.bytes <$> r
      | none => s.decoder.value d
    | _ => s.decoder.value d

/-- The bytes a prefix starts with: text as its UTF-8, other data as a new mutable byte string
made from it; no bytes when absent. -/
def prefixOf (s : Session) (req : Doc) : Except Problem (List UInt8) :=
  match req.field? "prefix" with
  | none => .ok []
  | some (.str t) => .ok (Utf8.encodeString t)
  | some (.text t) => lib (encodeText (.str t))
  | some d => do lib (Value.toByteArray (← dataOf s d))

/-! ## Delegates -/

/-- The failures a configuration lists: each hook with a code and a reason. -/
def failures (v : Value) : List (String × DelegateError) :=
  match v with
  | .dict fields => fields.filterMap fun (hook, spec) =>
    match spec.items? with
    | some [.int code, .str reason] => some (hook, { code, reason := reason.chars })
    | _ => none
  | _ => []

/-- The counts a configuration lists, each of which must be a possible key. -/
def counts (v : Value) : Except Failure (List Value) := do
  let items ← v.iterate
  match items.find? (!·.hashable) with
  | some bad => throw (unhashable bad)
  | none => pure items

/-- The script a configuration describes for a delegate of a name. -/
def scriptOf (name : Value) (fields : List (String × Value)) : Except Failure Script := do
  let retrySend ← (getOr fields "retry_send" (.int 0)).toInt
  let retryRecv ← (getOr fields "retry_recv" (.int 0)).toInt
  let retrySendOn ← counts (getOr fields "retry_send_on" (.list []))
  let retryRecvOn ← counts (getOr fields "retry_recv_on" (.list []))
  pure { label := name.display.chars, fail := failures (getOr fields "fail" (.dict []))
         retrySend := retrySend.toNat, retryRecv := retryRecv.toNat, retrySendOn, retryRecvOn
         shutdownSend := (getOr fields "shutdown_send" (.bool false)).truthy }

/-- The delegate a configuration gives, by the key sockets know it by: none for `None`; the
delegate of an equal name if there is one; else a new scripted delegate. -/
def delegateFrom (s : Session) (cfg : Value) : Except Failure (Option String × Session) := do
  match cfg with
  | .none => pure (none, s)
  | .dict fields =>
    let name := getOr fields "name" .none
    if !name.hashable then throw (unhashable name)
    match s.delegates.findIdx? (·.equals name) with
    | some i => pure (some (toString i), s)
    | none =>
      let script ← scriptOf name fields
      let key := toString s.delegates.length
      let (_, s) := s.runWorld (Script.install key script)
      pure (some key, { s with delegates := s.delegates ++ [name] })
  | v => throw (.attributeError ("'" ++ v.typeName ++ "' object has no attribute 'get'"))

/-- The delegate a field configures. -/
def delegateField (s : Session) (req : Doc) (key : String) :
    Except Problem (Option String × Session) :=
  lib (s.delegateFrom (rawOr req key .none))

/-! ## Pairs of ids -/

/-- Two values unpacked from a value that must hold exactly two items. -/
def unpackTwo (v : Value) : Except Failure (Value × Value) :=
  match v.items? with
  | some [a, b] => .ok (a, b)
  | some items =>
    if items.length > 2 then .error (.valueError "too many values to unpack (expected 2)")
    else .error (.valueError
      ("not enough values to unpack (expected 2, got " ++ toString items.length ++ ")"))
  | none => .error (.typeError ("cannot unpack non-iterable " ++ v.typeName ++ " object"))

/-- The key a value is written under as a field name of an answer. -/
def fieldName (v : Value) : String :=
  match v with
  | .str t => t.chars
  | .none => "null"
  | .bool b => if b then "true" else "false"
  | .float x =>
    match x with
    | .nan => "NaN"
    | .infinity false => "Infinity"
    | .infinity true => "-Infinity"
    | x => x.text
  | v => v.quote

end Session

end Sockets
