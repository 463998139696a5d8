import Sockets.Protocol.Session.Steps

/-!
# Running a session

A session answers each step in order with one entry: the operation's name, its result fields
(or its failure, or that it would wait forever), the delegate calls made during the step if
there were any, and the state of the socket the step names if that socket exists afterwards.
Ports are then written as tokens, in the order the entry lists its keys.
-/

namespace Sockets

namespace Session

mutual
/-- The ports a request names literally: under a `port` key, or second in an address list. -/
def literalPorts : Doc → List Int
  | .obj fields => literalPortsFields fields
  | .arr items => literalPortsItems items
  | _ => []

/-- The ports fields name literally. -/
def literalPortsFields : List (String × Doc) → List Int
  | [] => []
  | (k, d) :: rest =>
    let here := match k, d with
      | "port", .int p => [p]
      | "ipv4", .arr (_ :: .int p :: _) => [p]
      | "ipv6", .arr (_ :: .int p :: _) => [p]
      | _, _ => []
    here ++ literalPorts d ++ literalPortsFields rest

/-- The ports documents name literally. -/
def literalPortsItems : List Doc → List Int
  | [] => []
  | d :: rest => literalPorts d ++ literalPortsItems rest
end

/-- The fields of an outcome. -/
def outcomeFields : Outcome → List (String × Doc)
  | .fields fs => fs
  | .failed p => (Wire.ofProblem p).fields
  | .wouldBlock => [("would_block", .bool true)]

/-- Write the ports of a step's own result as tokens: the saved port, or the port of a host and
port pair. -/
def resultPorts (s : Session) (op : String) (fields : List (String × Doc)) :
    List (String × Doc) × Session :=
  fields.foldl (fun (acc, s) (k, d) =>
    if k != "result" then (acc ++ [(k, d)], s)
    else match op, d with
      | "save_port", .int p =>
        let (t, s) := s.token p
        (acc ++ [(k, t)], s)
      | "hostname_and_port", .arr [h, .int p] =>
        let (t, s) := s.token p
        (acc ++ [(k, .arr [h, t])], s)
      | _, _ => (acc ++ [(k, d)], s)) ([], s)

/-- Answer one step. -/
def entry (s : Session) (req : Doc) : Session × Doc :=
  let op := (req.string? "op").getD ""
  let s := { s with world := { s.world with calls := [] } }
  let (s, out) := match handler? op with
    | some h =>
      match h s req with
      | .ok r => r
      | .error p => (s, .failed p)
    | none => (s, .failed (.malformed ("unknown op " ++ Value.quoteText (Text.ofString op))))
  let calls := s.world.calls
  let fields := outcomeFields out ++
    (if calls.isEmpty then [] else [("delegate_calls", .arr (calls.map Doc.str))]) ++
    (match (req.field? "id").bind fun d => s.socket? (Wire.rawValue d) with
      | some k => [("state", s.stateDoc k)]
      | none => [])
  let (fields, s) := resultPorts s op fields
  let (doc, s) := s.tokenize (sortKeys (.obj ([("op", .str op)] ++ fields)))
  (s, doc)

/-- Answer the steps in order. -/
def entries (s : Session) : List Doc → List Doc
  | [] => []
  | req :: rest =>
    let (s, d) := entry s req
    d :: entries s rest

/-- The answer to a session request. -/
def run (req : Doc) : Doc :=
  let steps := (req.list? "ops").getD []
  let s : Session := { literals := literalPortsItems steps }
  .obj [("steps", .arr (entries s steps))]

end Session

end Sockets
