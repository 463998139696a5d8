import Sockets.Failure
import Sockets.Value

/-!
# Binding call arguments

A helper called with positional and keyword arguments binds them to its parameters the way a
function call does, and refuses a call that does not fit, in this order: an unknown keyword, a
parameter given twice, too many positional arguments, missing positional parameters, missing
keyword-only parameters.
-/

namespace Sockets

/-- The parameters of a callable helper. -/
structure Params where
  /-- The helper's name, as refusals quote it. -/
  name : String
  /-- Parameters that may be given by position or keyword, in order. -/
  positional : List String
  /-- Parameters that must be given by keyword. -/
  keywordOnly : List String := []
  /-- Default values of parameters that may be left out. -/
  defaults : List (String × Value) := []

namespace Params

/-- Names quoted and joined: `'a'`, `'a' and 'b'`, `'a', 'b' and 'c'`. -/
def joinNames (names : List String) : String :=
  let quoted := names.map fun n => "'" ++ n ++ "'"
  match quoted.reverse with
  | [] => ""
  | [a] => a
  | last :: rest => ", ".intercalate rest.reverse ++ " and " ++ last

/-- `n word`, with an `s` unless `n` is one. -/
def plural (n : Nat) (word : String) : String :=
  toString n ++ " " ++ word ++ (if n == 1 then "" else "s")

/-- The value bound to each parameter, or the refusal of the call. -/
def bind (p : Params) (args : List Value) (kwargs : List (String × Value)) :
    Except Failure (List (String × Value)) := do
  let fn := p.name ++ "()"
  let byPos := (p.positional.zip args)
  for (k, _) in kwargs do
    if !(p.positional.contains k || p.keywordOnly.contains k) then
      throw (.typeError (fn ++ " got an unexpected keyword argument '" ++ k ++ "'"))
    if (byPos.map (·.1)).contains k then
      throw (.typeError (fn ++ " got multiple values for argument '" ++ k ++ "'"))
  if args.length > p.positional.length then
    let required := (p.positional.filter fun n => !(p.defaults.map (·.1)).contains n).length
    let takes := if required == p.positional.length then plural p.positional.length "positional argument"
      else "from " ++ toString required ++ " to " ++ toString p.positional.length ++
        " positional arguments"
    let kwGiven := (kwargs.filter fun kv => p.keywordOnly.contains kv.1).length
    let given := if kwGiven == 0 then toString args.length ++ (if args.length == 1 then " was" else " were")
      else plural args.length "positional argument" ++ " (and " ++
        plural kwGiven "keyword-only argument" ++ ") were"
    throw (.typeError (fn ++ " takes " ++ takes ++ " but " ++ given ++ " given"))
  let bound := byPos ++ kwargs ++ p.defaults
  let missingPos := p.positional.filter fun n => (bound.lookup n).isNone
  if !missingPos.isEmpty then
    throw (.typeError (fn ++ " missing " ++ plural missingPos.length "required positional argument" ++
      ": " ++ joinNames missingPos))
  let missingKw := p.keywordOnly.filter fun n => (bound.lookup n).isNone
  if !missingKw.isEmpty then
    throw (.typeError (fn ++ " missing " ++ plural missingKw.length "required keyword-only argument" ++
      ": " ++ joinNames missingKw))
  pure bound

end Params

end Sockets
