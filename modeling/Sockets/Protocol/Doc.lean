import Sockets.Binary64
import Sockets.Text

/-!
# Documents

Requests and answers travel as JSON documents, one per line. `Doc` is that tree as the library
sees it: a number written without a fraction or exponent is an integer of any size, any other a
double; a string that holds a lone surrogate (written with a `\u` escape) is kept as text; the
fields of an object keep the order in which they were written.

The readers below return `none` for a missing or mistyped field, so that a malformed request is
refused by the caller with one message of its own.
-/

namespace Sockets

/-- A JSON document. -/
inductive Doc where
  /-- The literal `null`. -/
  | null
  /-- `true` or `false`. -/
  | bool (b : Bool)
  /-- An integer of any size. -/
  | int (n : Int)
  /-- A number with a fraction or an exponent. -/
  | float (x : Binary64)
  /-- A string. -/
  | str (s : String)
  /-- A string that holds a lone surrogate. -/
  | text (t : Text)
  /-- An array, in order. -/
  | arr (items : List Doc)
  /-- An object, its fields in the order written. -/
  | obj (fields : List (String × Doc))
  deriving Inhabited

namespace Doc

/-- The value of field `key` of an object; `none` for a missing field or a non-object. -/
def field? (d : Doc) (key : String) : Option Doc :=
  match d with
  | .obj fields => fields.lookup key
  | _ => none

/-- Whether an object has field `key`. -/
def has (d : Doc) (key : String) : Bool := (d.field? key).isSome

/-- The string held by a document, if it is one. -/
def asString? : Doc → Option String
  | .str s => some s
  | _ => none

/-- The integer held by a document, if it is one. -/
def asInt? : Doc → Option Int
  | .int n => some n
  | _ => none

/-- The flag held by a document, if it is one. -/
def asBool? : Doc → Option Bool
  | .bool b => some b
  | _ => none

/-- The items of an array, if the document is one. -/
def asList? : Doc → Option (List Doc)
  | .arr items => some items
  | _ => none

/-- The string field `key`, if present and a string. -/
def string? (d : Doc) (key : String) : Option String := (d.field? key).bind asString?

/-- The integer field `key`, if present and an integer. -/
def int? (d : Doc) (key : String) : Option Int := (d.field? key).bind asInt?

/-- The flag field `key`, if present and a flag. -/
def bool? (d : Doc) (key : String) : Option Bool := (d.field? key).bind asBool?

/-- The array field `key`, if present and an array. -/
def list? (d : Doc) (key : String) : Option (List Doc) := (d.field? key).bind asList?

/-- A one-field object. -/
def single (key : String) (value : Doc) : Doc := .obj [(key, value)]

/-- An optional string: `null` when absent. -/
def ofOptString : Option String → Doc
  | some s => .str s
  | none => .null

/-- A list of integers. -/
def ofInts (xs : List Int) : Doc := .arr (xs.map .int)

/-- A list of naturals. -/
def ofNats (xs : List Nat) : Doc := .arr (xs.map fun (n : Nat) => Doc.int (Int.ofNat n))

/-- The object with field `key` set to `value`: replaced in place when present, else added last. -/
def set (d : Doc) (key : String) (value : Doc) : Doc :=
  match d with
  | .obj fields =>
    if fields.any (·.1 == key) then
      .obj (fields.map fun kv => if kv.1 == key then (key, value) else kv)
    else .obj (fields ++ [(key, value)])
  | _ => .obj [(key, value)]

/-- The fields of an object, or none. -/
def fields : Doc → List (String × Doc)
  | .obj fs => fs
  | _ => []

end Doc

end Sockets
