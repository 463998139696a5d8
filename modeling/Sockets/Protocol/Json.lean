import Sockets.Protocol.Doc
import Sockets.Unicode.Ranges

/-!
# JSON text

Documents are read from and written to JSON text, one document per line.

*Reading* (`Doc.parse?`) takes the usual grammar. A number with a fraction or an exponent is a
double, rounded from its decimal text; `NaN`, `Infinity` and `-Infinity` are read as the
special doubles. In a string, `\u` escapes give code points, and an escaped high surrogate
directly followed by an escaped low one is the character the pair encodes; a surrogate left
alone stays in the text.

*Writing* (`Doc.render`) puts no blanks between tokens and writes characters beyond ASCII as
they are; the quote, the backslash and control characters are escaped. A double is written in
its shortest form, the special ones as `NaN`, `Infinity` and `-Infinity`.
-/

namespace Sockets

namespace Json

/-- Whether a character is a blank between tokens. -/
def isBlank (c : Char) : Bool := c == ' ' || c == '\t' || c == '\n' || c == '\r'

/-- The characters after the leading blanks. -/
def skip (cs : List Char) : List Char := cs.dropWhile isBlank

/-- The value of four hexadecimal digits at the head. -/
def hex4? : List Char → Option Nat
  | a :: b :: c :: d :: _ => do
    let a ← Unicode.hexDigit? a
    let b ← Unicode.hexDigit? b
    let c ← Unicode.hexDigit? c
    let d ← Unicode.hexDigit? d
    pure (((a * 16 + b) * 16 + c) * 16 + d)
  | _ => none

/-- The code points of a string up to its closing quote, and the characters after it. -/
def stringBody (acc : Array Nat) : List Char → Except String (Array Nat × List Char)
  | [] => .error "Unterminated string"
  | '"' :: rest => .ok (acc, rest)
  | '\\' :: rest =>
    match rest with
    | '"' :: r => stringBody (acc.push 0x22) r
    | '\\' :: r => stringBody (acc.push 0x5C) r
    | '/' :: r => stringBody (acc.push 0x2F) r
    | 'b' :: r => stringBody (acc.push 8) r
    | 'f' :: r => stringBody (acc.push 12) r
    | 'n' :: r => stringBody (acc.push 10) r
    | 'r' :: r => stringBody (acc.push 13) r
    | 't' :: r => stringBody (acc.push 9) r
    | 'u' :: r =>
      match hex4? r with
      | some n => stringBody (acc.push n) (r.drop 4)
      | none => .error "Invalid \\uXXXX escape"
    | _ => .error "Invalid \\escape"
  | c :: rest =>
    if c.toNat < 0x20 then .error "Invalid control character" else stringBody (acc.push c.toNat) rest
termination_by cs => cs.length
decreasing_by all_goals simp only [List.length_cons, List.length_drop]; omega

/-- Join each escaped high surrogate with the low surrogate right after it. -/
def joinPairs : List Nat → List Nat
  | hi :: lo :: rest =>
    if 0xD800 ≤ hi && hi ≤ 0xDBFF && 0xDC00 ≤ lo && lo ≤ 0xDFFF then
      (0x10000 + (hi - 0xD800) * 0x400 + (lo - 0xDC00)) :: joinPairs rest
    else hi :: joinPairs (lo :: rest)
  | xs => xs

/-- The document of a string's code points: a string, or text when a surrogate stays alone. -/
def stringDoc (codes : List Nat) : Doc :=
  let glyphs := (joinPairs codes).map Glyph.ofCode
  if glyphs.any Glyph.isSurrogate then .text glyphs
  else .str (String.ofList (glyphs.filterMap fun g => match g with
    | .char c => some c
    | .surrogate _ => none))

/-- The digits at the head and the rest. -/
def digits (cs : List Char) : List Char × List Char := (cs.takeWhile Char.isDigit, cs.dropWhile Char.isDigit)

/-- A number at the head: an integer, or a double when it has a fraction or an exponent. -/
def number (cs : List Char) : Except String (Doc × List Char) :=
  let (neg, body) := match cs with
    | '-' :: r => (true, r)
    | r => (false, r)
  if body.take 8 == "Infinity".toList then
    .ok (.float (.infinity neg), body.drop 8)
  else
    let (whole, afterWhole) := digits body
    if whole.isEmpty then .error "Expecting value"
    else
      let whole := if whole.head? == some '0' then ['0'] else whole
      let afterWhole := if whole == ['0'] then (body.drop 1) else afterWhole
      let (frac, afterFrac) := match afterWhole with
        | '.' :: r =>
          let (f, r') := digits r
          if f.isEmpty then ([], afterWhole) else ('.' :: f, r')
        | r => ([], r)
      let (expo, rest) := match afterFrac with
        | e :: r =>
          if e == 'e' || e == 'E' then
            let (sign, r') := match r with
              | '+' :: r' => (['+'], r')
              | '-' :: r' => (['-'], r')
              | r' => ([], r')
            let (ds, r'') := digits r'
            if ds.isEmpty then ([], afterFrac) else (e :: sign ++ ds, r'')
          else ([], afterFrac)
        | [] => ([], [])
      let sign := if neg then "-" else ""
      if frac.isEmpty && expo.isEmpty then
        let n : Int := ((String.ofList whole).toNat?).getD 0
        .ok (.int (if neg then -n else n), rest)
      else
        match Binary64.parse? (sign ++ String.ofList (whole ++ frac ++ expo)) with
        | some x => .ok (.float x, rest)
        | none => .error "Expecting value"

mutual
/-- The document at the head of the characters, and the characters after it. -/
def value : Nat → List Char → Except String (Doc × List Char)
  | 0, _ => .error "Too deep"
  | fuel + 1, cs =>
    match skip cs with
    | '{' :: rest => do
      let (fs, rest) ← members fuel (skip rest) []
      pure (.obj fs, rest)
    | '[' :: rest => do
      let (xs, rest) ← items fuel (skip rest) []
      pure (.arr xs, rest)
    | '"' :: rest => do
      let (codes, rest) ← stringBody #[] rest
      pure (stringDoc codes.toList, rest)
    | 'n' :: 'u' :: 'l' :: 'l' :: rest => pure (.null, rest)
    | 't' :: 'r' :: 'u' :: 'e' :: rest => pure (.bool true, rest)
    | 'f' :: 'a' :: 'l' :: 's' :: 'e' :: rest => pure (.bool false, rest)
    | 'N' :: 'a' :: 'N' :: rest => pure (.float .nan, rest)
    | cs => number cs

/-- The items of an array after its opening bracket, and the characters after its end. -/
def items : Nat → List Char → List Doc → Except String (List Doc × List Char)
  | 0, _, _ => .error "Too deep"
  | fuel + 1, cs, acc =>
    match cs with
    | ']' :: rest => if acc.isEmpty then pure ([], rest) else .error "Expecting value"
    | _ => do
      let (d, rest) ← value fuel cs
      match skip rest with
      | ',' :: rest => items fuel (skip rest) (acc ++ [d])
      | ']' :: rest => pure (acc ++ [d], rest)
      | _ => .error "Expecting ',' delimiter"

/-- The fields of an object after its opening brace, and the characters after its end. A key
written twice keeps its first place and takes its last value. -/
def members : Nat → List Char → List (String × Doc) → Except String (List (String × Doc) × List Char)
  | 0, _, _ => .error "Too deep"
  | fuel + 1, cs, acc =>
    match cs with
    | '}' :: rest => if acc.isEmpty then pure ([], rest) else .error "Expecting property name"
    | '"' :: rest => do
      let (codes, rest) ← stringBody #[] rest
      let key := match stringDoc codes.toList with
        | .str s => s
        | _ => String.ofList ((joinPairs codes.toList).map Char.ofNat)
      match skip rest with
      | ':' :: rest => do
        let (d, rest) ← value fuel rest
        let acc := if acc.any (·.1 == key) then
            acc.map fun kv => if kv.1 == key then (key, d) else kv
          else acc ++ [(key, d)]
        match skip rest with
        | ',' :: rest => members fuel (skip rest) acc
        | '}' :: rest => pure (acc, rest)
        | _ => .error "Expecting ',' delimiter"
      | _ => .error "Expecting ':' delimiter"
    | _ => .error "Expecting property name enclosed in double quotes"
end

/-- A control character's escape. -/
def controlEscape (n : Nat) : String :=
  match n with
  | 8 => "\\b"
  | 9 => "\\t"
  | 10 => "\\n"
  | 12 => "\\f"
  | 13 => "\\r"
  | _ => "\\u" ++ String.ofList ((List.range 4).reverse.map fun i =>
      let d := n / Nat.pow 16 i % 16
      if d < 10 then Char.ofNat (48 + d) else Char.ofNat (87 + d))

/-- One code point inside a written string. -/
def escapeCode (n : Nat) : String :=
  if n == 0x22 then "\\\""
  else if n == 0x5C then "\\\\"
  else if n < 0x20 || (0xD800 ≤ n && n ≤ 0xDFFF) then controlEscape n
  else String.singleton (Char.ofNat n)

/-- A written string. -/
def quoteCodes (codes : List Nat) : String := "\"" ++ String.join (codes.map escapeCode) ++ "\""

/-- The text of a double in a document. -/
def floatText : Binary64 → String
  | .nan => "NaN"
  | .infinity negative => if negative then "-Infinity" else "Infinity"
  | x => x.text

mutual
/-- The text of a document. -/
def render : Doc → String
  | .null => "null"
  | .bool b => if b then "true" else "false"
  | .int n => toString n
  | .float x => floatText x
  | .str s => quoteCodes (s.toList.map Char.toNat)
  | .text t => quoteCodes (t.map Glyph.code)
  | .arr items => "[" ++ renderItems items ++ "]"
  | .obj fields => "\x7b" ++ renderFields fields ++ "\x7d"

/-- The texts of documents, separated by commas. -/
def renderItems : List Doc → String
  | [] => ""
  | [d] => render d
  | d :: ds => render d ++ "," ++ renderItems ds

/-- The texts of fields, separated by commas. -/
def renderFields : List (String × Doc) → String
  | [] => ""
  | [(k, d)] => quoteCodes (k.toList.map Char.toNat) ++ ":" ++ render d
  | (k, d) :: rest => quoteCodes (k.toList.map Char.toNat) ++ ":" ++ render d ++ "," ++ renderFields rest
end

end Json

namespace Doc

/-- The document a line of JSON text writes, or why it writes none. -/
def parse? (line : String) : Except String Doc := do
  let cs := line.toList
  let (d, rest) ← Json.value (cs.length + 2) cs
  if (Json.skip rest).isEmpty then pure d else throw "Extra data"

/-- The JSON text of a document. -/
def render (d : Doc) : String := Json.render d

end Doc

end Sockets
