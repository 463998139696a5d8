import Sockets.Failure
import Sockets.Value

/-!
# Ordering caller values

The checks of the library compare caller values with numbers (`size <= 0`, `fd < 0`), and a
comparison of values that have no order is refused with a type error naming both types:
`'<' not supported between instances of 'str' and 'int'`. The order is:

* numbers (integers, flags as `0` and `1`, floats) by value; a comparison with NaN is false;
* text by code points, byte strings by bytes, a mutable byte string with an immutable one too;
* tuples (an address is the tuple of its fields) with tuples and lists with lists, item by item:
  the first pair of items that are not equal decides, and when one sequence runs out first it is
  the smaller;
* nothing else.
-/

namespace Sockets

/-- The four order comparisons. -/
inductive Comparison where
  /-- `<` -/
  | lt
  /-- `<=` -/
  | le
  /-- `>` -/
  | gt
  /-- `>=` -/
  | ge
  deriving DecidableEq, Inhabited

namespace Comparison

/-- The operator as it is written. -/
def symbol : Comparison → String
  | .lt => "<"
  | .le => "<="
  | .gt => ">"
  | .ge => ">="

/-- Whether the comparison holds of two operands in the given order. -/
def holds : Comparison → Ordering → Bool
  | .lt, o => o == .lt
  | .le, o => o != .gt
  | .gt, o => o == .gt
  | .ge, o => o != .lt

/-- The refusal to compare two values of types that have no order. -/
def unsupported (c : Comparison) (a b : Value) : Failure :=
  .typeError ("'" ++ c.symbol ++ "' not supported between instances of '" ++ a.typeName ++
    "' and '" ++ b.typeName ++ "'")

end Comparison

namespace Value

/-- The number a value stands for in comparisons: an integer (a flag is `0` or `1`) or a
double. -/
def number? : Value → Option (Int ⊕ Binary64)
  | .int n => some (.inl n)
  | .bool b => some (.inl (if b then 1 else 0))
  | .float x => some (.inr x)
  | _ => Option.none

/-- How two numbers compare; `none` when one is NaN. -/
def compareNumbers : Int ⊕ Binary64 → Int ⊕ Binary64 → Option Ordering
  | .inl a, .inl b => some (compare a b)
  | .inr x, .inl b => x.compareInt b
  | .inl a, .inr y => (y.compareInt a).map Ordering.swap
  | .inr x, .inr y => x.compare? y

/-- The lexicographic order of two lists of naturals. -/
def compareCodes : List Nat → List Nat → Ordering
  | [], [] => .eq
  | [], _ => .lt
  | _, [] => .gt
  | a :: as, b :: bs => if a == b then compareCodes as bs else compare a b

mutual
/-- Whether comparison `c` holds of `a` and `b`, or the refusal when they have no order. -/
def compareBy (c : Comparison) (a b : Value) : Except Failure Bool :=
  match a, b with
  | .tuple xs, .tuple ys => compareItems c xs ys
  | .list xs, .list ys => compareItems c xs ys
  | .str s, .str t => .ok (c.holds (compareCodes (s.map Glyph.code) (t.map Glyph.code)))
  | a, b =>
    match a.asBytes?, b.asBytes? with
    | some x, some y => .ok (c.holds (compareCodes (x.map UInt8.toNat) (y.map UInt8.toNat)))
    | _, _ =>
      match a.number?, b.number? with
      | some x, some y => .ok ((compareNumbers x y).elim false c.holds)
      | _, _ => .error (c.unsupported a b)

/-- Comparison `c` of two sequences item by item. -/
def compareItems (c : Comparison) : List Value → List Value → Except Failure Bool
  | [], [] => .ok (c.holds .eq)
  | [], _ :: _ => .ok (c.holds .lt)
  | _ :: _, [] => .ok (c.holds .gt)
  | x :: xs, y :: ys => if equals x y then compareItems c xs ys else compareBy c x y
end

/-- Comparison `c` of two values, an address comparing as the tuple of its fields. -/
def compareWith (c : Comparison) (a b : Value) : Except Failure Bool :=
  match a.tupleItems?, b.tupleItems? with
  | some xs, some ys => compareItems c xs ys
  | _, _ => compareBy c a b

/-- Whether `a < b`. -/
def lt (a b : Value) : Except Failure Bool := compareWith .lt a b

/-- Whether `a <= b`. -/
def le (a b : Value) : Except Failure Bool := compareWith .le a b

/-- Whether `a > b`. -/
def gt (a b : Value) : Except Failure Bool := compareWith .gt a b

/-- Whether `a >= b`. -/
def ge (a b : Value) : Except Failure Bool := compareWith .ge a b

end Value

end Sockets
