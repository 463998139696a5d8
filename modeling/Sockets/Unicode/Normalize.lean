import Sockets.Unicode.Normalization

/-!
# Compatibility normalization

`nfkc` brings a sequence of code points to its compatibility composed form, in three passes:

1. every character is replaced by its full compatibility decomposition (a Hangul syllable by
   its leading consonant, vowel and, when it has one, trailing consonant);
2. each run of combining marks is ordered by combining class, marks of one class keeping their
   order;
3. from left to right, each character that starts a composition absorbs the marks after it that
   compose with it and are not blocked (a mark is blocked by an earlier mark of the same or a
   higher class), and a leading consonant and vowel, with a trailing consonant if one follows,
   become their syllable.
-/

namespace Sockets

namespace Unicode

/-- The first Hangul syllable. -/
def syllableBase : Nat := 0xAC00

/-- The first leading consonant. -/
def leadBase : Nat := 0x1100

/-- The first vowel. -/
def vowelBase : Nat := 0x1161

/-- The code point before the first trailing consonant. -/
def trailBase : Nat := 0x11A7

/-- The number of leading consonants, vowels, trailing consonants (with none) and syllables. -/
def leadCount : Nat := 19
/-- The number of vowels. -/
def vowelCount : Nat := 21
/-- The number of trailing consonants, counting their absence. -/
def trailCount : Nat := 28
/-- The number of syllables. -/
def syllableCount : Nat := 11172

/-- The full compatibility decomposition of a code point. -/
def decompose (n : Nat) : List Nat :=
  if syllableBase ≤ n && n < syllableBase + syllableCount then
    let s := n - syllableBase
    let lead := leadBase + s / (vowelCount * trailCount)
    let vowel := vowelBase + s % (vowelCount * trailCount) / trailCount
    let trail := trailBase + s % trailCount
    if trail == trailBase then [lead, vowel] else [lead, vowel, trail]
  else (decompositions.find? n).getD [n]

/-- The combining class of a code point. -/
def combiningClass (n : Nat) : Nat := combiningClasses.get n

/-- Order each run of combining marks by class; marks of one class keep their order. -/
def reorder (xs : List Nat) : List Nat :=
  let rec go (run : List Nat) : List Nat → List Nat
    | [] => run.mergeSort (fun a b => combiningClass a ≤ combiningClass b)
    | x :: rest =>
      if combiningClass x == 0 then
        run.mergeSort (fun a b => combiningClass a ≤ combiningClass b) ++ x :: go [] rest
      else go (run ++ [x]) rest
  go [] xs

/-- The character a pair composes to, if it composes. -/
def composePair (first second : Nat) : Option Nat :=
  match compositions.find? first with
  | some pairs =>
    let rec look : List Nat → Option Nat
      | s :: c :: rest => if s == second then some c else look rest
      | _ => none
    look pairs
  | none => none

/-- Let the character `f` absorb the marks that compose with it from `rest`: the character it
becomes and the code points that remain, in order. `blocking` is the class of the last mark that
did not compose (0 when none has), `kept` the code points passed over so far, in reverse. -/
def absorb (f blocking : Nat) (kept : List Nat) : List Nat → Nat × List Nat
  | [] => (f, kept.reverse)
  | c :: more =>
    let cc := combiningClass c
    if blocking != 0 && cc == 0 then (f, kept.reverse ++ c :: more)
    else if blocking != 0 && blocking ≥ cc then absorb f blocking (c :: kept) more
    else
      match composePair f c with
      | some g =>
        if (compositions.find? g).isNone then (g, kept.reverse ++ more)
        else absorb g blocking kept more
      | none =>
        if cc == 0 then (f, kept.reverse ++ c :: more)
        else absorb f cc (c :: kept) more

/-- Compose decomposed, ordered code points; `fuel` bounds the steps, one per code point
written. -/
def composeWith : Nat → List Nat → List Nat
  | 0, xs => xs
  | _ + 1, [] => []
  | fuel + 1, c :: rest =>
    let hangul : Option (Nat × List Nat) :=
      match rest with
      | v :: r =>
        if leadBase ≤ c && c < leadBase + leadCount && vowelBase ≤ v &&
            v < vowelBase + vowelCount then
          let lv := syllableBase + ((c - leadBase) * vowelCount + (v - vowelBase)) * trailCount
          match r with
          | t :: r' =>
            if trailBase < t && t < trailBase + trailCount then some (lv + (t - trailBase), r')
            else some (lv, r)
          | [] => some (lv, r)
        else none
      | [] => none
    match hangul with
    | some (s, r) => s :: composeWith fuel r
    | none =>
      if (compositions.find? c).isNone then c :: composeWith fuel rest
      else
        let (g, r) := absorb c 0 [] rest
        g :: composeWith fuel r

/-- Compose decomposed, ordered code points. Each step writes one code point and consumes at
least one, so as many steps as code points suffice. -/
def compose (xs : List Nat) : List Nat := composeWith (xs.length + 1) xs

/-- The compatibility composed form of a sequence of code points. -/
def nfkc (xs : List Nat) : List Nat := compose (reorder (xs.flatMap decompose))

end Unicode

end Sockets
