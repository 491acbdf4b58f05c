import Transclude.Regex.Expr

/-!
# The size of an expression

Expressions are limited in the size of the automata that would run them over UTF-8, one in each
direction, with every repetition written out. A state weighs 32, a step over a range of bytes out of
a state with several such steps weighs 8, and an alternative 4.
-/

namespace Transclude.Regex

/-! ## Characters as bytes -/

/-- The bytes from the first to the second. -/
abbrev ByteRange := Nat × Nat

/-- The numbers from `lo` to `hi` as products of ranges: `digits` digits of six bits each follow the
first, which counts from `lead`, the others from `0x80`. -/
def byteRanges (lead : Nat) : Nat → Nat → Nat → List (List ByteRange)
  | 0, lo, hi => [[(lead + lo, lead + hi)]]
  | digits + 1, lo, hi =>
    let block := Nat.pow 64 (digits + 1)
    let under (digit lo hi : Nat) : List (List ByteRange) :=
      (byteRanges 0x80 digits lo hi).map ((lead + digit, lead + digit) :: ·)
    let first := lo / block
    let last := hi / block
    if first = last then under first (lo % block) (hi % block)
    else
      let head := if lo % block = 0 then [] else under first (lo % block) (block - 1)
      let tail := if hi % block = block - 1 then [] else under last 0 (hi % block)
      let from' := if lo % block = 0 then first else first + 1
      let upTo := if hi % block = block - 1 then last else last - 1
      let body : List (List ByteRange) :=
        if from' ≤ upTo then
          [(lead + from', lead + upTo) :: List.replicate (digits + 1) (0x80, 0xBF)]
        else []
      head ++ body ++ tail

/-- The code points of a range as sequences of byte ranges in UTF-8, surrogates left out. -/
def utf8Ranges (r : Unicode.CodeRange) : List (List ByteRange) :=
  let within (lead digits lo hi : Nat) : List (List ByteRange) :=
    let lo := max lo r.lo
    let hi := min hi r.hi
    if lo ≤ hi then byteRanges lead digits lo hi else []
  within 0 0 0 0x7F ++ within 0xC0 1 0x80 0x7FF ++ within 0xE0 2 0x800 0xD7FF ++
    within 0xE0 2 0xE000 0xFFFF ++ within 0xF0 3 0x10000 0x10FFFF

/-- Sequences by their first range, which is equal for neighbours that belong together. -/
def groupByFirst (sequences : List (List ByteRange)) :
    List (ByteRange × List (List ByteRange)) :=
  sequences.foldr (fun sequence groups =>
    match sequence with
    | [] => groups
    | first :: rest =>
      match groups with
      | (key, rests) :: more =>
        if key = first then (key, rest :: rests) :: more else (first, [rest]) :: groups
      | [] => [(first, [rest])]) []

/-- The states of the least automaton that reads the sequences, each given by the sequences that
remain in it, added to those in `states`. Sequences have at most `depth` ranges. -/
def suffixStates (depth : Nat) (states : List (List (List ByteRange)))
    (sequences : List (List ByteRange)) : List (List (List ByteRange)) :=
  match depth with
  | 0 => states
  | depth + 1 =>
    if sequences = [[]] ∨ states.contains sequences then states
    else
      (groupByFirst sequences).foldl (fun states group => suffixStates depth states group.2)
        (sequences :: states)

/-- The number of different non-empty beginnings of the sequences. -/
def beginnings (depth : Nat) (sequences : List (List ByteRange)) : Nat :=
  match depth with
  | 0 => 0
  | depth + 1 =>
    (groupByFirst sequences).foldl (fun n group => n + (1 + beginnings depth group.2)) 0

/-- The size of a set of characters: a single character is its bytes, and a set of ASCII characters
is one state with a step for each range. Otherwise the automaton that reads forward is the least
one, and that which reads backward has a branch for each sequence of byte ranges, which share their
ends. -/
def setSize (backward : Bool) (members : Unicode.CodeSet) : Nat :=
  match members with
  | [⟨lo, hi⟩] => if lo = hi then 32 * (Char.ofNat lo).utf8Size else many
  | _ => many
where
  /-- The size of a set that is no single character. -/
  many : Nat :=
    if List.all members (·.hi < 0x80) then 64 + 8 * members.length
    else
      let sequences := (members.map utf8Ranges).flatten
      if backward then 32 * (2 + beginnings 4 sequences) + 4 * sequences.length
      else
        let states := suffixStates 4 [] sequences
        32 * (1 + states.length) + 8 * states.foldl (fun n s => n + (groupByFirst s).length) 0

/-! ## Expressions -/

mutual
/-- Whether the expression can match the empty text. -/
def Expr.matchesEmpty : Expr → Bool
  | .empty | .condition _ => true
  | .set _ => false
  | .concat parts => allMatchEmpty parts
  | .alternation branches => anyMatchesEmpty branches
  | .repeated body least _ => least == 0 || body.matchesEmpty
  | .capture body => body.matchesEmpty

/-- Whether each of the expressions can match the empty text. -/
def Expr.allMatchEmpty : List Expr → Bool
  | [] => true
  | e :: rest => e.matchesEmpty && allMatchEmpty rest

/-- Whether some of the expressions can match the empty text. -/
def Expr.anyMatchesEmpty : List Expr → Bool
  | [] => false
  | e :: rest => e.matchesEmpty || anyMatchesEmpty rest
end

/-- The size of a repetition whose body has size `size`. -/
def repeatSize (size : Nat) (bodyMatchesEmpty : Bool) (least : Nat) (most : Option Nat) : Nat :=
  match least, most with
  | 0, none => size + (if bodyMatchesEmpty then 112 else 40)
  | _, none => least * size + 40
  | 0, some 1 => size + 72
  | _, some most => (if least = 0 then 32 else least * size) +
      (if least = most then 0 else 32 + (most - least) * (size + 40))

mutual
/-- The size of an expression read forward or backward. -/
def Expr.size (backward : Bool) : Expr → Nat
  | .empty | .condition _ => 32
  | .set members => setSize backward members
  | .concat [] => 32
  | .concat parts => sizeOfAll backward parts
  | .alternation branches => 64 + 4 * branches.length + sizeOfAll backward branches
  | .repeated body least most =>
    repeatSize (body.size backward) body.matchesEmpty least most
  | .capture body => body.size backward + (if backward then 0 else 64)

/-- The sum of the sizes of expressions. -/
def Expr.sizeOfAll (backward : Bool) : List Expr → Nat
  | [] => 0
  | e :: rest => e.size backward + sizeOfAll backward rest
end

/-- Greater expressions are refused. -/
def maxSize : Nat := 10485760

/-- Whether the expression is small enough in both directions. -/
def Expr.fits (e : Expr) : Bool := e.size false ≤ maxSize && e.size true ≤ maxSize

end Transclude.Regex
