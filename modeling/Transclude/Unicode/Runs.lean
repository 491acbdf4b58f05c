import Transclude.Unicode.CodeSet

/-!
# Tables of runs

The tables of this library write a partition of the code points as a sequence of runs, from code
point zero on: each entry is the length of a run in hexadecimal, in lower case, and the value that
its code points share. A set is written in the same way without values: runs outside the set and
inside it take turns, the first outside. Entries are separated by spaces and line feeds.
-/

namespace Transclude.Unicode.Runs

/-- Whether `c` is a digit of a run's length. -/
def isLengthDigit (c : Char) : Bool := ('0' ≤ c && c ≤ '9') || ('a' ≤ c && c ≤ 'f')

/-- The number that hexadecimal digits in lower case write. -/
def hexNat (digits : List Char) : Nat :=
  digits.foldl (fun n c => n * 16 + (if c ≤ '9' then c.toNat - 48 else c.toNat - 87)) 0

/-- The words of a text, separated by spaces and line feeds. -/
def words (text : List Char) : List (List Char) :=
  let step (c : Char) (acc : List Char × List (List Char)) : List Char × List (List Char) :=
    if c = ' ' ∨ c = '\n' then
      ([], if acc.1.isEmpty then acc.2 else acc.1 :: acc.2) else (c :: acc.1, acc.2)
  let result := text.foldr step ([], [])
  if result.1.isEmpty then result.2 else result.1 :: result.2

/-- The runs that a table writes, each with its value. -/
def decode (table : String) : List (CodeRange × String) :=
  let step (acc : Nat × List (CodeRange × String)) (word : List Char) :
      Nat × List (CodeRange × String) :=
    let length := hexNat (word.takeWhile isLengthDigit)
    let value := String.ofList (word.dropWhile isLengthDigit)
    (acc.1 + length, (⟨acc.1, acc.1 + length - 1⟩, value) :: acc.2)
  ((words table.toList).foldl step (0, [])).2.reverse

/-- The code points whose value satisfies `p`. -/
def select (p : String → Bool) (runs : List (CodeRange × String)) : CodeSet :=
  CodeSet.join ((runs.filter fun entry => p entry.2).map (·.1))

/-- The set that a table without values writes. -/
def decodeSet (table : String) : CodeSet :=
  let step (acc : Nat × Bool × List CodeRange) (word : List Char) : Nat × Bool × List CodeRange :=
    let length := hexNat word
    (acc.1 + length, !acc.2.1,
      if acc.2.1 then ⟨acc.1, acc.1 + length - 1⟩ :: acc.2.2 else acc.2.2)
  ((words table.toList).foldl step (0, false, [])).2.2.reverse

end Transclude.Unicode.Runs
