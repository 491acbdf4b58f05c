import Transclude.Text.Basic
import Transclude.Unicode.Binary

/-!
# Regular expressions and what they match

A regular expression is a set of characters, a condition on a place, or built from others by
sequence, choice and repetition. A place of a text is before, between or after its characters. The
meaning of an expression is what it does to marks on the places: from the places where a match may
begin it moves the marks to those where such a match may end. All matches are followed at once, so
the time is linear in the text and in the expression.
-/

namespace Transclude.Regex

/-! ## Expressions -/

/-- How the characters around a place are parts of words. -/
inductive WordEdge where
  | boundary
  | noBoundary
  | start
  | stop
  /-- No part of a word comes before. -/
  | startHalf
  /-- No part of a word comes after. -/
  | stopHalf
  deriving DecidableEq, Repr

/-- A condition on a place. -/
inductive Condition where
  | textStart
  | textEnd
  /-- At the start of a line; `crlf` says whether carriage returns end lines too. -/
  | lineStart (crlf : Bool)
  | lineEnd (crlf : Bool)
  /-- At an edge of a word; `unicode` says whether words hold more than ASCII characters. -/
  | word (edge : WordEdge) (unicode : Bool)
  deriving DecidableEq, Repr

/-- A regular expression. -/
inductive Expr where
  | empty
  | set (members : Unicode.CodeSet)
  | condition (kind : Condition)
  | concat (parts : List Expr)
  | alternation (branches : List Expr)
  /-- The body at least `least` times and at most `most` times, if there is a bound. -/
  | repeated (body : Expr) (least : Nat) (most : Option Nat)
  | capture (body : Expr)

/-! ## Conditions -/

/-- The characters `0` to `9`, `A` to `Z`, `a` to `z` and the underscore. -/
def asciiWord : Unicode.CodeSet := [⟨48, 57⟩, ⟨65, 90⟩, ⟨95, 95⟩, ⟨97, 122⟩]

/-- Whether a neighbour of a place is part of a word. -/
def isWordChar (unicode : Bool) (neighbour : Option Char) : Bool :=
  match neighbour with
  | none => false
  | some c => (if unicode then Unicode.Binary.word else asciiWord).contains c.toNat

/-- Whether an edge lies between characters of which the given ones are parts of words. -/
def WordEdge.holds (before after : Bool) : WordEdge → Bool
  | .boundary => before != after
  | .noBoundary => before == after
  | .start => !before && after
  | .stop => before && !after
  | .startHalf => !before
  | .stopHalf => !after

/-- Whether the condition holds between two neighbours. -/
def Condition.holds (before after : Option Char) : Condition → Bool
  | .textStart => before.isNone
  | .textEnd => after.isNone
  | .lineStart false => before.isNone || before == some '\n'
  | .lineStart true =>
    before.isNone || before == some '\n' || (before == some '\r' && after != some '\n')
  | .lineEnd false => after.isNone || after == some '\n'
  | .lineEnd true =>
    after.isNone || after == some '\r' || (after == some '\n' && before != some '\r')
  | .word edge unicode => edge.holds (isWordChar unicode before) (isWordChar unicode after)

/-! ## Marks -/

/-- One mark for each place of a text, one more than it has characters. -/
abbrev Marks := List Bool

namespace Marks

/-- A mark on every place of the text. -/
def everywhere (t : Text) : Marks := true :: t.map fun _ => true

/-- Whether any place is marked. -/
def any (marks : Marks) : Bool := marks.contains true

/-- The places marked in either. -/
def union (a b : Marks) : Marks := a.zipWith (· || ·) b

/-- Moves each mark over the character after it, if that is in `members`, and drops the others. -/
def advance (members : Unicode.CodeSet) (t : Text) (marks : Marks) : Marks :=
  false :: marks.zipWith (fun mark c => mark && members.contains c.toNat) t

/-- The marks on places where the condition holds; `before` is the character before the text. -/
def keep (kind : Condition) (before : Option Char) : Text → Marks → Marks
  | c :: rest, mark :: marks =>
    (mark && kind.holds before (some c)) :: keep kind (some c) rest marks
  | [], [mark] => [mark && kind.holds before none]
  | _, marks => marks

/-- Applies `step` to the marks `count` times, as long as there are any. -/
def iterate (step : Marks → Marks) : Nat → Marks → Marks
  | 0, marks => marks
  | count + 1, marks => if marks.any then iterate step count (step marks) else marks

/-- All marks that `count` rounds of `step` lead to, until a round adds none. -/
def closure (step : Marks → Marks) : Nat → Marks → Marks
  | 0, marks => marks
  | count + 1, marks =>
    let more := marks.union (step marks)
    if more == marks then marks else closure step count more

end Marks

/-! ## Matching -/

mutual
/-- Where matches of the expression end that begin on a mark. -/
def Expr.ends (t : Text) (marks : Marks) : Expr → Marks
  | .empty => marks
  | .set members => marks.advance members t
  | .condition kind => marks.keep kind none t
  | .concat parts => endsOfAll t marks parts
  | .alternation branches => endsOfAny t marks branches
  | .capture body => body.ends t marks
  | .repeated body least most =>
    let step (marks : Marks) : Marks := body.ends t marks
    let first := Marks.iterate step least marks
    match most with
    | none => first.closure step (t.length + 1)
    | some most => first.closure step (most - least)

/-- Where matches of the parts, one after the other, end. -/
def Expr.endsOfAll (t : Text) (marks : Marks) : List Expr → Marks
  | [] => marks
  | part :: rest => endsOfAll t (part.ends t marks) rest

/-- Where matches of any of the branches end. -/
def Expr.endsOfAny (t : Text) (marks : Marks) : List Expr → Marks
  | [] => marks.map fun _ => false
  | branch :: rest => (branch.ends t marks).union (endsOfAny t marks rest)
end

/-- Whether the expression matches anywhere in the text. -/
def Expr.isMatch (e : Expr) (t : Text) : Bool := (e.ends t (Marks.everywhere t)).any

end Transclude.Regex
