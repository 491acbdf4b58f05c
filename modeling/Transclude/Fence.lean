import Transclude.Text.Basic

/-!
# Fences

A fence of backticks or tildes sets off lines of a document. It opens with a line of at least three
of the same mark and closes with a line of at least as many and nothing else, each behind at most
three spaces.
-/

namespace Transclude

/-- The marks of a line that opens a fence. -/
structure Fence where
  marker : Char
  length : Nat
  deriving DecidableEq, Repr

namespace Fence

/-- The line without its leading spaces, if there are no more than three. -/
def unindent? (line : Text) : Option Text :=
  if (line.takeWhile (· == ' ')).length ≤ 3 then some (line.dropWhile (· == ' ')) else none

/-- The fence that a line without leading spaces opens. What follows backticks may hold none. -/
def ofUnindented? : Text → Option Fence
  | [] => none
  | marker :: rest =>
    let length := (rest.takeWhile (· == marker)).length + 1
    if marker ≠ '\x60' ∧ marker ≠ '~' then none
    else if length < 3 then none
    else if marker = '\x60' ∧ '\x60' ∈ rest.dropWhile (· == marker) then none
    else some ⟨marker, length⟩

/-- The fence that a line opens. -/
def ofLine? (line : Text) : Option Fence := (unindent? line).bind ofUnindented?

/-- Whether the line closes the fence: nothing but its mark, blanks at the end apart, and at least
as often. -/
def closes (fence : Fence) (line : Text) : Bool :=
  match unindent? line with
  | none => false
  | some unindented =>
    let marks := Text.trimEnd unindented
    fence.length ≤ marks.length && marks.all (· == fence.marker)

/-- The marks of the fence. -/
def marks (fence : Fence) : Text := List.replicate fence.length fence.marker

/-- The number of backticks that a line begins with, blanks apart. -/
def leadingBackticks (line : Text) : Nat :=
  ((Text.trimStart line).takeWhile (· == '\x60')).length

/-- A fence of one more backtick than any of the lines begins with, so that none closes it. -/
def around (lines : List Text) : Fence :=
  ⟨'\x60', max 3 ((lines.map leadingBackticks).foldl max 0 + 1)⟩

end Fence

end Transclude
