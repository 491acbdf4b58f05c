import Transclude.Text.Basic

/-!
# Colors on a terminal

A terminal changes how it shows text at sequences that begin with the escape character. Text is
painted by such a sequence before it and one after it that takes the first back; without colors it
stays as it is. A diff is painted line by line, by how each line begins.
-/

namespace Transclude

/-- A way to show text. -/
inductive Paint where
  | red
  | green
  | cyan
  | bold
  deriving DecidableEq, Repr

namespace Paint

/-- The sequence of a number. -/
def sequence (number : String) : Text := ("\x1b[" ++ number ++ "m").toList

/-- The sequence that begins the way to show text. -/
def first : Paint → Text
  | .red => sequence "31"
  | .green => sequence "32"
  | .cyan => sequence "36"
  | .bold => sequence "1"

/-- The sequence that takes it back: all colors share one. -/
def last : Paint → Text
  | .bold => sequence "0"
  | .red | .green | .cyan => sequence "39"

/-- The text, painted if there are colors. -/
def apply (paint : Paint) (color : Bool) (t : Text) : Text :=
  if color then paint.first ++ t ++ paint.last else t

/-- How a line of a diff is shown: bold where it looks like part of the heading, and else by its
mark. -/
def ofDiffLine? (line : Text) : Option Paint :=
  match line with
  | '+' :: '+' :: '+' :: _ => some .bold
  | '-' :: '-' :: '-' :: _ => some .bold
  | '@' :: '@' :: _ => some .cyan
  | '+' :: _ => some .green
  | '-' :: _ => some .red
  | _ => none

/-- A line of a diff with its line feed, painted. -/
def diffLine (color : Bool) (line : Text) : Text :=
  match ofDiffLine? line with
  | some paint => paint.apply color line
  | none => line

/-- A diff, painted. -/
def diff (color : Bool) (t : Text) : Text := (Text.lines t).flatMap (diffLine color)

end Paint

end Transclude
