import Transclude.Directive.Basic
import Transclude.Failure
import Transclude.Through

/-!
# Snippets

The lines of a content that a selection asks for. A pattern is matched against a line without its
line ending, and the lines of a snippet keep theirs.
-/

namespace Transclude

section Selections

variable [Matcher]

/-- Whether the pattern matches the line, its ending apart. -/
def Pattern.matchesLine (pattern : Pattern) (line : Text) : Bool :=
  pattern.isMatch (Text.stripLineEnding line)

/-- The lines from the first that the pattern matches on. -/
def Pattern.fromFirst (pattern : Pattern) (lines : List Text) : List Text :=
  lines.dropWhile fun line => !pattern.matchesLine line

/-- The lines of the content that the selection asks for. -/
def Selection.extract (content : Text) : Selection → Except Cause (List Text)
  | .whole => .ok (Text.lines content)
  | .line pattern =>
    match pattern.fromFirst (Text.lines content) with
    | [] => .error (.noMatch pattern.literal .start)
    | first :: _ => .ok [first]
  | .range start stop =>
    match start.fromFirst (Text.lines content) with
    | [] => .error (.noMatch start.literal .start)
    | first :: rest =>
      match stop with
      | .endOfContent => .ok (first :: rest)
      | .through pattern =>
        match throughFirst? pattern.matchesLine rest with
        | none => .error (.noMatch pattern.literal .stop)
        | some (taken, _) => .ok (first :: taken)

end Selections

/-- Lines of a content and the language that they are in. -/
structure Snippet where
  lines : List Text
  language : Text
  deriving DecidableEq, Repr

end Transclude
