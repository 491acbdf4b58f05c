import Transclude.Regex.Meaning
import Transclude.Regex.Reader
import Transclude.Regex.Size

/-!
# Regular expressions from text

The one way to a regular expression is to write it: the text is read, its meaning is worked out,
and what is too large is refused. All that a regular expression answers is whether it matches
anywhere in a text.
-/

namespace Transclude

/-- A regular expression that is small enough to run. -/
structure Regex where
  expr : Regex.Expr
  fits : expr.fits = true

namespace Regex

/-- The regular expression that a text writes, if it writes one. -/
def ofText? (pattern : Text) : Option Regex :=
  match (Node.ofText? pattern).bind (·.expr? {}) with
  | none => none
  | some (e, _) => if h : e.fits = true then some ⟨e, h⟩ else none

/-- Whether the regular expression matches anywhere in the text. -/
def isMatch (regex : Regex) (t : Text) : Bool := regex.expr.isMatch t

end Regex

end Transclude
