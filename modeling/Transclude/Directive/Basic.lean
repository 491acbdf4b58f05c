import Transclude.Command.Quoted
import Transclude.Directive.Pattern

/-!
# Directives

A directive says which lines of which content belong below it. This module holds what a directive
is, and the command that writes it.
-/

namespace Transclude

variable [Matcher]

/-- Where a range of lines ends. -/
inductive RangeEnd where
  | endOfContent
  /-- At the first line after the start that the pattern matches. -/
  | through (pattern : Pattern)
  deriving DecidableEq

/-- The lines of a content that a directive asks for. -/
inductive Selection where
  | whole
  /-- The first line that the pattern matches. -/
  | line (pattern : Pattern)
  /-- From the first line that the pattern `start` matches on. -/
  | range (start : Pattern) (stop : RangeEnd)
  deriving DecidableEq

/-- A request for lines of a content. -/
structure Directive where
  /-- The path or address of the content, as written. -/
  reference : Text
  /-- The language written in the directive, if there is one. -/
  language : Option Text
  selection : Selection
  deriving DecidableEq

/-- The end of a range as it is written. -/
def RangeEnd.text : RangeEnd → Text
  | .endOfContent => ['$']
  | .through pattern => pattern.text

/-- The arguments that write a selection, each after a space. -/
def Selection.text : Selection → Text
  | .whole => []
  | .line pattern => ' ' :: pattern.text
  | .range start stop => ' ' :: start.text ++ ' ' :: stop.text

namespace Directive

/-- A reference as it is written: in quotes if it has blanks. -/
def referenceText (reference : Text) : Text :=
  if reference.any Text.isBlank then '"' :: Quoted.encode reference ++ ['"'] else reference

/-- The language as it is written, after a space. -/
def languageText : Option Text → Text
  | none => []
  | some language => ' ' :: language

/-- The command that writes the directive. -/
def text (directive : Directive) : Text :=
  '(' :: referenceText directive.reference ++ languageText directive.language ++
    directive.selection.text ++ [')']

end Directive

end Transclude
