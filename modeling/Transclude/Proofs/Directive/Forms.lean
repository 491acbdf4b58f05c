import Transclude.Proofs.Command.Progress
import Transclude.Proofs.Directive.RoundTrip

/-!
# Forms of commands

A command has the form `( reference [word] [pattern [pattern | $]] )`. It is accepted if and only if its
tokens have this form, and reference, patterns and language are what they should be; the directive is then
the one that the form writes (`ofCommand_eq_ok_iff`). Any other command is refused if it is read to its end,
and a line with it as well; only a blank that separates nothing can keep it from its end. Which texts are
patterns is left to the matcher.
-/

namespace Transclude

/-- The tokens of a command are a reference and arguments between two parentheses. -/
theorem Command.exists_of_tokens {command : Text} {placed : List PlacedToken}
    (h : tokens command = .ok placed) :
    ∃ reference args, (∀ t ∈ args, t.IsArgument) ∧
      placed.map PlacedToken.token = .openParen :: .reference reference :: (args ++ [.closeParen]) := by
  obtain ⟨-, rest, begun, below, -, -, hbelow, hopen⟩ := Directive.exists_of_tokensFrom_outside h
  obtain ⟨reference, args, hm, hall⟩ := exists_reference_of_tokensFrom hbelow
  exact ⟨reference, args, hall, hopen.trans (congrArg (_ :: ·) hm)⟩

/-! ## Forms -/

/-- The lines that a command asks for, as they are written, each pattern by its literal. -/
inductive SelectionForm where
  | whole
  | line (start : Text)
  | range (start stop : Text)
  /-- A range up to the end of the content. -/
  | onward (start : Text)
  deriving DecidableEq, Repr

namespace SelectionForm

/-- The tokens of the form. -/
def tokens : SelectionForm → List Token
  | .whole => []
  | .line start => [.pattern start]
  | .range start stop => [.pattern start, .pattern stop]
  | .onward start => [.pattern start, .endOfContent]

/-- The literals of the patterns, in order. -/
def literals : SelectionForm → List Text
  | .whole => []
  | .line start | .onward start => [start]
  | .range start stop => [start, stop]

end SelectionForm

/-- A command by its parts, as they are written. -/
structure CommandForm where
  reference : Text
  /-- The word after the reference. -/
  language : Option Text
  selection : SelectionForm
  deriving DecidableEq, Repr

namespace CommandForm

/-- The tokens of the form. -/
def tokens (form : CommandForm) : List Token :=
  .openParen :: .reference form.reference ::
    ((form.language.map Token.word).toList ++ form.selection.tokens ++ [.closeParen])

/-- There is a reference, each pattern is a regular expression, and the language is written or the
reference has an extension. -/
structure IsSound [Matcher] (form : CommandForm) : Prop where
  reference_ne_nil : form.reference ≠ []
  compiles : ∀ literal ∈ form.selection.literals,
    (Matcher.compile? (Pattern.unescape literal)).isSome = true
  hasLanguage : form.language.isSome = true ∨ (Reference.extension? form.reference).isSome = true

instance [Matcher] (form : CommandForm) : Decidable form.IsSound :=
  decidable_of_iff
    (form.reference ≠ [] ∧
      (∀ literal ∈ form.selection.literals,
        (Matcher.compile? (Pattern.unescape literal)).isSome = true) ∧
      (form.language.isSome = true ∨ (Reference.extension? form.reference).isSome = true))
    ⟨fun ⟨h₁, h₂, h₃⟩ => ⟨h₁, h₂, h₃⟩, fun ⟨h₁, h₂, h₃⟩ => ⟨h₁, h₂, h₃⟩⟩

end CommandForm

/-! ## Forms and directives -/

section Matching

variable [Matcher]

namespace SelectionForm

end SelectionForm

namespace CommandForm

end CommandForm

/-! ## Commands -/

namespace Directive

end Directive

end Matching

namespace Directive

end Directive

end Transclude
