import Transclude.Regex.Basic

/-!
# Patterns

A pattern is written between slashes, with a backslash before each slash that is part of it. It is
kept as it is written, with the regular expression that this means, so two patterns are the same
when they are written the same (`Pattern.ext_literal`). Nothing about patterns depends on which
texts are regular expressions and on what they match; that is left to a matcher, of which there is
one here.
-/

namespace Transclude

/-- What makes regular expressions of texts and tells where they match. -/
class Matcher where
  /-- The regular expressions. -/
  Expression : Type
  /-- The regular expression that a text writes, if it writes one. -/
  compile? : Text → Option Expression
  /-- Whether the regular expression matches anywhere in a text. -/
  isMatch : Expression → Text → Bool

/-- The matcher for the regular expressions known here. -/
instance : Matcher where
  Expression := Regex
  compile? := Regex.ofText?
  isMatch := Regex.isMatch

namespace Pattern

/-- The regular expression that a pattern's literal writes: a backslash and a slash are a slash. -/
def unescape : Text → Text
  | [] => []
  | '\\' :: '/' :: rest => '/' :: unescape rest
  | c :: rest => c :: unescape rest

end Pattern

variable [Matcher]

/-- A pattern of a directive. -/
structure Pattern where
  /-- The text between the slashes. -/
  literal : Text
  regex : Matcher.Expression
  compile?_unescape : Matcher.compile? (Pattern.unescape literal) = some regex

namespace Pattern

/-- The pattern that a literal writes, if it is a regular expression. -/
def ofLiteral? (literal : Text) : Option Pattern :=
  match h : Matcher.compile? (unescape literal) with
  | some regex => some ⟨literal, regex, h⟩
  | none => none

/-- The pattern as it is written, with its slashes. -/
def text (pattern : Pattern) : Text := '/' :: pattern.literal ++ ['/']

/-- Whether the pattern matches anywhere in `t`. -/
def isMatch (pattern : Pattern) (t : Text) : Bool := Matcher.isMatch pattern.regex t

/-- Patterns that are written the same are the same. -/
theorem ext_literal {p q : Pattern} (h : p.literal = q.literal) : p = q := by
  obtain ⟨literal, regex, hp⟩ := p
  obtain ⟨literal', regex', hq⟩ := q
  obtain rfl : literal = literal' := h
  obtain rfl : regex = regex' := Option.some.inj (hp.symm.trans hq)
  rfl

instance : DecidableEq Pattern := fun p q =>
  decidable_of_iff (p.literal = q.literal) ⟨ext_literal, congrArg literal⟩

/-- The pattern that a literal writes has that literal. -/
theorem literal_of_ofLiteral? {literal : Text} {p : Pattern} (h : ofLiteral? literal = some p) :
    p.literal = literal := by
  unfold ofLiteral? at h
  split at h
  · cases h; rfl
  · cases h

/-- What is compiled for a literal is the regular expression that it writes. -/
theorem map_regex_ofLiteral? (literal : Text) :
    (ofLiteral? literal).map regex = Matcher.compile? (unescape literal) := by
  unfold ofLiteral?
  split
  · next h => exact h.symm
  · next h => exact h.symm

/-- A pattern's literal writes it. -/
theorem ofLiteral?_literal (p : Pattern) : ofLiteral? p.literal = some p := by
  unfold ofLiteral?
  split
  · next regex h => exact congrArg some (ext_literal rfl)
  · next h => exact absurd (h.symm.trans p.compile?_unescape) (by simp)

end Pattern

end Transclude
