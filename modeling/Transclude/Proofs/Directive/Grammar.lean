import Transclude.Directive.Command
import Transclude.Proofs.Command.Ending

/-!
# The grammar of commands

A command is an opening parenthesis, a reference, the arguments of the directive and a closing
parenthesis. The parser accepts exactly the token lists of this shape (`ofTokens_eq_ok_iff`), and the
directive is the one whose arguments they are.
-/

namespace Transclude

theorem Directive.exists_of_readClose {tokens : List PlacedToken} (h : readClose tokens = .ok ()) :
    ∃ more, tokens.map PlacedToken.token = .closeParen :: more := by
  unfold readClose at h
  split at h
  · cases h
  · exact ⟨_, rfl⟩
  · cases h

theorem Directive.map_token_of_readLanguage {tokens rest : List PlacedToken} {language : Option Text}
    (h : readLanguage tokens = (language, rest)) :
    tokens.map PlacedToken.token =
      (language.map Token.word).toList ++ rest.map PlacedToken.token := by
  unfold readLanguage at h
  split at h
  · cases h; rfl
  · cases h; rfl

variable [Matcher]

/-! ## Arguments of a directive -/

/-- The token that writes the end of a range. -/
def RangeEnd.token : RangeEnd → Token
  | .endOfContent => .endOfContent
  | .through pattern => .pattern pattern.literal

/-- The tokens that write a selection. -/
def Selection.arguments : Selection → List Token
  | .whole => []
  | .line pattern => [.pattern pattern.literal]
  | .range start stop => [.pattern start.literal, stop.token]

/-- The tokens that follow the reference in the command of a directive. -/
def Directive.arguments (directive : Directive) : List Token :=
  (directive.language.map Token.word).toList ++ directive.selection.arguments

theorem Selection.text_eq (selection : Selection) :
    selection.text = selection.arguments.flatMap fun t => ' ' :: t.text := by
  cases selection with
  | whole => rfl
  | line pattern => simp [Selection.text, Selection.arguments, Pattern.text, Token.text]
  | range start stop =>
      cases stop <;>
        simp [Selection.text, Selection.arguments, Pattern.text, Token.text, RangeEnd.text,
          RangeEnd.token]

namespace Directive

theorem text_eq (directive : Directive) :
    directive.text = '(' :: (referenceText directive.reference ++
      (directive.arguments.flatMap (fun t => ' ' :: t.text) ++ [')'])) := by
  unfold text arguments
  cases directive.language with
  | none => simp [languageText, Selection.text_eq]
  | some language => simp [languageText, Selection.text_eq, Token.text]

/-! ## Parts of the grammar -/

theorem readPattern_pattern (pattern : Pattern) (start stop : Nat) (rest : List PlacedToken) :
    readPattern (⟨.pattern pattern.literal, start, stop⟩ :: rest) = .ok (some pattern, rest) := by
  simp [readPattern, Pattern.ofLiteral?_literal]

theorem eq_of_readPattern_some {tokens rest : List PlacedToken} {pattern : Pattern}
    (h : readPattern tokens = .ok (some pattern, rest)) :
    tokens.map PlacedToken.token = .pattern pattern.literal :: rest.map PlacedToken.token := by
  unfold readPattern at h
  split at h
  · split at h
    · next he =>
        cases h
        simp [Pattern.literal_of_ofLiteral? he]
    · cases h
  · cases h

theorem eq_of_readPattern_none {tokens rest : List PlacedToken}
    (h : readPattern tokens = .ok (none, rest)) : rest = tokens := by
  unfold readPattern at h
  split at h
  · split at h <;> cases h
  · cases h; rfl

theorem arguments_of_readSelection {tokens rest : List PlacedToken} {selection : Selection}
    (h : readSelection tokens = .ok (selection, rest)) :
    tokens.map PlacedToken.token = selection.arguments ++ rest.map PlacedToken.token := by
  unfold readSelection at h
  split at h
  · cases h
  · next start below he =>
      have hstart := eq_of_readPattern_some he
      unfold readEnd at h
      split at h
      · cases h
      · next stop below' he' =>
          cases h
          simp [hstart, eq_of_readPattern_some he', Selection.arguments, RangeEnd.token]
      · next he' =>
          cases h
          simp [hstart, ← eq_of_readPattern_none he', Selection.arguments, RangeEnd.token]
      · cases h
        simp [hstart, Selection.arguments]
  · cases h
  · cases h
    simp [Selection.arguments]

theorem readSelection_of_arguments {tokens : List PlacedToken} {selection : Selection}
    {more : List Token}
    (h : tokens.map PlacedToken.token = selection.arguments ++ .closeParen :: more) :
    ∃ rest, readSelection tokens = .ok (selection, rest) ∧ readClose rest = .ok () := by
  cases selection with
  | whole =>
      obtain ⟨⟨_, s, e⟩, rest, rfl, rfl, _⟩ := List.map_eq_cons_iff.mp h
      exact ⟨_, rfl, rfl⟩
  | line pattern =>
      obtain ⟨⟨_, s, e⟩, tail, rfl, rfl, h₁⟩ := List.map_eq_cons_iff.mp h
      obtain ⟨⟨_, s', e'⟩, rest, rfl, rfl, _⟩ := List.map_eq_cons_iff.mp h₁
      refine ⟨⟨.closeParen, s', e'⟩ :: rest, ?_, rfl⟩
      rw [readSelection, readPattern_pattern]
      rfl
  | range start stop =>
      obtain ⟨⟨_, s, e⟩, tail, rfl, rfl, h₁⟩ := List.map_eq_cons_iff.mp h
      obtain ⟨⟨_, s', e'⟩, tail', rfl, rfl, h₂⟩ := List.map_eq_cons_iff.mp h₁
      obtain ⟨⟨_, s'', e''⟩, rest, rfl, rfl, _⟩ := List.map_eq_cons_iff.mp h₂
      refine ⟨⟨.closeParen, s'', e''⟩ :: rest, ?_, rfl⟩
      rw [readSelection, readPattern_pattern]
      cases stop with
      | endOfContent => rfl
      | through pattern =>
          simp only [readEnd, RangeEnd.token]
          rw [readPattern_pattern]

/-- The language of the snippet is written, or the reference has an extension. -/
def HasLanguage (directive : Directive) : Prop :=
  directive.language.isSome ∨ (Reference.extension? directive.reference).isSome

theorem checkLanguage_eq_ok_iff {directive directive' : Directive} :
    checkLanguage directive = .ok directive' ↔ directive = directive' ∧ directive'.HasLanguage := by
  unfold checkLanguage HasLanguage
  split
  · next h =>
      constructor
      · simp
      · rintro ⟨rfl, hl⟩
        simp_all
  · next h =>
      constructor
      · rintro ⟨⟩
        refine ⟨rfl, ?_⟩
        cases hl : directive.language <;> simp_all [Option.isSome_iff_ne_none]
      · rintro ⟨rfl, _⟩
        rfl

theorem readLanguage_of_arguments {tokens : List PlacedToken} {directive : Directive}
    {more : List Token}
    (h : tokens.map PlacedToken.token = directive.arguments ++ .closeParen :: more) :
    ∃ rest, readLanguage tokens = (directive.language, rest) ∧
      rest.map PlacedToken.token = directive.selection.arguments ++ .closeParen :: more := by
  unfold arguments at h
  cases hl : directive.language with
  | some language =>
      rw [hl] at h
      obtain ⟨⟨_, s, e⟩, rest, rfl, rfl, h₁⟩ := List.map_eq_cons_iff.mp h
      exact ⟨rest, rfl, h₁⟩
  | none =>
      rw [hl] at h
      refine ⟨tokens, ?_, h⟩
      unfold readLanguage
      split
      · cases hs : directive.selection with
        | whole => simp [hs, Selection.arguments] at h
        | line _ => simp [hs, Selection.arguments] at h
        | range _ _ => simp [hs, Selection.arguments] at h
      · rfl

theorem ofArguments_eq_ok_iff {reference : Text} {tokens : List PlacedToken}
    {directive : Directive} :
    ofArguments reference tokens = .ok directive ↔
      directive.reference = reference ∧ directive.HasLanguage ∧
        ∃ more, tokens.map PlacedToken.token = directive.arguments ++ .closeParen :: more := by
  constructor
  · intro h
    unfold ofArguments at h
    split at h
    next language rest hl =>
      split at h
      · cases h
      · next selection below hs =>
          split at h
          · cases h
          · next hc =>
              obtain ⟨rfl, hlang⟩ := checkLanguage_eq_ok_iff.mp h
              obtain ⟨more, hm⟩ := exists_of_readClose hc
              refine ⟨rfl, hlang, more, ?_⟩
              rw [map_token_of_readLanguage hl, arguments_of_readSelection hs, hm]
              simp [arguments]
  · rintro ⟨rfl, hlang, more, hm⟩
    obtain ⟨rest, hl, hrest⟩ := readLanguage_of_arguments hm
    obtain ⟨below, hs, hc⟩ := readSelection_of_arguments hrest
    simp only [ofArguments, hl, hs, hc]
    exact checkLanguage_eq_ok_iff.mpr ⟨rfl, hlang⟩

/-- The parser accepts the tokens of a directive, and no others. -/
theorem ofTokens_eq_ok_iff {tokens : List PlacedToken} {directive : Directive} :
    ofTokens tokens = .ok directive ↔
      directive.reference ≠ [] ∧ directive.HasLanguage ∧
        ∃ more, tokens.map PlacedToken.token =
          .openParen :: .reference directive.reference :: (directive.arguments ++ .closeParen :: more) := by
  constructor
  · intro h
    unfold ofTokens at h
    split at h
    · split at h
      · cases h
      · next hne =>
          obtain ⟨rfl, hlang, more, hm⟩ := ofArguments_eq_ok_iff.mp h
          exact ⟨by simpa using hne, hlang, more, by simp [hm]⟩
    · cases h
    · cases h
  · rintro ⟨hne, hlang, more, hm⟩
    obtain ⟨⟨_, s, e⟩, tail, rfl, rfl, h₁⟩ := List.map_eq_cons_iff.mp hm
    obtain ⟨⟨_, s', e'⟩, rest, rfl, rfl, h₂⟩ := List.map_eq_cons_iff.mp h₁
    simp only [ofTokens, List.isEmpty_iff, hne, if_false]
    exact ofArguments_eq_ok_iff.mpr ⟨rfl, hlang, more, h₂⟩

/-- The reference and the arguments of a directive are those of the tokens that it was read off. -/
theorem eq_of_ofTokens {tokens : List PlacedToken} {directive : Directive} {reference : Text}
    {args : List Token} (h : ofTokens tokens = .ok directive)
    (hm : tokens.map PlacedToken.token = .openParen :: .reference reference :: (args ++ [.closeParen]))
    (hargs : .closeParen ∉ args) :
    directive.reference = reference ∧ directive.arguments = args := by
  obtain ⟨_, _, more, he⟩ := ofTokens_eq_ok_iff.mp h
  rw [hm] at he
  simp only [List.cons.injEq, Token.reference.injEq, true_and] at he
  obtain ⟨rfl, he⟩ := he
  obtain ⟨rfl, _, _⟩ := (List.append_cons_inj_of_notMem hargs List.not_mem_nil).mp he
  exact ⟨rfl, rfl⟩

theorem reference_ne_nil_of_ofCommand {command : Text} {directive : Directive}
    (h : ofCommand command = .ok directive) : directive.reference ≠ [] := by
  unfold ofCommand at h
  split at h
  · cases h
  · exact (ofTokens_eq_ok_iff.mp h).1

theorem hasLanguage_of_ofCommand {command : Text} {directive : Directive}
    (h : ofCommand command = .ok directive) : directive.HasLanguage := by
  unfold ofCommand at h
  split at h
  · cases h
  · exact (ofTokens_eq_ok_iff.mp h).2.1

/-! ## Commands that are not read to their end -/

theorem readPattern_ne_endless (tokens : List PlacedToken) : readPattern tokens ≠ .error .endless := by
  unfold readPattern
  split
  · split <;> nofun
  · nofun

theorem readSelection_ne_endless (tokens : List PlacedToken) :
    readSelection tokens ≠ .error .endless := by
  unfold readSelection
  split
  · next fault he =>
      rintro ⟨⟩
      exact readPattern_ne_endless _ he
  · unfold readEnd
    split
    · next fault he =>
        rintro ⟨⟩
        exact readPattern_ne_endless _ he
    · nofun
    · nofun
    · nofun
  · nofun
  · nofun

theorem ofTokens_ne_endless (tokens : List PlacedToken) : ofTokens tokens ≠ .error .endless := by
  have hclose : ∀ rest, readClose rest ≠ .error .endless := by
    intro rest
    unfold readClose
    split <;> nofun
  unfold ofTokens
  split
  · split
    · nofun
    · unfold ofArguments
      simp only
      split
      · next fault he =>
          rintro ⟨⟩
          exact readSelection_ne_endless _ he
      · split
        · next fault he =>
            rintro ⟨⟩
            exact hclose _ he
        · unfold checkLanguage
          split <;> nofun
  · nofun
  · nofun

/-- There is an answer for a command, a directive or a fault, if and only if its tokens are read to their
end. -/
theorem ofCommand_eq_endless_iff {command : Text} :
    ofCommand command = .error .endless ↔ ¬ Command.Halts command := by
  rw [Command.Halts, ne_eq, not_not, ofCommand]
  cases Command.tokens command with
  | error fault => simp
  | ok placed => simp [ofTokens_ne_endless]

end Directive

end Transclude
