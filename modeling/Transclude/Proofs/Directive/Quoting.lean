import Transclude.Proofs.Command.Quoted
import Transclude.Proofs.Directive.RoundTrip

/-!
# Directives with a reference in quotes

A command can have in quotes what a reference without quotes cannot hold: blanks and parentheses.
A reference is written in quotes only for its blanks, and read back from there only if no character
of it had to be escaped. So a directive that was read off a command with quotes is read again off its
own writing under one of two conditions, depending on its blanks (`ofCommand_text_iff_of_quoted`).
-/

namespace Transclude.Directive

open Lexeme Command

/-- The command has `body` in double quotes as its reference. -/
structure IsQuoted (command : Text) (body : Text) : Prop where
  isQuotedBody : IsQuotedBody body
  eq_append : ∃ before between rest,
    command = before ++ '(' :: (between ++ '"' :: (body ++ '"' :: rest)) ∧
    (∀ c ∈ before, Text.isBlank c = true) ∧ ∀ c ∈ between, Text.isBlank c = true

section Matching

variable [Matcher]

/-! ## What was read off quotes -/

/-- The parts of a directive that was read off a command with quotes. -/
theorem exists_of_ofCommand_quoted {command body : Text} {directive : Directive}
    (h : ofCommand command = .ok directive) (hq : IsQuoted command body) :
    Quoted.value body = .ok directive.reference ∧ directive.reference ≠ [] ∧
      directive.HasLanguage ∧ ∀ t ∈ directive.arguments, t.IsArgument := by
  obtain ⟨before, between, rest, rfl, hbefore, hbetween⟩ := hq.eq_append
  unfold ofCommand at h
  split at h
  · cases h
  next placed hplaced =>
    obtain ⟨blanks, rest', begun, below, he, hb, hbelow, hopen⟩ :=
      exists_of_tokensFrom_outside hplaced
    -- The first character of the command that is not blank is the parenthesis in both splits.
    have hopen' : Text.isBlank '(' = false := by decide
    have htrim := congrArg Text.trimStart he
    rw [Text.trimStart_blanks_append hbefore hopen',
      Text.trimStart_blanks_append (fun c hc => isBlank_of_isSeparator (hb c hc)) hopen'] at htrim
    obtain rfl := (List.cons.inj htrim).2
    obtain ⟨start, hbelow⟩ := exists_tokensFrom_trimStart hbelow
    rw [Text.trimStart_blanks_append hbetween (show Text.isBlank '"' = false by decide),
      tokensFrom_quoted start hq.isQuotedBody] at hbelow
    split at hbelow
    · next value hv =>
        obtain ⟨placed', hp, rfl⟩ := exists_of_map_eq_ok hbelow
        obtain ⟨args, hm, hall⟩ := arguments_of_tokensFrom hp
        have hclose : Token.closeParen ∉ args := fun hc => (hall _ hc).1
        have htokens : placed.map PlacedToken.token =
            .openParen :: .reference value :: (args ++ [.closeParen]) := by
          simp [hopen, hm, wholeToken]
        obtain ⟨rfl, rfl⟩ := eq_of_ofTokens h htokens hclose
        obtain ⟨hne, hlang, -⟩ := ofTokens_eq_ok_iff.mp h
        exact ⟨hv, hne, hlang, fun t ht => (hall t ht).1⟩
    · cases hbelow

/-! ## Writing it again -/

/-- A reference that is written in quotes is read again if and only if it is what the quotes hold. -/
theorem ofCommand_text_iff_value {directive : Directive}
    (hb : directive.reference.any Text.isBlank = true) (hlang : directive.HasLanguage)
    (hargs : ∀ t ∈ directive.arguments, t.IsArgument) :
    ofCommand directive.text = .ok directive ↔
      Quoted.value (Quoted.encode directive.reference) = .ok directive.reference := by
  have hne : directive.reference ≠ [] := by
    intro hn
    simp [hn] at hb
  have htext : directive.text = '(' :: '"' :: (Quoted.encode directive.reference ++
      '"' :: (directive.arguments.flatMap (fun t => ' ' :: t.text) ++ [')'])) := by
    simp [text_eq, referenceText, hb]
  rw [htext, ofCommand, Command.tokens, tokensFrom_openParen,
    tokensFrom_quoted _ (Quoted.isQuotedBody_encode _)]
  cases hv : Quoted.value (Quoted.encode directive.reference) with
  | error fault => simp [Except.map]
  | ok value =>
      obtain ⟨placed, hp, hm⟩ := tokensFrom_flatMap_text
        (0 + 1 + Text.utf8Size ('"' :: Quoted.encode directive.reference ++ ['"'])) hargs
        (List.forall_mem_nil (isSeparator · = true))
      simp only [hp, Except.map, Except.ok.injEq]
      constructor
      · intro h
        have hclose : Token.closeParen ∉ directive.arguments := fun hc => hargs _ hc
        exact (eq_of_ofTokens h (by simp [hm, wholeToken]) hclose).1.symm
      · rintro rfl
        exact ofTokens_eq_ok_iff.mpr ⟨hne, hlang, [], by simp [hm, wholeToken]⟩

/-- A reference without blanks is written without quotes, and so it is read again if and only if it
has no parentheses. -/
theorem ofCommand_text_iff_parens {directive : Directive}
    (hb : directive.reference.any Text.isBlank = false) (hne : directive.reference ≠ [])
    (hquote : directive.reference.head? ≠ some '"') (hlang : directive.HasLanguage)
    (hargs : ∀ t ∈ directive.arguments, t.IsArgument) :
    ofCommand directive.text = .ok directive ↔
      '(' ∉ directive.reference ∧ ')' ∉ directive.reference := by
  have hblank : ∀ c ∈ directive.reference, Text.isBlank c = false := by
    simpa using hb
  constructor
  · intro h
    have hq : quotesReference directive.text = false := by
      obtain ⟨c, r, hr⟩ := List.exists_cons_of_ne_nil hne
      rw [hr] at hblank hquote
      have hopen : ∀ t, Text.trimStart ('(' :: t) = '(' :: t :=
        Text.trimStart_append_cons (by decide) []
      have hstart : ∀ t, Text.trimStart (c :: t) = c :: t :=
        Text.trimStart_append_cons (hblank c (by simp)) []
      rw [text_eq, referenceText, hb, quotesReference, hopen, hr]
      simpa [hstart] using hquote
    have hplain := (isReadable_of_ofCommand h hq).1.isPlain
    exact ⟨fun hm => absurd (hplain _ hm) (by decide), fun hm => absurd (hplain _ hm) (by decide)⟩
  · rintro ⟨hopen, hclose⟩
    have hplain : ∀ c ∈ directive.reference, Lexeme.isPlain c = true := by
      intro c hc
      refine isPlain_iff.mpr ⟨hblank c hc, ?_, ?_⟩
      · rintro rfl; exact hopen hc
      · rintro rfl; exact hclose hc
    have hreadable : directive.IsReadable := ⟨hne, hplain, hquote, hargs, hlang⟩
    have h := hreadable.ofCommand_text (List.forall_mem_nil _) (List.forall_mem_nil _)
    rwa [List.nil_append, List.append_nil] at h

/-- A directive that was read off a command with quotes is read again off the command that writes it
if and only if its reference has blanks and no character to escape, or no blanks and no
parentheses. -/
theorem ofCommand_text_iff_of_quoted {command body : Text} {directive : Directive}
    (h : ofCommand command = .ok directive) (hq : IsQuoted command body) :
    ofCommand directive.text = .ok directive ↔
      if directive.reference.any Text.isBlank then
        '\\' ∉ directive.reference ∧ '"' ∉ directive.reference
      else '(' ∉ directive.reference ∧ ')' ∉ directive.reference := by
  obtain ⟨hv, hne, hlang, hargs⟩ := exists_of_ofCommand_quoted h hq
  split
  · next hb =>
      rw [ofCommand_text_iff_value hb hlang hargs]
      exact Quoted.value_encode_eq_ok_iff
  · next hb =>
      exact ofCommand_text_iff_parens (by simpa using hb) hne
        (Quoted.head?_ne_of_value hq.isQuotedBody hv) hlang hargs

end Matching

theorem ofCommand_text_iff_of_quoted_parens :
    let command := "(\"a(b).go\")".toList
    ∃ directive, ofCommand command = .ok directive ∧ directive.text = "(a(b).go)".toList ∧
      ofCommand directive.text ≠ .ok directive := by
  intro command
  have htext : (ofCommand command).map (fun d => (d.text, d.reference)) =
      .ok ("(a(b).go)".toList, "a(b).go".toList) := by decide +kernel
  obtain ⟨directive, h, he⟩ := exists_of_map_eq_ok htext
  have hbody : IsQuotedBody "a(b).go".toList := Quoted.isQuotedBody_encode "a(b).go".toList
  have hq : IsQuoted command "a(b).go".toList := ⟨hbody, [], [], [')'], rfl, by simp, by simp⟩
  refine ⟨directive, h, congrArg Prod.fst he, fun hagain => ?_⟩
  have hparens := (ofCommand_text_iff_of_quoted h hq).mp hagain
  rw [show directive.reference = "a(b).go".toList from congrArg Prod.snd he] at hparens
  revert hparens
  decide +kernel

end Transclude.Directive
