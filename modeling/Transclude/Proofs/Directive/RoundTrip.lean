import Transclude.Proofs.Directive.Grammar
import Transclude.Proofs.Text.Lines

/-!
# Directives written and read

The command that writes a directive is read as it again (`ofCommand_text`), if the reference needs no
quotes. A command whose reference stands without quotes gives such a directive
(`isReadable_of_ofCommand`), and so what is read off it is what is read off its own writing
(`ofCommand_text_of_unquoted`).
-/

namespace Transclude.Directive

open Lexeme Command

/-! ## Reading up to the arguments -/

/-- Whether the command has its reference in quotes: whether the first character after the opening
parenthesis, blanks apart, is a quote. -/
def quotesReference (command : Text) : Bool :=
  match Text.trimStart command with
  | '(' :: rest => (Text.trimStart rest).head? == some '"'
  | _ => false

theorem referenceText_of_isPlain {reference : Text} (h : ∀ c ∈ reference, Lexeme.isPlain c = true) :
    referenceText reference = reference := by
  have hb : reference.any Text.isBlank = false := by
    rw [List.any_eq_false]
    intro c hc
    simp [(isPlain_iff.mp (h c hc)).1]
  simp [referenceText, hb]

theorem tokensFrom_outside_separators {start : Nat} {blanks rest : Text}
    (h : ∀ c ∈ blanks, isSeparator c = true) :
    tokensFrom .outside start (blanks ++ '(' :: rest) =
      tokensFrom .outside (start + Text.utf8Size blanks) ('(' :: rest) := by
  cases blanks with
  | nil => simp
  | cons c blanks =>
      have hb : ∀ d ∈ blanks, isSeparator d = true := fun d hd => h d (by simp [hd])
      have hn : next c (blanks ++ '(' :: rest) = (.blank (c :: blanks), '(' :: rest) := by
        rw [next_separator (h c (by simp)), List.takeWhile_append_of_pos hb,
          List.dropWhile_append_of_pos hb]
        simp [isSeparator]
      rw [List.cons_append, tokensFrom_cons (show Context.step _ _ .outside = _ by rw [hn]; rfl)]
      simp only [hn, Lexeme.text, List.nil_append]
      exact congrFun Except.map_id _

theorem tokensFrom_openParen (start : Nat) (rest : Text) :
    tokensFrom .outside start ('(' :: rest) =
      (tokensFrom (.reference []) (start + 1) rest).map (⟨.openParen, start, start + 1⟩ :: ·) := by
  rw [tokensFrom_cons (show Context.step _ _ .outside = _ from rfl)]
  rfl

theorem exists_of_tokensFrom_outside {start : Nat} {input : Text} {placed : List PlacedToken}
    (h : tokensFrom .outside start input = .ok placed) :
    ∃ blanks rest begun below, input = blanks ++ '(' :: rest ∧
      (∀ c ∈ blanks, isSeparator c = true) ∧ tokensFrom (.reference []) begun rest = .ok below ∧
      placed.map PlacedToken.token = .openParen :: below.map PlacedToken.token := by
  induction hn : input.length using Nat.strong_induction_on generalizing start input placed with
  | _ n ih =>
    cases input with
    | nil => simp [tokensFrom, Context.finish, Except.map] at h
    | cons c rest =>
        by_cases hsep : isSeparator c = true
        · have hnext := next_separator hsep rest
          rw [tokensFrom_cons (show Context.step _ _ .outside = _ by rw [hnext]; rfl)] at h
          obtain ⟨placed', hp, rfl⟩ := exists_of_map_eq_ok h
          rw [hnext, List.nil_append] at hp
          obtain ⟨blanks, rest', begun, below, he, hb, hr, ht⟩ :=
            ih _ (hn ▸ Nat.lt_succ_of_le (List.dropWhile_suffix isSeparator).length_le) hp rfl
          refine ⟨c :: rest.takeWhile isSeparator ++ blanks, rest', begun, below, ?_, ?_, hr, ht⟩
          · rw [List.append_assoc, ← he, List.cons_append, List.takeWhile_append_dropWhile]
          · intro d hd
            rcases List.mem_append.mp hd with hd | hd
            · rcases List.mem_cons.mp hd with rfl | hd
              · exact hsep
              · exact List.mem_takeWhile_imp hd
            · exact hb d hd
        by_cases hopen : c = '('
        · subst hopen
          rw [tokensFrom_openParen] at h
          obtain ⟨below, hp, rfl⟩ := exists_of_map_eq_ok h
          exact ⟨[], rest, _, below, rfl, by simp, hp, rfl⟩
        · have hs : ∃ fault, Context.step start (next c rest).1 .outside = .error fault := by
            generalize (next c rest).1 = lexeme, begins_next c rest = hb
            cases hb with
            | openParen => exact absurd rfl hopen
            | blank hs => exact absurd hs hsep
            | _ => exact ⟨_, rfl⟩
          obtain ⟨fault, hs⟩ := hs
          rw [tokensFrom_cons_error hs] at h
          cases h

theorem trimStart_dropWhile_isSeparator (t : Text) :
    Text.trimStart (t.dropWhile isSeparator) = Text.trimStart t := by
  induction t with
  | nil => rfl
  | cons c t ih =>
      by_cases hc : isSeparator c = true
      · rw [List.dropWhile_cons_of_pos hc, ih]
        exact (List.dropWhile_cons_of_pos (isBlank_of_isSeparator hc)).symm
      · rw [List.dropWhile_cons_of_neg hc]

/-- Blanks before a reference are skipped. -/
theorem exists_tokensFrom_trimStart {start : Nat} {input : Text} {placed : List PlacedToken}
    (h : tokensFrom (.reference []) start input = .ok placed) :
    ∃ start', tokensFrom (.reference []) start' (Text.trimStart input) = .ok placed := by
  induction hn : input.length using Nat.strong_induction_on generalizing start input placed with
  | _ n ih =>
    cases input with
    | nil => exact ⟨start, h⟩
    | cons c rest =>
        by_cases hplain : Text.isBlank c = false
        · have htrim : Text.trimStart (c :: rest) = c :: rest :=
            List.dropWhile_cons_of_neg (by simp [hplain])
          exact ⟨start, by rwa [htrim]⟩
        have hb : Text.isBlank c = true := by simpa using hplain
        have htrim : Text.trimStart (c :: rest) = Text.trimStart rest :=
          List.dropWhile_cons_of_pos hb
        by_cases hsep : isSeparator c = true
        · have hnext := next_separator hsep rest
          rw [tokensFrom_cons (show Context.step _ _ (.reference []) = _ by rw [hnext]; rfl)] at h
          obtain ⟨placed', hp, rfl⟩ := exists_of_map_eq_ok h
          rw [hnext, List.nil_append] at hp
          rw [htrim, ← trimStart_dropWhile_isSeparator]
          exact ih _ (hn ▸ Nat.lt_succ_of_le (List.dropWhile_suffix isSeparator).length_le) hp rfl
        · rw [tokensFrom_reference_blank hb (by simpa using hsep)] at h
          cases h

/-- What follows the opening parenthesis of a command whose reference stands without quotes. -/
theorem exists_of_tokensFrom_reference {start : Nat} {input : Text} {placed : List PlacedToken}
    (h : tokensFrom (.reference []) start input = .ok placed)
    (hq : (Text.trimStart input).head? ≠ some '"') :
    ∃ r args, r ≠ [] ∧ (∀ c ∈ r, Lexeme.isPlain c = true) ∧ r.head? ≠ some '"' ∧ r <:+: input ∧
      placed.map PlacedToken.token = .reference r :: (args ++ [.closeParen]) ∧
      ∀ t ∈ args, t.IsArgument ∧ t.text <:+: input := by
  obtain ⟨start', h⟩ := exists_tokensFrom_trimStart h
  have hinput : Text.trimStart input <:+: input := (List.dropWhile_suffix Text.isBlank).isInfix
  have hblank := List.head?_dropWhile_not Text.isBlank input
  cases ht : Text.trimStart input with
  | nil => simp [ht, tokensFrom, Context.finish, Except.map] at h
  | cons c rest =>
      have hb : Text.isBlank c = false := by
        rw [show input.dropWhile Text.isBlank = c :: rest from ht] at hblank
        simpa using hblank
      rw [ht] at h hq hinput
      by_cases hc : Lexeme.isPlain c = true
      · have hplain : ∀ d ∈ (c :: rest).takeWhile Lexeme.isPlain, Lexeme.isPlain d = true :=
          fun d hd => List.mem_takeWhile_imp hd
        have hhead : ((c :: rest).takeWhile Lexeme.isPlain).head? = some c := by simp [hc]
        have hne : (c :: rest).takeWhile Lexeme.isPlain ≠ [] := by simp [hc]
        have hquote : ((c :: rest).takeWhile Lexeme.isPlain).head? ≠ some '"' := hhead ▸ hq
        rw [← List.takeWhile_append_dropWhile (p := Lexeme.isPlain) (l := c :: rest),
          tokensFrom_reference hplain (stops_dropWhile _) fun _ => hquote, List.nil_append] at h
        have hends : Ends ((c :: rest).dropWhile Lexeme.isPlain) := ends_of_tokensFrom_reference
          (stops_dropWhile (c :: rest)) h
        rw [tokensFrom_reference_done hne hends] at h
        obtain ⟨placed', hp, rfl⟩ := exists_of_map_eq_ok h
        obtain ⟨args, hm, hall⟩ := arguments_of_tokensFrom hp
        have hsuffix := (List.dropWhile_suffix (l := c :: rest) Lexeme.isPlain).isInfix.trans hinput
        exact ⟨_, args, hne, hplain, hquote, (List.takeWhile_prefix _).isInfix.trans hinput,
          by simp [hm, referenceBefore],
          fun t ht => ⟨(hall t ht).1, (hall t ht).2.trans hsuffix⟩⟩
      · have hs : ∃ fault, Context.step start' (next c rest).1 (.reference []) = .error fault := by
          rcases isPlain_eq_false_iff.mp (by simpa using hc) with hb' | rfl | rfl
          · rw [hb] at hb'; cases hb'
          · exact ⟨_, rfl⟩
          · exact ⟨_, rfl⟩
        obtain ⟨fault, hs⟩ := hs
        rw [tokensFrom_cons_error hs] at h
        cases h

section Matching

variable [Matcher]

/-! ## Reading what was written -/

/-- A directive whose command shows the reference as it is. -/
structure IsReadable (directive : Directive) : Prop where
  reference_ne_nil : directive.reference ≠ []
  isPlain : ∀ c ∈ directive.reference, isPlain c = true
  head? : directive.reference.head? ≠ some '"'
  isArgument : ∀ t ∈ directive.arguments, t.IsArgument
  hasLanguage : directive.HasLanguage

theorem IsReadable.newline_not_mem_text {directive : Directive} (h : directive.IsReadable) :
    '\n' ∉ directive.text := by
  have hargs : '\n' ∉ directive.arguments.flatMap fun t => ' ' :: t.text := by
    intro hm
    obtain ⟨t, ht, hc⟩ := List.mem_flatMap.mp hm
    exact (h.isArgument t ht).newline_not_mem (by simpa using hc)
  rw [text_eq, referenceText_of_isPlain h.isPlain]
  simp [newline_not_mem_of_isPlain h.isPlain, hargs]

theorem IsReadable.tokens {directive : Directive} (h : directive.IsReadable) {before after : Text}
    (hb : ∀ c ∈ before, isSeparator c = true) (ha : ∀ c ∈ after, isSeparator c = true) :
    ∃ placed, Command.tokens (before ++ directive.text ++ after) = .ok placed ∧
      placed.map PlacedToken.token =
        .openParen :: .reference directive.reference :: (directive.arguments ++ [.closeParen]) := by
  have hs : Ends (directive.arguments.flatMap (fun t => ' ' :: t.text) ++ ')' :: after) := by
    cases directive.arguments with
    | nil => exact ends_closeParen _
    | cons _ _ => exact ends_space _
  have ht : before ++ directive.text ++ after = before ++ '(' :: (directive.reference ++
      (directive.arguments.flatMap (fun t => ' ' :: t.text) ++ ')' :: after)) := by
    simp [text_eq, referenceText_of_isPlain h.isPlain]
  rw [Command.tokens, ht, tokensFrom_outside_separators hb, tokensFrom_openParen,
    tokensFrom_reference h.isPlain hs.stops fun _ => h.head?, List.nil_append,
    tokensFrom_reference_done h.reference_ne_nil hs]
  obtain ⟨placed, hp, hm⟩ := tokensFrom_flatMap_text _ h.isArgument ha
  rw [hp]
  exact ⟨_, rfl, by simp [hm, referenceBefore]⟩

/-- The command that writes a directive is read as the directive. -/
theorem IsReadable.ofCommand_text {directive : Directive} (h : directive.IsReadable)
    {before after : Text} (hb : ∀ c ∈ before, isSeparator c = true)
    (ha : ∀ c ∈ after, isSeparator c = true) :
    ofCommand (before ++ directive.text ++ after) = .ok directive := by
  obtain ⟨placed, hp, hm⟩ := h.tokens hb ha
  simp only [ofCommand, hp]
  exact ofTokens_eq_ok_iff.mpr ⟨h.reference_ne_nil, h.hasLanguage, [], hm⟩

/-! ## Writing what was read -/

/-- A command whose reference stands without quotes gives a directive that can be written and read,
and the directive's reference and arguments stand in it. -/
theorem isReadable_of_ofCommand {command : Text} {directive : Directive}
    (h : ofCommand command = .ok directive) (hq : quotesReference command = false) :
    directive.IsReadable ∧ directive.reference <:+: command ∧
      ∀ t ∈ directive.arguments, t.text <:+: command := by
  unfold ofCommand at h
  split at h
  · cases h
  next placed hplaced =>
    obtain ⟨blanks, rest, begun, below, rfl, hb, hbelow, hopen⟩ := exists_of_tokensFrom_outside hplaced
    have hq' : (Text.trimStart rest).head? ≠ some '"' := by
      simpa [quotesReference, Text.trimStart_blanks_append (fun c hc => isBlank_of_isSeparator (hb c hc))
        (show Text.isBlank '(' = false by decide)] using hq
    obtain ⟨r, args, hne, hr, hhead, hin, hm, hall⟩ := exists_of_tokensFrom_reference hbelow hq'
    obtain ⟨_, hlang, -⟩ := ofTokens_eq_ok_iff.mp h
    have hsuffix : rest <:+: blanks ++ '(' :: rest :=
      ((List.suffix_cons '(' rest).trans (List.suffix_append blanks _)).isInfix
    have hclose : Token.closeParen ∉ args := fun hc => (hall _ hc).1
    obtain ⟨rfl, rfl⟩ := eq_of_ofTokens h (hopen.trans (congrArg (_ :: ·) hm)) hclose
    exact ⟨⟨hne, hr, hhead, fun t ht => (hall t ht).1, hlang⟩, hin.trans hsuffix,
      fun t ht => (hall t ht).2.trans hsuffix⟩

/-! ## Commands without quotes -/

/-- A directive that was read off a command without quotes is read again off the command that writes
it, however the first one was spaced. -/
theorem ofCommand_text_of_unquoted {command : Text} {directive : Directive}
    (h : ofCommand command = .ok directive) (hq : quotesReference command = false) :
    ofCommand directive.text = .ok directive := by
  obtain ⟨hreadable, -, -⟩ := isReadable_of_ofCommand h hq
  have hagain := hreadable.ofCommand_text (List.forall_mem_nil _) (List.forall_mem_nil _)
  rwa [List.nil_append, List.append_nil] at hagain

end Matching

theorem ofCommand_text_of_unquoted_slashes :
    let command := " (\t/a\"$.go go\t/x\\/ y//b.\\)\\\\/)\r\n".toList
    let again := "(/a\"$.go go /x\\/ y/ /b.\\)\\\\/)".toList
    quotesReference command = false ∧
      ∃ directive, ofCommand command = .ok directive ∧ directive.text = again ∧
        ofCommand again = .ok directive := by
  intro command again
  have hq : quotesReference command = false := by decide +kernel
  have htext : (ofCommand command).map text = .ok again := by decide +kernel
  obtain ⟨directive, h, ht⟩ := exists_of_map_eq_ok htext
  exact ⟨hq, directive, h, ht, ht ▸ ofCommand_text_of_unquoted h hq⟩

end Transclude.Directive
