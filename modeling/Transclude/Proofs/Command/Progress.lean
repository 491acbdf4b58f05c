import Transclude.Proofs.Command.Ending

/-!
# Progress of the reading

The reading of a command may be seen as a loop over a list of lexemes that is cut from the whole
command beforehand. A lexeme that runs past the end of a reference is cut, and the lexemes behind it
are replaced by those of its rest and of all that follows, so the list may grow while the loop runs
and its length bounds nothing. `Walk.run` is that loop, which adds to a reference whatever belongs to
it of a lexeme, be it nothing; nothing in its form makes it end. The commands over which it runs for
ever are those whose reading has no answer (`Walk.run_eq_none_iff`). If all blanks of a command are
separators, every pass leaves at least one character behind, and the loop ends within as many passes as
the command has characters (`Walk.run_begin`).
-/

namespace Transclude

namespace Command

open Lexeme

/-! ## The loop -/

/-- The lexemes of a text. -/
def lexemes (input : Text) : List Lexeme :=
  match input with
  | [] => []
  | c :: rest => (next c rest).1 :: lexemes (next c rest).2
termination_by input.length
decreasing_by exact length_next_lt c rest

/-- Whether a lexeme is added to the reference that is being read. -/
def isExtendedBy (collected : Text) : Lexeme → Bool
  | .blank _ | .openParen | .closeParen => false
  | .quoted _ => !collected.isEmpty
  | _ => true

/-- Adds to a reference the part of a lexeme that belongs to it, be it nothing, and gives the rest
back. -/
def cutReference (collected : Text) (lexeme : Lexeme) : Step :=
  ⟨[], .reference (collected ++ lexeme.text.takeWhile isPlain), lexeme.text.dropWhile isPlain⟩

/-- Reads the lexeme found at byte `start` in a context, and cuts it even if nothing of it is added. -/
def Context.stepAnyway (start : Nat) (lexeme : Lexeme) : Context → Except CommandFault Step
  | .reference collected =>
    if isExtendedBy collected lexeme then .ok (cutReference collected lexeme)
    else stepReference start collected lexeme
  | context => context.step start lexeme

/-- Where the loop stands: the context, the byte at which the next lexeme starts, and the lexemes
that are left. -/
structure Walk where
  context : Context
  start : Nat
  lexemes : List Lexeme

namespace Walk

/-- The loop before its first pass. -/
def begin (command : Text) : Walk := ⟨.outside, 0, Command.lexemes command⟩

/-- The characters of the command that are left. -/
def text (walk : Walk) : Text := walk.lexemes.flatMap Lexeme.text

/-- One pass of the loop: the tokens read from a lexeme, and where the loop stands next. If part of
the lexeme was given back, that part and what follows are cut into lexemes anew. -/
def pass (context : Context) (start : Nat) (lexeme : Lexeme) (more : List Lexeme) :
    Except CommandFault (List PlacedToken × Walk) :=
  (context.stepAnyway start lexeme).map fun s =>
    (s.tokens, ⟨s.context, start + Text.utf8Size lexeme.text - Text.utf8Size s.back,
      if s.back.isEmpty then more else Command.lexemes (s.back ++ more.flatMap Lexeme.text)⟩)

/-- What the loop comes to, if it ends within `n` passes. -/
def run : Nat → Walk → Option (Except CommandFault (List PlacedToken))
  | _, ⟨context, _, []⟩ => some (context.finish.map fun _ => [])
  | 0, ⟨_, _, _ :: _⟩ => none
  | n + 1, ⟨context, start, lexeme :: more⟩ =>
    match pass context start lexeme more with
    | .error fault => some (.error fault)
    | .ok (read, walk) => (run n walk).map fun result => result.map (read ++ ·)

/-- The loop over a command comes to stand there. -/
inductive Comes (command : Text) : Walk → Prop
  | begin : Comes command (begin command)
  | pass {context : Context} {start : Nat} {lexeme : Lexeme} {more : List Lexeme}
      {read : List PlacedToken} {walk : Walk} (hw : Comes command ⟨context, start, lexeme :: more⟩)
      (h : pass context start lexeme more = .ok (read, walk)) : Comes command walk

end Walk

/-! ## Lexemes of a text -/

theorem flatMap_text_lexemes (input : Text) : (lexemes input).flatMap Lexeme.text = input := by
  fun_induction lexemes input with
  | case1 => rfl
  | case2 c rest ih => rw [List.flatMap_cons, ih, text_append_next]

/-! ## Steps of the loop -/

theorem stepReference_of_isExtendedBy {start : Nat} {collected : Text} {lexeme : Lexeme}
    (h : isExtendedBy collected lexeme = true) :
    stepReference start collected lexeme = extendReference collected lexeme := by
  cases lexeme with
  | openParen | closeParen | blank _ => cases h
  | quoted body =>
      cases collected with
      | nil => cases h
      | cons d collected => rfl
  | dollar | pattern _ | openPattern _ | word _ | stray _ => cases collected <;> rfl

/-- Where the reading goes on, the loop does the same. -/
theorem stepAnyway_of_ne {context : Context} {start : Nat} {lexeme : Lexeme}
    (h : context.step start lexeme ≠ .error .endless) :
    context.stepAnyway start lexeme = context.step start lexeme := by
  cases context with
  | outside | arguments | closed => rfl
  | reference collected =>
      simp only [Context.stepAnyway, Context.step] at h ⊢
      split
      · next hext =>
          rw [stepReference_of_isExtendedBy hext] at h ⊢
          unfold extendReference at h ⊢
          by_cases hk : (lexeme.text.takeWhile isPlain).isEmpty = true
          · simp [hk] at h
          · simp [hk, cutReference]
      · rfl

/-- Where the reading never ends, the loop gives the whole lexeme back. -/
theorem stepAnyway_of_endless {context : Context} {start : Nat} {c : Char} {lexeme : Lexeme}
    (hb : Begins c lexeme) (h : context.step start lexeme = .error .endless) :
    context.stepAnyway start lexeme = .ok ⟨[], context, lexeme.text⟩ := by
  obtain ⟨⟨collected, rfl⟩, hblank, hs⟩ := Context.of_step_endless hb h
  have hplain : isPlain c = false := isPlain_eq_false_iff.mpr (Or.inl hblank)
  cases hb with
  | stray _ _ =>
      simp [Context.stepAnyway, isExtendedBy, cutReference, Lexeme.text, hplain]
  | blank hsep => rw [hsep] at hs; cases hs
  | word hw => rw [hw.isPlain c (by simp)] at hplain; cases hplain
  | openParen | closeParen | dollar | pattern _ | openPattern | quoted | openQuote =>
      exact absurd hblank (by decide)

/-- Before what a step gives back, at least one character is read for good. -/
theorem exists_taken_of_step {context : Context} {start : Nat} {c : Char} {rest : Text} {s : Step}
    (h : context.step start (next c rest).1 = .ok s) :
    ∃ taken, taken ≠ [] ∧ (next c rest).1.text = taken ++ s.back ∧
      c :: rest = taken ++ (s.back ++ (next c rest).2) := by
  obtain ⟨taken, htext⟩ := Context.isSuffix_back h
  refine ⟨taken, ?_, htext.symm, ?_⟩
  · rintro rfl
    have hlt := Context.length_back_lt (text_next_ne_nil c rest) h
    rw [← htext, List.nil_append] at hlt
    exact Nat.lt_irrefl _ hlt
  · rw [← List.append_assoc, htext, text_append_next]

namespace Walk

/-! ## Passes and runs -/

/-- The next lexemes are those of what is given back and what follows, whether they were kept or cut
anew. -/
theorem pass_next {context : Context} {start : Nat} {c : Char} {rest : Text}
    (h : context.step start (next c rest).1 ≠ .error .endless) :
    pass context start (next c rest).1 (Command.lexemes (next c rest).2) =
      (context.step start (next c rest).1).map fun s =>
        (s.tokens, ⟨s.context, start + Text.utf8Size (next c rest).1.text - Text.utf8Size s.back,
          Command.lexemes (s.back ++ (next c rest).2)⟩) := by
  rw [pass, stepAnyway_of_ne h, flatMap_text_lexemes]
  congr 1
  funext s
  cases hback : s.back <;> simp

/-- Where the reading never ends, the next pass is the same one again. -/
theorem pass_of_endless {context : Context} {start : Nat} {c : Char} {rest : Text}
    (h : context.step start (next c rest).1 = .error .endless) :
    pass context start (next c rest).1 (Command.lexemes (next c rest).2) =
      .ok ([], ⟨context, start, Command.lexemes (c :: rest)⟩) := by
  have hne : (next c rest).1.text.isEmpty = false := by simpa using text_next_ne_nil c rest
  rw [pass, stepAnyway_of_endless (begins_next c rest) h, flatMap_text_lexemes]
  simp [Except.map, hne, text_append_next]

/-- A pass reads at least one character for good. -/
theorem exists_taken_of_pass {context : Context} {start : Nat} {input : Text} {lexeme : Lexeme}
    {more : List Lexeme} {read : List PlacedToken} {walk : Walk} (hi : OnlySeparators input)
    (hl : Command.lexemes input = lexeme :: more) (h : pass context start lexeme more = .ok (read, walk)) :
    ∃ taken left, taken ≠ [] ∧ input = taken ++ left ∧ walk.lexemes = Command.lexemes left ∧
      walk.start = start + Text.utf8Size taken := by
  cases input with
  | nil => rw [Command.lexemes] at hl; cases hl
  | cons c rest =>
      rw [Command.lexemes, List.cons.injEq] at hl
      obtain ⟨rfl, rfl⟩ := hl
      rw [pass_next (hi.step_ne_endless context start)] at h
      obtain ⟨s, hs, he⟩ := exists_of_map_eq_ok h
      obtain ⟨-, rfl⟩ := Prod.mk.inj he
      obtain ⟨taken, htaken, htext, hinput⟩ := exists_taken_of_step hs
      refine ⟨taken, s.back ++ (next c rest).2, htaken, hinput, rfl, ?_⟩
      simp only [htext, Text.utf8Size_append]
      omega

/-- Wherever the loop stands, the lexemes that are left are those of what it has not read. -/
theorem Comes.exists_lexemes_eq {command : Text} {walk : Walk} (hb : OnlySeparators command)
    (h : Comes command walk) :
    ∃ before input, command = before ++ input ∧ walk.lexemes = Command.lexemes input ∧
      walk.start = Text.utf8Size before := by
  induction h with
  | begin => exact ⟨[], command, rfl, rfl, rfl⟩
  | pass hw h ih =>
      obtain ⟨before, input, rfl, hl, rfl⟩ := ih
      obtain ⟨taken, left, -, rfl, hleft, hstart⟩ :=
        exists_taken_of_pass (hb.of_isSuffix (List.suffix_append before input)) hl.symm h
      exact ⟨before ++ taken, left, by simp, hleft, by rw [hstart, Text.utf8Size_append]⟩

/-- As many passes as there are characters left are enough for a reading that ends, and they read what it
reads. -/
theorem run_lexemes {context : Context} {start : Nat} {input : Text}
    (h : tokensFrom context start input ≠ .error .endless) {n : Nat} (hn : input.length ≤ n) :
    run n ⟨context, start, Command.lexemes input⟩ = some (tokensFrom context start input) := by
  induction n generalizing context start input with
  | zero =>
      obtain rfl := List.eq_nil_of_length_eq_zero (Nat.le_zero.mp hn)
      rw [Command.lexemes, run, tokensFrom]
  | succ n ih =>
    cases input with
    | nil => rw [Command.lexemes, run, tokensFrom]
    | cons c rest =>
        have hstep : context.step start (next c rest).1 ≠ .error .endless :=
          fun hs => h (tokensFrom_cons_error hs)
        rw [Command.lexemes, run, pass_next hstep]
        cases hs : context.step start (next c rest).1 with
        | error fault => rw [tokensFrom_cons_error hs]; rfl
        | ok s =>
            obtain ⟨taken, htaken, -, hinput⟩ := exists_taken_of_step hs
            have hlen : (s.back ++ (next c rest).2).length ≤ n := by
              have := congrArg List.length hinput
              have := List.length_pos_iff.mpr htaken
              simp only [List.length_append, List.length_cons] at *
              omega
            rw [tokensFrom_cons hs] at h ⊢
            rw [Ne, map_eq_error_iff] at h
            simp only [Except.map, ih h hlen, Option.map_some]

/-- No number of passes is enough for a reading that never ends. -/
theorem run_of_endless {context : Context} {start : Nat} {input : Text}
    (h : tokensFrom context start input = .error .endless) (n : Nat) :
    run n ⟨context, start, Command.lexemes input⟩ = none := by
  induction n generalizing context start input with
  | zero =>
    cases input with
    | nil =>
        rw [tokensFrom] at h
        cases context <;> cases h
    | cons c rest => rw [Command.lexemes, run]
  | succ n ih =>
    cases input with
    | nil =>
        rw [tokensFrom] at h
        cases context <;> cases h
    | cons c rest =>
        rw [Command.lexemes, run]
        cases hs : context.step start (next c rest).1 with
        | error fault =>
            have hfault := h
            rw [tokensFrom_cons_error hs] at hfault
            cases hfault
            simp only [pass_of_endless hs, ih h, Option.map_none]
        | ok s =>
            rw [tokensFrom_cons hs, map_eq_error_iff] at h
            rw [pass_next (by simp [hs]), hs]
            simp only [Except.map, ih h, Option.map_none]

/-- A blank that separates nothing is cut off a reference again and again. -/
theorem run_eq_none {c : Char} (hb : Text.isBlank c = true) (hs : isSeparator c = false)
    (collected : Text) (start n : Nat) (rest : Text) :
    run n ⟨.reference collected, start, Command.lexemes (c :: rest)⟩ = none :=
  run_of_endless (tokensFrom_reference_blank hb hs collected start rest) n

/-! ## Whole commands -/

/-- If all blanks of a command are separators, the loop over its lexemes ends within as many passes as
the command has characters, with what the reader reads, and each of its passes that does not end it
reads at least one further character for good. -/
theorem run_begin {command : Text} (h : OnlySeparators command) :
    run command.length (begin command) = some (tokens command) ∧
      ∀ context start lexeme more read walk, Comes command ⟨context, start, lexeme :: more⟩ →
        pass context start lexeme more = .ok (read, walk) →
        ∃ before taken, taken ≠ [] ∧ command = before ++ (taken ++ walk.text) ∧
          start = Text.utf8Size before ∧ walk.start = start + Text.utf8Size taken := by
  refine ⟨run_lexemes h.halts (Nat.le_refl _), ?_⟩
  intro context start lexeme more read walk hw hpass
  obtain ⟨before, input, rfl, hl, hstart⟩ := hw.exists_lexemes_eq h
  obtain ⟨taken, left, htaken, rfl, hleft, hstop⟩ :=
    exists_taken_of_pass (h.of_isSuffix (List.suffix_append before input)) hl.symm hpass
  refine ⟨before, taken, htaken, ?_, hstart, hstop⟩
  rw [text, hleft, flatMap_text_lexemes]

/-- One lexeme holds the reference, the word behind it and the closing parenthesis; when it is cut,
three take its place. -/
theorem run_begin_longer :
    let command := " (/hello.go go)".toList
    let long := Lexeme.openPattern "hello.go go)".toList
    let cut : Walk := ⟨.reference "/hello.go".toList, 11, [.blank [' '], .word ['g', 'o'], .closeParen]⟩
    OnlySeparators command ∧ run 15 (begin command) = some (tokens command) ∧
      Comes command ⟨.reference [], 2, [long]⟩ ∧ pass (.reference []) 2 long [] = .ok ([], cut) ∧
      ∃ before taken, taken ≠ [] ∧ command = before ++ (taken ++ " go)".toList) ∧
        2 = Text.utf8Size before ∧ 11 = 2 + Text.utf8Size taken := by
  intro command long cut
  have hseparators : OnlySeparators command := by decide
  have hlexemes : Command.lexemes command = [.blank [' '], .openParen, long] := by decide +kernel
  have hbegin : Comes command ⟨.outside, 0, [.blank [' '], .openParen, long]⟩ :=
    hlexemes ▸ Comes.begin
  have hcomes : Comes command ⟨.reference [], 2, [long]⟩ := (hbegin.pass rfl).pass rfl
  have hback : Command.lexemes " go)".toList = cut.lexemes := by decide +kernel
  have hpass : pass (.reference []) 2 long [] = .ok ([], cut) := by
    rw [show cut = ⟨cut.context, cut.start, Command.lexemes " go)".toList⟩ by rw [hback]]
    rfl
  obtain ⟨hrun, hprogress⟩ := run_begin hseparators
  exact ⟨hseparators, hrun, hcomes, hpass, hprogress _ _ _ _ _ _ hcomes hpass⟩

end Walk

end Command

end Transclude
