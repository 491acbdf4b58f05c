import Transclude.Proofs.Command.Quoted

/-!
# Readings that end

The reading of a command ends unless it comes to a blank that separates nothing before the reference is
read (`tokensFrom_reference_blank`). A command all of whose blanks separate is read to its end
(`OnlySeparators.halts`), and so is one whose reference is followed by a separator or a parenthesis,
whatever stands behind that (`tokensFrom_reference_ne_endless`).
-/

namespace Transclude.Command

open Lexeme

variable {context : Context} {start : Nat} {input : Text}

/-- The reading of the command ends, with tokens or without. -/
def Halts (command : Text) : Prop := tokens command ≠ .error .endless

instance (command : Text) : Decidable (Halts command) :=
  inferInstanceAs (Decidable (¬ tokens command = .error .endless))

/-- All blanks of a text are among those that separate arguments. -/
def OnlySeparators (input : Text) : Prop := ∀ c ∈ input, Text.isBlank c = true → isSeparator c = true

instance (input : Text) : Decidable (OnlySeparators input) :=
  List.decidableBAll (fun c => Text.isBlank c = true → isSeparator c = true) input

theorem OnlySeparators.of_isSuffix {command : Text} (h : OnlySeparators command)
    (hs : input <:+ command) : OnlySeparators input :=
  fun c hc => h c (hs.subset hc)

/-! ## Steps -/

/-- No step but one of a reference keeps the reading from its end, and that one is at a blank that
separates nothing. -/
theorem Context.of_step_endless {c : Char} {lexeme : Lexeme} (hb : Begins c lexeme)
    (h : context.step start lexeme = .error .endless) :
    (∃ collected, context = .reference collected) ∧ Text.isBlank c = true ∧ isSeparator c = false := by
  cases context with
  | outside => cases hb <;> cases h
  | arguments => cases hb <;> cases h
  | closed => cases hb <;> cases h
  | reference collected =>
      refine ⟨⟨collected, rfl⟩, ?_⟩
      cases hb with
      | stray hblank hs => exact ⟨hblank, hs⟩
      | word hw =>
          have hc := hw.isPlain c (by simp)
          cases collected <;> simp [step, stepReference, extendReference, Lexeme.text, hc] at h
      | quoted =>
          cases collected with
          | nil =>
              simp only [step, stepReference] at h
              split at h
              · split at h <;> cases h
              · cases h
          | cons d collected => cases h
      | openParen | closeParen | dollar | blank _ | pattern _ | openPattern | openQuote =>
          cases collected <;> cases h

/-- What a step gives back stands at the end of the lexeme. -/
theorem Context.isSuffix_back {lexeme : Lexeme} {s : Step}
    (h : context.step start lexeme = .ok s) : s.back <:+ lexeme.text := by
  cases context with
  | outside =>
      simp only [Context.step, stepOutside] at h
      split at h <;> cases h <;> exact List.nil_suffix
  | reference collected =>
      simp only [Context.step, stepReference] at h
      split at h
      case h_6 =>
        split at h
        · split at h <;> cases h; exact List.nil_suffix
        · cases h; exact List.nil_suffix
      case h_7 =>
        simp only [extendReference] at h
        split at h <;> cases h
        exact List.dropWhile_suffix _
      all_goals first | (cases h; exact List.nil_suffix) | cases h
  | arguments =>
      simp only [Context.step, stepArguments] at h
      split at h <;> cases h <;> exact List.nil_suffix
  | closed =>
      simp only [Context.step, stepClosed] at h
      split at h <;> cases h; exact List.nil_suffix

theorem OnlySeparators.step_ne_endless {c : Char} {rest : Text} (h : OnlySeparators (c :: rest))
    (context : Context) (start : Nat) : context.step start (next c rest).1 ≠ .error .endless := by
  intro hs
  obtain ⟨-, hblank, hsep⟩ := Context.of_step_endless (begins_next c rest) hs
  rw [h c List.mem_cons_self hblank] at hsep
  cases hsep

/-- The parts of a command behind its reference. -/
def Context.IsBehind : Context → Prop
  | .arguments | .closed => True
  | .outside | .reference _ => False

theorem Context.IsBehind.of_step {c : Char} {lexeme : Lexeme} {s : Step} (hb : Begins c lexeme)
    (hc : context.IsBehind) (h : context.step start lexeme = .ok s) :
    s.context.IsBehind ∧ s.back = [] := by
  cases context with
  | outside | reference _ => exact absurd hc id
  | arguments =>
      rcases stepArguments_eq_ok hb h with rfl | rfl | ⟨t, -, -, rfl⟩ <;> exact ⟨trivial, rfl⟩
  | closed =>
      simp only [step, stepClosed] at h
      split at h <;> cases h
      exact ⟨trivial, rfl⟩

/-! ## Readings -/

/-- Behind its reference a command is read to its end. -/
theorem tokensFrom_ne_endless (hc : context.IsBehind) (start : Nat) (input : Text) :
    tokensFrom context start input ≠ .error .endless := by
  induction hn : input.length using Nat.strong_induction_on generalizing context start input with
  | _ n ih =>
    cases input with
    | nil =>
        rw [tokensFrom]
        cases context <;> simp [Context.finish, Except.map]
    | cons c rest =>
        cases hs : context.step start (next c rest).1 with
        | error fault =>
            rw [tokensFrom_cons_error hs]
            rintro ⟨⟩
            obtain ⟨⟨collected, rfl⟩, -⟩ := Context.of_step_endless (begins_next c rest) hs
            exact hc
        | ok s =>
            obtain ⟨hc', hback⟩ := hc.of_step (begins_next c rest) hs
            rw [tokensFrom_cons hs, hback, Ne, map_eq_error_iff]
            exact ih _ (hn ▸ length_next_lt c rest) hc' _ _ rfl

/-- A reading without end has come to a blank that separates nothing. -/
theorem exists_of_tokensFrom_endless (h : tokensFrom context start input = .error .endless) :
    ∃ c ∈ input, Text.isBlank c = true ∧ isSeparator c = false := by
  induction hn : input.length using Nat.strong_induction_on generalizing context start input with
  | _ n ih =>
    cases input with
    | nil =>
        rw [tokensFrom] at h
        cases context <;> cases h
    | cons c rest =>
        cases hs : context.step start (next c rest).1 with
        | error fault =>
            rw [tokensFrom_cons_error hs] at h
            cases h
            exact ⟨c, List.mem_cons_self, (Context.of_step_endless (begins_next c rest) hs).2⟩
        | ok s =>
            rw [tokensFrom_cons hs, map_eq_error_iff] at h
            have hlt := length_append_next_lt c rest
              (Context.length_back_lt (text_next_ne_nil c rest) hs)
            obtain ⟨d, hd, hblank⟩ := ih _ (hn ▸ hlt) h rfl
            have hsubset : s.back ++ (next c rest).2 ⊆ c :: rest := by
              rw [← text_append_next c rest]
              exact List.append_subset.mpr
                ⟨fun x hx => List.mem_append_left _ ((Context.isSuffix_back hs).subset hx),
                  List.subset_append_right _ _⟩
            exact ⟨d, hsubset hd, hblank⟩

theorem OnlySeparators.halts {command : Text} (h : OnlySeparators command) : Halts command := by
  intro hendless
  obtain ⟨c, hc, hblank, hs⟩ := exists_of_tokensFrom_endless hendless
  rw [h c hc hblank] at hs
  cases hs

/-- A reference is read to its end where a separator or a parenthesis follows it. -/
theorem tokensFrom_reference_ne_endless {r rest : Text} (hr₀ : r ≠ [])
    (hr : ∀ c ∈ r, isPlain c = true) (hs : Ends rest) (start : Nat) :
    tokensFrom (.reference []) start (r ++ rest) ≠ .error .endless := by
  -- What has been collected when the reference is over is not empty, so it becomes a token there.
  have hdone : ∀ (start : Nat) (collected left : Text), collected ≠ [] →
      (∀ c ∈ left, isPlain c = true) →
      tokensFrom (.reference collected) start (left ++ rest) ≠ .error .endless := by
    intro start collected left hcollected hleft
    rw [tokensFrom_reference hleft hs.stops fun he => absurd he hcollected,
      tokensFrom_reference_done (by simp [hcollected]) hs, Ne, map_eq_error_iff]
    exact tokensFrom_ne_endless (by trivial) _ _
  obtain ⟨c, t, rfl⟩ := List.exists_cons_of_ne_nil hr₀
  have hc := hr c List.mem_cons_self
  by_cases hq : c = '"'
  · subst hq
    obtain ⟨kept, left, back, hk, hleft, -, hrest, hext⟩ :=
      exists_extendReference (text_next_ne_nil '"' (t ++ rest)) (text_append_next '"' (t ++ rest))
        (List.cons_ne_nil '"' t) hr hs.stops
    rw [List.cons_append]
    cases hstep : (Context.reference []).step start (next '"' (t ++ rest)).1 with
    | error fault =>
        rw [tokensFrom_cons_error hstep]
        rintro ⟨⟩
        exact absurd (Context.of_step_endless (begins_next '"' (t ++ rest)) hstep).2.1 (by decide)
    | ok s =>
        rw [tokensFrom_cons hstep, Ne, map_eq_error_iff]
        have hbegins := begins_next '"' (t ++ rest)
        generalize hn : (next '"' (t ++ rest)).1 = lexeme at hstep hbegins hext
        cases hbegins with
        | quoted =>
            simp only [Context.step, stepReference] at hstep
            split at hstep
            · split at hstep <;> cases hstep
              exact tokensFrom_ne_endless (by trivial) _ _
            · cases hstep
              exact tokensFrom_ne_endless (by trivial) _ _
        | openQuote =>
            obtain rfl := Except.ok.inj ((hext []).symm.trans hstep)
            rw [hrest]
            exact hdone _ kept left hk fun d hd => hr d (hleft ▸ List.mem_append_right kept hd)
        | blank hsep => exact absurd hsep (by decide)
        | stray hblank _ => exact absurd hblank (by decide)
        | word hw => exact absurd rfl hw.1.2.2
  · rw [tokensFrom_reference hr hs.stops fun _ => by simpa using hq, List.nil_append]
    exact hdone _ _ [] (List.cons_ne_nil c t) (List.forall_mem_nil _)

/-- A reference without blanks is read to its end, or refused for a parenthesis in it. -/
theorem tokensFrom_reference_append_ne_endless {r rest : Text} (hr₀ : r ≠ [])
    (hr : ∀ c ∈ r, Text.isBlank c = false) (hs : Ends rest) (start : Nat) :
    tokensFrom (.reference []) start (r ++ rest) ≠ .error .endless := by
  have hparen : ∀ c ∈ r, isPlain c = false → c = '(' ∨ c = ')' := fun c hc hp =>
    (isPlain_eq_false_iff.mp hp).resolve_left (by simp [hr c hc])
  obtain ⟨c, t, rfl⟩ := List.exists_cons_of_ne_nil hr₀
  by_cases hc : isPlain c = true
  · have hends : Ends ((c :: t).dropWhile isPlain ++ rest) := by
      cases hd : (c :: t).dropWhile isPlain with
      | nil => exact hs
      | cons d more =>
          rintro _ ⟨⟩
          have hmem : d ∈ c :: t := (List.dropWhile_suffix isPlain).subset (hd ▸ List.mem_cons_self)
          exact Or.inr (hparen d hmem (stops_dropWhile (c :: t) d (by simp [hd])))
    rw [← List.takeWhile_append_dropWhile (p := isPlain) (l := c :: t), List.append_assoc]
    exact tokensFrom_reference_ne_endless (by simp [hc]) (fun d hd => List.mem_takeWhile_imp hd) hends _
  · have hstep : ∃ fault, fault ≠ .endless ∧
        (Context.reference []).step start (next c (t ++ rest)).1 = .error fault := by
      rcases hparen c List.mem_cons_self (by simpa using hc) with rfl | rfl
      · exact ⟨.nestedOpenParen, by decide, rfl⟩
      · exact ⟨.noReference, by decide, rfl⟩
    obtain ⟨fault, hfault, hstep⟩ := hstep
    rw [List.cons_append, tokensFrom_cons_error hstep]
    simpa using hfault

end Transclude.Command
