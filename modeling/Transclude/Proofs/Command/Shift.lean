import Mathlib.Data.List.Forall2
import Transclude.Proofs.Command.Layout

/-!
# Commands that differ in their reference

What is read off a command does not depend on where it stands: further on, the same tokens are found
further on (`tokensFrom_add`). A reference without quotes is read up to its end and no further, so the
arguments behind it are read as if it were any other (`tokens_behind_reference`).
-/

namespace Transclude

/-- The token `distance` bytes further on. -/
def PlacedToken.shift (distance : Nat) (placed : PlacedToken) : PlacedToken :=
  ⟨placed.token, placed.start + distance, placed.stop + distance⟩

namespace Command

open Lexeme

variable {start : Nat}

/-! ## Steps further on -/

theorem wholeToken_add (start distance : Nat) (lexeme : Lexeme) (token : Token) :
    wholeToken (start + distance) lexeme token = (wholeToken start lexeme token).shift distance := by
  simp only [wholeToken, PlacedToken.shift, PlacedToken.mk.injEq, true_and]
  omega

theorem referenceBefore_add {value : Text} (h : Text.utf8Size value ≤ start) (distance : Nat) :
    referenceBefore (start + distance) value = (referenceBefore start value).shift distance := by
  simp only [referenceBefore, PlacedToken.shift, PlacedToken.mk.injEq, true_and, and_true]
  omega

/-- What the step leads to, with its tokens `distance` bytes further on. -/
def Step.shift (distance : Nat) (s : Step) : Step :=
  ⟨s.tokens.map (PlacedToken.shift distance), s.context, s.back⟩

theorem stepOutside_add (start distance : Nat) (lexeme : Lexeme) :
    stepOutside (start + distance) lexeme =
      (stepOutside start lexeme).map (Step.shift distance) := by
  cases lexeme <;> simp [stepOutside, wholeToken_add, Step.shift, Except.map]

theorem stepReference_add {collected : Text} (h : Text.utf8Size collected ≤ start) (distance : Nat)
    (lexeme : Lexeme) :
    stepReference (start + distance) collected lexeme =
      (stepReference start collected lexeme).map (Step.shift distance) := by
  unfold stepReference
  split
  · rfl
  · simp [referenceBefore_add h, Step.shift, Except.map]
  · rfl
  · simp [referenceBefore_add h, wholeToken_add, Step.shift, Except.map]
  · rfl
  · split
    · split
      · simp [wholeToken_add, Step.shift, Except.map]
      · rfl
    · simp [wholeToken_add, Step.shift, Except.map]
  · unfold extendReference
    simp only
    split
    · rfl
    · rfl

theorem stepArguments_add (start distance : Nat) (lexeme : Lexeme) :
    stepArguments (start + distance) lexeme =
      (stepArguments start lexeme).map (Step.shift distance) := by
  cases lexeme <;> simp [stepArguments, wholeToken_add, Step.shift, Except.map]

theorem stepClosed_map_shift (distance : Nat) (lexeme : Lexeme) :
    stepClosed lexeme = (stepClosed lexeme).map (Step.shift distance) := by
  cases lexeme <;> rfl

theorem Context.step_add {context : Context} (h : Text.utf8Size context.held ≤ start)
    (distance : Nat) (lexeme : Lexeme) :
    context.step (start + distance) lexeme =
      (context.step start lexeme).map (Step.shift distance) := by
  cases context with
  | outside => exact stepOutside_add start distance lexeme
  | reference collected => exact stepReference_add h distance lexeme
  | arguments => exact stepArguments_add start distance lexeme
  | closed => exact stepClosed_map_shift distance lexeme

/-! ## Readings further on -/

/-- A reading further on finds the same tokens further on, or fails alike. -/
theorem tokensFrom_add {context : Context} (h : Text.utf8Size context.held ≤ start) (distance : Nat)
    (input : Text) :
    tokensFrom context (start + distance) input =
      (tokensFrom context start input).map (List.map (PlacedToken.shift distance)) := by
  induction hn : input.length using Nat.strong_induction_on generalizing context start input with
  | _ n ih =>
    cases input with
    | nil =>
        rw [tokensFrom, tokensFrom]
        cases context <;> rfl
    | cons c rest =>
        have hadd := Context.step_add h distance (next c rest).1
        cases hs : context.step start (next c rest).1 with
        | error fault =>
            rw [hs] at hadd
            rw [tokensFrom_cons_error hs, tokensFrom_cons_error hadd]
            rfl
        | ok s =>
            rw [hs] at hadd
            have hshort := length_append_next_lt c rest
              (Context.length_back_lt (text_next_ne_nil c rest) hs)
            -- What is held and given back was held or read before.
            have hroom : Text.utf8Size s.context.held + Text.utf8Size s.back ≤
                start + Text.utf8Size (next c rest).1.text := by
              obtain ⟨begun, rfl⟩ := Nat.exists_eq_add_of_le' h
              obtain ⟨front, htext, -⟩ :=
                Context.laid_of_step (isSound_next c rest) (text_next_ne_nil c rest) hs
              have hsize := congrArg Text.utf8Size htext
              simp only [Text.utf8Size_append] at hsize
              omega
            have hstart : start + distance + Text.utf8Size (next c rest).1.text - Text.utf8Size s.back =
                start + Text.utf8Size (next c rest).1.text - Text.utf8Size s.back + distance := by
              omega
            rw [tokensFrom_cons hs, tokensFrom_cons hadd]
            simp only [Step.shift, hstart]
            rw [ih _ (hn ▸ hshort) (by omega) _ rfl]
            cases tokensFrom _ _ _ <;> simp [Except.map]

/-! ## References -/

/-- A text that can stand as a reference without quotes. -/
structure IsBare (reference : Text) : Prop where
  ne_nil : reference ≠ []
  isPlain : ∀ c ∈ reference, isPlain c = true
  head? : reference.head? ≠ some '"'

/-- A reference ends where it seems to end, and the arguments are read from there. -/
theorem tokens_reference {r rest : Text} (hr : IsBare r) (hs : Ends rest) :
    tokens ('(' :: (r ++ rest)) =
      (tokensFrom .arguments 0 rest).map fun below =>
        ⟨.openParen, 0, 1⟩ :: ⟨.reference r, 1, 1 + Text.utf8Size r⟩ ::
          below.map (PlacedToken.shift (1 + Text.utf8Size r)) := by
  have hbelow := tokensFrom_add (show Text.utf8Size (Context.held .arguments) ≤ 0 from Nat.le_refl 0)
    (1 + Text.utf8Size r) rest
  rw [← Nat.add_assoc] at hbelow
  rw [tokens, Directive.tokensFrom_openParen, tokensFrom_reference hr.isPlain hs.stops fun _ => hr.head?,
    List.nil_append, tokensFrom_reference_done hr.ne_nil hs, hbelow]
  cases tokensFrom .arguments 0 rest <;> simp [Except.map, referenceBefore]

/-- Two tokens are the same and `distance` bytes apart, backwards if it is negative. -/
def Apart (distance : Int) (t u : PlacedToken) : Prop :=
  u.token = t.token ∧ (u.start : Int) - t.start = distance ∧ (u.stop : Int) - t.stop = distance

theorem forall₂_apart_shift (tokens : List PlacedToken) (m n : Nat) :
    List.Forall₂ (Apart ((n : Int) - m)) (tokens.map (PlacedToken.shift (1 + m)))
      (tokens.map (PlacedToken.shift (1 + n))) := by
  rw [List.forall₂_map_left_iff, List.forall₂_map_right_iff, List.forall₂_same]
  intro t _
  refine ⟨rfl, ?_, ?_⟩
  · simp only [PlacedToken.shift]
    omega
  · simp only [PlacedToken.shift]
    omega

/-- A reference without quotes is a token for itself, and what follows it is read as it is behind any
other one: it fails alike, or it gives the same tokens at the same distance from the reference. -/
theorem tokens_behind_reference {r r' : Text} (hr : IsBare r) (hr' : IsBare r') {c : Char}
    (hc : isSeparator c = true ∨ c = ')') (below : Text) :
    (∀ placed, tokens ('(' :: (r ++ c :: below)) = .ok placed →
      placed[1]? = some ⟨.reference r, 1, 1 + Text.utf8Size r⟩) ∧
    ((∃ fault, tokens ('(' :: (r ++ c :: below)) = .error fault ∧
        tokens ('(' :: (r' ++ c :: below)) = .error fault) ∨
      ∃ more more',
        tokens ('(' :: (r ++ c :: below)) =
          .ok (⟨.openParen, 0, 1⟩ :: ⟨.reference r, 1, 1 + Text.utf8Size r⟩ :: more) ∧
        tokens ('(' :: (r' ++ c :: below)) =
          .ok (⟨.openParen, 0, 1⟩ :: ⟨.reference r', 1, 1 + Text.utf8Size r'⟩ :: more') ∧
        List.Forall₂ (Apart ((Text.utf8Size r' : Int) - Text.utf8Size r)) more more') := by
  have hs : Ends (c :: below) := by
    rintro d ⟨⟩
    exact hc.imp_right Or.inr
  rw [tokens_reference hr hs, tokens_reference hr' hs]
  cases tokensFrom .arguments 0 (c :: below) with
  | error fault => exact ⟨nofun, Or.inl ⟨fault, rfl, rfl⟩⟩
  | ok args =>
      refine ⟨?_, Or.inr ⟨_, _, rfl, rfl, forall₂_apart_shift args _ _⟩⟩
      rintro placed ⟨⟩
      rfl

theorem tokens_behind_reference_slashes :
    let r := "/hello.go".toList
    let r' := "$é\"b".toList
    let below := "go /x\\/ \"/ $)".toList
    IsBare r ∧ IsBare r' ∧
      (∃ placed, tokens ('(' :: (r ++ ' ' :: below)) = .ok placed ∧
        placed[1]? = some ⟨.reference r, 1, 10⟩) ∧
      ∃ more more',
        tokens ('(' :: (r ++ ' ' :: below)) =
          .ok (⟨.openParen, 0, 1⟩ :: ⟨.reference r, 1, 10⟩ :: more) ∧
        tokens ('(' :: (r' ++ ' ' :: below)) =
          .ok (⟨.openParen, 0, 1⟩ :: ⟨.reference r', 1, 6⟩ :: more') ∧
        List.Forall₂ (Apart (-4)) more more' := by
  intro r r' below
  have hr : IsBare r := ⟨by decide, List.all_eq_true.mp (by decide), by decide⟩
  have hr' : IsBare r' := ⟨by decide, List.all_eq_true.mp (by decide), by decide⟩
  have hok : (tokens ('(' :: (r ++ ' ' :: below))).isOk = true := by decide +kernel
  obtain ⟨hplaced, ⟨fault, herror, -⟩ | hmore⟩ :=
    tokens_behind_reference hr hr' (c := ' ') (Or.inl (by decide)) below
  · rw [herror] at hok
    cases hok
  · obtain ⟨more, more', h, h', hapart⟩ := hmore
    exact ⟨hr, hr', ⟨_, h, hplaced _ h⟩, more, more', h, h', hapart⟩

end Command

end Transclude
