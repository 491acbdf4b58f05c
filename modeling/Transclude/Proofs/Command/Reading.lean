import Mathlib.Data.List.Infix
import Mathlib.Data.List.TakeWhile
import Transclude.Command.Token

/-!
# Reading references and arguments

What the reader of a command does to each piece of it, as equations. A reference comes out whole,
whatever lexemes it seems to consist of (`tokensFrom_reference`), and arguments written with a space
before each come out as they were (`tokensFrom_flatMap_text`). The other way round, the tokens after
the opening parenthesis are a reference (`exists_reference_of_tokensFrom`) and arguments that stand in
the command (`arguments_of_tokensFrom`).
-/

namespace Transclude

theorem exists_of_map_eq_ok {ε α β : Type} {f : α → β} {r : Except ε α} {b : β}
    (h : r.map f = .ok b) : ∃ a, r = .ok a ∧ f a = b := by
  cases r with
  | error e => cases h
  | ok a => exact ⟨a, rfl, Except.ok.inj h⟩

theorem map_eq_error_iff {ε α β : Type} {f : α → β} {r : Except ε α} {e : ε} :
    r.map f = .error e ↔ r = .error e := by
  cases r <;> simp [Except.map]

namespace Lexeme

/-! ## Characters -/

/-- No plain character follows. -/
def Stops (rest : Text) : Prop := ∀ c, rest.head? = some c → isPlain c = false

theorem isBlank_of_isSeparator {c : Char} (h : isSeparator c = true) : Text.isBlank c = true := by
  simp only [isSeparator, Bool.or_eq_true, beq_iff_eq] at h
  rcases h with ((rfl | rfl) | rfl) | rfl <;> decide

theorem isPlain_eq_false_iff {c : Char} :
    isPlain c = false ↔ Text.isBlank c = true ∨ c = '(' ∨ c = ')' := by
  simp only [isPlain, Bool.and_eq_false_iff, Bool.not_eq_false', bne_eq_false_iff_eq, or_assoc]

theorem isPlain_iff {c : Char} :
    isPlain c = true ↔ Text.isBlank c = false ∧ c ≠ '(' ∧ c ≠ ')' := by
  simp [isPlain, and_assoc]

theorem newline_not_mem_of_isPlain {t : Text} (h : ∀ c ∈ t, isPlain c = true) : '\n' ∉ t :=
  fun hm => absurd (h _ hm) (by decide)

/-- A separator or a parenthesis follows, or nothing. -/
def Ends (rest : Text) : Prop :=
  ∀ c, rest.head? = some c → isSeparator c = true ∨ c = '(' ∨ c = ')'

theorem ends_space (rest : Text) : Ends (' ' :: rest) := by
  rintro c ⟨⟩
  exact Or.inl (by decide)

theorem ends_closeParen (rest : Text) : Ends (')' :: rest) := by
  rintro c ⟨⟩
  exact Or.inr (Or.inr rfl)

theorem Ends.stops {rest : Text} (h : Ends rest) : Stops rest := fun c hc =>
  isPlain_eq_false_iff.mpr ((h c hc).imp_left isBlank_of_isSeparator)

theorem stops_dropWhile (t : Text) : Stops (t.dropWhile isPlain) := by
  intro c hc
  have hn := List.head?_dropWhile_not isPlain t
  rw [hc] at hn
  simpa using hn

theorem takeWhile_isPlain {t rest : Text} (ht : ∀ c ∈ t, isPlain c = true) (hr : Stops rest) :
    (t ++ rest).takeWhile isPlain = t := by
  rw [List.takeWhile_append_of_pos ht]
  cases rest with
  | nil => simp
  | cons c rest => simp [hr c rfl]

theorem dropWhile_isPlain {t rest : Text} (ht : ∀ c ∈ t, isPlain c = true) (hr : Stops rest) :
    (t ++ rest).dropWhile isPlain = rest := by
  rw [List.dropWhile_append_of_pos ht]
  cases rest with
  | nil => simp
  | cons c rest => simp [hr c rfl]

theorem takeWhile_prefix_takeWhile_append (p : Char → Bool) (s t : Text) :
    s.takeWhile p <+: (s ++ t).takeWhile p := by
  rw [List.takeWhile_append]
  split
  · exact (List.takeWhile_prefix p).trans (List.prefix_append s _)
  · exact List.prefix_rfl

/-! ## Words and patterns -/

/-- A word: plain characters, of which the first begins no other lexeme. -/
def IsWord : Text → Prop
  | [] => False
  | c :: rest => (c ≠ '/' ∧ c ≠ '$' ∧ c ≠ '"') ∧ ∀ d ∈ c :: rest, isPlain d = true

theorem IsWord.isPlain {w : Text} (h : IsWord w) : ∀ c ∈ w, isPlain c = true := by
  cases w with
  | nil => exact absurd h id
  | cons c rest => exact h.2

/-- The body of a pattern, read from left to right as plain characters and backslash pairs. -/
inductive IsPatternBody : Text → Prop
  | nil : IsPatternBody []
  | plain {c : Char} {rest : Text} (h : c ≠ '\\' ∧ c ≠ '/' ∧ c ≠ '\n') (hr : IsPatternBody rest) :
      IsPatternBody (c :: rest)
  | pair {c : Char} {rest : Text} (h : c ≠ '\n') (hr : IsPatternBody rest) :
      IsPatternBody ('\\' :: c :: rest)

theorem isPatternBody_patternBody (t : Text) : IsPatternBody (patternBody t).1 := by
  fun_induction patternBody t with
  | case1 => exact .nil
  | case2 => exact .nil
  | case3 => exact .nil
  | case4 c rest hc body tail he ih =>
      rw [he] at ih
      exact .pair hc ih
  | case5 => exact .nil
  | case6 c rest _ hpair hc body tail he ih =>
      rw [he] at ih
      have hc' : c ≠ '/' ∧ c ≠ '\n' := not_or.mp hc
      refine .plain ⟨?_, hc'⟩ ih
      rintro rfl
      cases rest with
      | nil => simp_all
      | cons d rest => exact hpair d rest rfl rfl

theorem IsPatternBody.patternBody_append {b : Text} (h : IsPatternBody b) (rest : Text) :
    patternBody (b ++ '/' :: rest) = (b, '/' :: rest) := by
  induction h with
  | nil => simp [patternBody]
  | @plain c b h _ ih =>
      rw [List.cons_append, patternBody.eq_def]
      split
      · next he => cases he
      · next he => simp at he
      · next he => simp at he; exact absurd he.1 h.1
      · next he =>
          simp only [List.cons.injEq] at he
          obtain ⟨rfl, rfl⟩ := he
          simp [h.2.1, h.2.2, ih]
  | @pair c b h _ ih =>
      rw [List.cons_append, List.cons_append, patternBody]
      simp [h, ih]

theorem IsPatternBody.newline_not_mem {b : Text} (h : IsPatternBody b) : '\n' ∉ b := by
  induction h with
  | nil => simp
  | plain h _ ih => simp [Ne.symm h.2.2, ih]
  | pair h _ ih => simp [Ne.symm h, ih]

/-! ## First lexemes -/

theorem next_word {c : Char} {t rest : Text} (h : IsWord (c :: t)) (hr : Stops rest) :
    next c (t ++ rest) = (.word (c :: t), rest) := by
  obtain ⟨⟨h₁, h₂, h₃⟩, hp⟩ := h
  have hc := isPlain_iff.mp (hp c (by simp))
  have hs : isSeparator c = false := by
    rw [Bool.eq_false_iff]
    exact fun he => absurd (isBlank_of_isSeparator he) (by simp [hc.1])
  have ht : ∀ d ∈ t, Lexeme.isPlain d = true := fun d hd => hp d (by simp [hd])
  simp [next, hc, h₁, h₂, h₃, hs, takeWhile_isPlain ht hr, dropWhile_isPlain ht hr]

theorem next_pattern {b : Text} (h : IsPatternBody b) (rest : Text) :
    next '/' (b ++ '/' :: rest) = (.pattern b, rest) := by
  simp [next, isSeparator, h.patternBody_append rest]

theorem next_separator {c : Char} (h : isSeparator c = true) (rest : Text) :
    next c rest = (.blank (c :: rest.takeWhile isSeparator), rest.dropWhile isSeparator) := by
  have hc : c ≠ '(' ∧ c ≠ ')' ∧ c ≠ '$' := by
    refine ⟨?_, ?_, ?_⟩ <;> rintro rfl <;> simp [isSeparator] at h
  simp [next, hc, h]

theorem next_blank {c : Char} (hb : Text.isBlank c = true) (hs : isSeparator c = false) (rest : Text) :
    next c rest = (.stray [c], rest) := by
  have hc : ∀ d, Text.isBlank d = false → c ≠ d := by
    rintro d hd rfl
    simp [hb] at hd
  simp [next, hb, hs, hc '(' (by decide), hc ')' (by decide), hc '$' (by decide),
    hc '/' (by decide), hc '"' (by decide)]

/-- A character and the lexemes that it begins. -/
inductive Begins : Char → Lexeme → Prop
  | openParen : Begins '(' .openParen
  | closeParen : Begins ')' .closeParen
  | dollar : Begins '$' .dollar
  | blank {c : Char} {blanks : Text} (h : isSeparator c = true) : Begins c (.blank blanks)
  | pattern {b : Text} (h : IsPatternBody b) : Begins '/' (.pattern b)
  | openPattern {b : Text} : Begins '/' (.openPattern b)
  | quoted {b : Text} : Begins '"' (.quoted b)
  | openQuote {chars : Text} : Begins '"' (.stray ('"' :: chars))
  | stray {c : Char} (hb : Text.isBlank c = true) (hs : isSeparator c = false) : Begins c (.stray [c])
  | word {c : Char} {t : Text} (h : IsWord (c :: t)) : Begins c (.word (c :: t))

theorem begins_next (c : Char) (rest : Text) : Begins c (next c rest).1 := by
  unfold next
  split
  · next h => subst h; exact .openParen
  split
  · next h => subst h; exact .closeParen
  split
  · next h => subst h; exact .dollar
  split
  · next h => exact .blank h
  split
  · next h =>
      subst h
      have hb := isPatternBody_patternBody rest
      split
      · next he => rw [he] at hb; exact .pattern hb
      · exact .openPattern
  split
  · next h =>
      subst h
      split
      · exact .quoted
      · exact .openQuote
      · exact .openQuote
  split
  · next hs _ _ hb => exact .stray hb (by simpa using hs)
  · next h₁ h₂ h₃ _ h₅ h₆ h₇ =>
      refine .word ⟨⟨h₅, h₃, h₆⟩, ?_⟩
      intro d hd
      rcases List.mem_cons.mp hd with rfl | hd
      · exact isPlain_iff.mpr ⟨by simpa using h₇, h₁, h₂⟩
      · exact List.mem_takeWhile_imp hd

end Lexeme

/-- A token that stands after the reference of a command. -/
def Token.IsArgument : Token → Prop
  | .word w => Lexeme.IsWord w
  | .pattern b => Lexeme.IsPatternBody b
  | .endOfContent => True
  | .openParen | .closeParen | .reference _ => False

theorem Token.IsArgument.exists_cons {t : Token} (h : t.IsArgument) :
    ∃ c rest, t.text = c :: rest ∧ Lexeme.isSeparator c = false := by
  cases t with
  | openParen | closeParen | reference _ => exact absurd h id
  | word w =>
      obtain ⟨c, w, rfl⟩ := List.exists_cons_of_ne_nil (show w ≠ [] by rintro rfl; exact h)
      refine ⟨c, w, rfl, ?_⟩
      rw [Bool.eq_false_iff]
      intro hs
      have hw : Lexeme.IsWord (c :: w) := h
      have hc := Lexeme.isPlain_iff.mp (hw.isPlain c (by simp))
      rw [Lexeme.isBlank_of_isSeparator hs] at hc
      cases hc.1
  | pattern b => exact ⟨'/', b ++ ['/'], rfl, by decide⟩
  | endOfContent => exact ⟨'$', [], rfl, by decide⟩

theorem Token.IsArgument.newline_not_mem {t : Token} (h : t.IsArgument) : '\n' ∉ t.text := by
  cases t with
  | openParen | closeParen | reference _ => exact absurd h id
  | word w => exact Lexeme.newline_not_mem_of_isPlain (Lexeme.IsWord.isPlain h)
  | pattern b =>
      have hb : '\n' ∉ b := Lexeme.IsPatternBody.newline_not_mem h
      simp [Token.text, hb]
  | endOfContent => decide

namespace Command

open Lexeme

/-! ## Steps -/

theorem tokensFrom_cons {context : Context} {start : Nat} {c : Char} {rest : Text} {s : Step}
    (h : context.step start (next c rest).1 = .ok s) :
    tokensFrom context start (c :: rest) =
      (tokensFrom s.context
        (start + Text.utf8Size (next c rest).1.text - Text.utf8Size s.back)
        (s.back ++ (next c rest).2)).map (s.tokens ++ ·) := by
  rw [tokensFrom]
  split
  · next he => rw [h] at he; cases he
  · next s' he =>
      obtain rfl : s = s' := Except.ok.inj (h.symm.trans he)
      rfl

theorem tokensFrom_cons_error {context : Context} {start : Nat} {c : Char} {rest : Text}
    {fault : CommandFault} (h : context.step start (next c rest).1 = .error fault) :
    tokensFrom context start (c :: rest) = .error fault := by
  rw [tokensFrom]
  split
  · next he => rw [h] at he; cases he; rfl
  · next he => rw [h] at he; cases he

/-! ## References -/

theorem stepReference_of_isPlain {start : Nat} {collected : Text} {c : Char} {rest : Text}
    (hc : isPlain c = true) (hq : collected = [] → c ≠ '"') :
    stepReference start collected (next c rest).1 = extendReference collected (next c rest).1 := by
  have hb := (isPlain_iff.mp hc).1
  cases collected with
  | nil =>
      have hq := hq rfl
      generalize (next c rest).1 = lexeme, begins_next c rest = h at *
      cases h with
      | openParen => cases hc
      | closeParen => cases hc
      | blank hs => rw [isBlank_of_isSeparator hs] at hb; cases hb
      | quoted => exact absurd rfl hq
      | _ => rfl
  | cons d collected =>
      generalize (next c rest).1 = lexeme, begins_next c rest = h at *
      cases h with
      | openParen => cases hc
      | closeParen => cases hc
      | blank hs => rw [isBlank_of_isSeparator hs] at hb; cases hb
      | _ => rfl

/-- What a lexeme adds to a reference is a part of the plain characters there; the rest of them is
what it gives back, followed by what follows it. -/
theorem exists_extendReference {r rest after : Text} {lexeme : Lexeme}
    (hne : lexeme.text ≠ []) (htext : lexeme.text ++ after = r ++ rest) (hr₀ : r ≠ [])
    (hr : ∀ c ∈ r, isPlain c = true) (hs : Stops rest) :
    ∃ kept left back, kept ≠ [] ∧ r = kept ++ left ∧ lexeme.text = kept ++ back ∧
      back ++ after = left ++ rest ∧
      ∀ collected,
        extendReference collected lexeme = .ok ⟨[], .reference (collected ++ kept), back⟩ := by
  have hkept : lexeme.text.takeWhile isPlain <+: r := by
    have h := takeWhile_prefix_takeWhile_append isPlain lexeme.text after
    rwa [htext, takeWhile_isPlain hr hs] at h
  have hkne : lexeme.text.takeWhile isPlain ≠ [] := by
    obtain ⟨c, x, hx⟩ := List.exists_cons_of_ne_nil hne
    obtain ⟨d, y, rfl⟩ := List.exists_cons_of_ne_nil hr₀
    rw [hx, List.cons_append, List.cons_append, List.cons.injEq] at htext
    rw [hx, List.takeWhile_cons, htext.1, hr d (by simp)]
    simp
  obtain ⟨left, hleft⟩ := hkept
  have hsplit : lexeme.text.takeWhile isPlain ++ lexeme.text.dropWhile isPlain = lexeme.text :=
    List.takeWhile_append_dropWhile
  refine ⟨_, left, lexeme.text.dropWhile isPlain, hkne, hleft.symm, hsplit.symm, ?_, ?_⟩
  · have h : lexeme.text.takeWhile isPlain ++ (lexeme.text.dropWhile isPlain ++ after) =
        lexeme.text.takeWhile isPlain ++ (left ++ rest) := by
      rw [← List.append_assoc, hsplit, htext, ← hleft, List.append_assoc]
    exact List.append_cancel_left h
  · intro collected
    unfold extendReference
    simp [hkne]

/-- A reference is read up to what is not plain, whatever lexemes it seems to consist of. -/
theorem tokensFrom_reference {start : Nat} {collected r rest : Text}
    (hr : ∀ c ∈ r, isPlain c = true) (hs : Stops rest)
    (hq : collected = [] → r.head? ≠ some '"') :
    tokensFrom (.reference collected) start (r ++ rest) =
      tokensFrom (.reference (collected ++ r)) (start + Text.utf8Size r) rest := by
  -- Each lexeme leaves a shorter part of the reference, so the induction is on its length.
  induction hn : r.length using Nat.strong_induction_on generalizing start collected r with
  | _ n ih =>
    cases r with
    | nil => simp
    | cons c t =>
        have hc : isPlain c = true := hr c (by simp)
        obtain ⟨kept, left, back, hk, hleft, hback, hrest, hext⟩ :=
          exists_extendReference (text_next_ne_nil c (t ++ rest))
            (text_append_next c (t ++ rest)) (List.cons_ne_nil c t) hr hs
        have hstep : (Context.reference collected).step start (next c (t ++ rest)).1 =
            .ok ⟨[], .reference (collected ++ kept), back⟩ :=
          (stepReference_of_isPlain hc fun he hd => hq he (by simp [hd])).trans (hext collected)
        have hlen : left.length < n := by
          have := congrArg List.length hleft
          have := List.length_pos_iff.mpr hk
          simp only [List.length_append, hn] at *
          omega
        have hleft' : ∀ d ∈ left, isPlain d = true := fun d hd => hr d (by simp [hleft, hd])
        have hstart : start + (Text.utf8Size kept + Text.utf8Size back) - Text.utf8Size back =
            start + Text.utf8Size kept := by omega
        rw [List.cons_append, tokensFrom_cons hstep]
        simp only [hback, hrest, List.nil_append, Text.utf8Size_append, hstart]
        rw [ih left.length hlen hleft' (by simp [hk]) rfl, hleft, Text.utf8Size_append,
          List.append_assoc, Nat.add_assoc]
        exact congrFun Except.map_id _

/-- A reference ends at a separator or a parenthesis. -/
theorem tokensFrom_reference_done {start : Nat} {r rest : Text} (hr : r ≠ []) (hs : Ends rest) :
    tokensFrom (.reference r) start rest =
      (tokensFrom .arguments start rest).map (referenceBefore start r :: ·) := by
  obtain ⟨d, r, rfl⟩ := List.exists_cons_of_ne_nil hr
  cases rest with
  | nil => simp [tokensFrom, Context.finish, Except.map]
  | cons c rest =>
      rcases hs c rfl with hsep | rfl | rfl
      · have hn := next_separator hsep rest
        rw [tokensFrom_cons (show Context.step _ _ (.reference (d :: r)) = _ by rw [hn]; rfl),
          tokensFrom_cons (show Context.step _ _ .arguments = _ by rw [hn]; rfl)]
        simp only [hn, Lexeme.text, List.nil_append]
        cases tokensFrom _ _ _ <;> rfl
      · rw [tokensFrom_cons_error (show Context.step _ _ (.reference (d :: r)) = _ from rfl),
          tokensFrom_cons_error (show Context.step _ _ .arguments = _ from rfl)]
        rfl
      · rw [tokensFrom_cons (show Context.step _ _ (.reference (d :: r)) = _ from rfl),
          tokensFrom_cons (show Context.step _ _ .arguments = _ from rfl)]
        simp only [List.nil_append]
        cases tokensFrom _ _ _ <;> rfl

/-- At any other blank the reading of a reference never ends, whether it has begun or not. -/
theorem tokensFrom_reference_blank {c : Char} (hb : Text.isBlank c = true)
    (hs : isSeparator c = false) (collected : Text) (start : Nat) (rest : Text) :
    tokensFrom (.reference collected) start (c :: rest) = .error .endless := by
  refine tokensFrom_cons_error ?_
  rw [next_blank hb hs]
  cases collected <;>
    simp [Context.step, stepReference, extendReference, Lexeme.text,
      isPlain_eq_false_iff.mpr (Or.inl hb)]

theorem ends_of_tokensFrom_reference {collected : Text} {start : Nat} {rest : Text}
    {placed : List PlacedToken} (hs : Stops rest)
    (h : tokensFrom (.reference collected) start rest = .ok placed) : Ends rest := by
  intro c hc
  by_contra hne
  obtain ⟨hsep, hparen⟩ := not_or.mp hne
  have hb := (isPlain_eq_false_iff.mp (hs c hc)).resolve_right hparen
  obtain ⟨rest, rfl⟩ : ∃ more, rest = c :: more := by
    cases rest with
    | nil => cases hc
    | cons d rest =>
        cases hc
        exact ⟨rest, rfl⟩
  rw [tokensFrom_reference_blank hb (by simpa using hsep)] at h
  cases h

/-! ## Arguments -/

theorem tokensFrom_arguments_space {start : Nat} {c : Char} {rest : Text}
    (hc : isSeparator c = false) :
    tokensFrom .arguments start (' ' :: c :: rest) = tokensFrom .arguments (start + 1) (c :: rest) := by
  have hn : next ' ' (c :: rest) = (.blank [' '], c :: rest) := by
    rw [next_separator (by decide)]
    simp [hc]
  rw [tokensFrom_cons (show Context.step _ _ .arguments = _ by rw [hn]; rfl)]
  simp only [hn, Lexeme.text, List.nil_append]
  exact congrFun Except.map_id _

/-- A pattern ends with its closing slash, whatever follows. -/
theorem tokensFrom_pattern (start : Nat) {b : Text} (hb : IsPatternBody b) (rest : Text) :
    tokensFrom .arguments start ((Token.pattern b).text ++ rest) =
      (tokensFrom .arguments (start + Text.utf8Size (Token.pattern b).text) rest).map
        (⟨.pattern b, start, start + Text.utf8Size (Token.pattern b).text⟩ :: ·) := by
  have hn := next_pattern hb rest
  have he : '/' :: b ++ ['/'] ++ rest = '/' :: (b ++ '/' :: rest) := by simp
  rw [Token.text, he, tokensFrom_cons (show Context.step _ _ .arguments = _ by rw [hn]; rfl)]
  simp [hn, wholeToken, Lexeme.text]

theorem tokensFrom_argument {start : Nat} {t : Token} {rest : Text} (ht : t.IsArgument)
    (hs : Stops rest) :
    tokensFrom .arguments start (t.text ++ rest) =
      (tokensFrom .arguments (start + Text.utf8Size t.text) rest).map
        (⟨t, start, start + Text.utf8Size t.text⟩ :: ·) := by
  cases t with
  | openParen | closeParen | reference _ => exact absurd ht id
  | word w =>
      obtain ⟨c, w, rfl⟩ := List.exists_cons_of_ne_nil (show w ≠ [] by rintro rfl; exact ht)
      have hn := next_word ht hs
      rw [Token.text, List.cons_append,
        tokensFrom_cons (show Context.step _ _ .arguments = _ by rw [hn]; rfl)]
      simp [hn, wholeToken, Lexeme.text]
  | pattern b => exact tokensFrom_pattern start ht rest
  | endOfContent =>
      rw [Token.text, List.singleton_append,
        tokensFrom_cons (show Context.step _ _ .arguments = _ from rfl)]
      rfl

theorem tokensFrom_closed {start : Nat} {blanks : Text} (h : ∀ c ∈ blanks, isSeparator c = true) :
    tokensFrom .closed start blanks = .ok [] := by
  cases blanks with
  | nil => simp [tokensFrom, Context.finish, Except.map]
  | cons c rest =>
      have hn := next_separator (h c (by simp)) rest
      have hd : rest.dropWhile isSeparator = [] :=
        List.dropWhile_eq_nil_iff.mpr fun d hd => h d (by simp [hd])
      rw [tokensFrom_cons (show Context.step _ _ .closed = _ by rw [hn]; rfl)]
      simp [hn, hd, tokensFrom, Context.finish, Except.map]

/-- Arguments written with a space before each, and a closing parenthesis after them. -/
theorem tokensFrom_flatMap_text (start : Nat) {args : List Token} {blanks : Text}
    (ha : ∀ t ∈ args, t.IsArgument) (hb : ∀ c ∈ blanks, isSeparator c = true) :
    ∃ placed, tokensFrom .arguments start
        (args.flatMap (fun t => ' ' :: t.text) ++ ')' :: blanks) = .ok placed ∧
      placed.map PlacedToken.token = args ++ [.closeParen] := by
  induction args generalizing start with
  | nil =>
      refine ⟨[⟨.closeParen, start, start + 1⟩], ?_, rfl⟩
      rw [List.flatMap_nil, List.nil_append,
        tokensFrom_cons (show Context.step _ _ .arguments = _ from rfl)]
      simp [tokensFrom_closed hb, next, wholeToken, Lexeme.text, Except.map]
      decide
  | cons t args ih =>
      have ht : t.IsArgument := ha t (by simp)
      obtain ⟨c, x, hx, hc⟩ := ht.exists_cons
      have hs : Stops (args.flatMap (fun t => ' ' :: t.text) ++ ')' :: blanks) := by
        cases args with
        | nil => exact (ends_closeParen _).stops
        | cons _ _ => exact (ends_space _).stops
      obtain ⟨placed, hp, hm⟩ :=
        ih (start + 1 + Text.utf8Size t.text) fun u hu => ha u (by simp [hu])
      refine ⟨⟨t, start + 1, start + 1 + Text.utf8Size t.text⟩ :: placed, ?_, by simp [hm]⟩
      rw [List.flatMap_cons, List.append_assoc, List.cons_append, hx, List.cons_append,
        tokensFrom_arguments_space hc, ← List.cons_append, ← hx, tokensFrom_argument ht hs, hp]
      rfl

/-! ## What was read -/

theorem isSuffix_next (c : Char) (rest : Text) : (next c rest).2 <:+ c :: rest :=
  ⟨(next c rest).1.text, text_append_next c rest⟩

theorem isInfix_text_next (c : Char) (rest : Text) : (next c rest).1.text <:+: c :: rest :=
  ⟨[], (next c rest).2, by simpa using text_append_next c rest⟩

theorem length_next_lt (c : Char) (rest : Text) : (next c rest).2.length < (c :: rest).length := by
  have h := length_append_next_lt c rest (show ([] : Text).length < _ from
    List.length_pos_iff.mpr (text_next_ne_nil c rest))
  simpa using h

theorem eq_nil_of_tokensFrom_closed {start : Nat} {input : Text} {placed : List PlacedToken}
    (h : tokensFrom .closed start input = .ok placed) : placed = [] := by
  induction hn : input.length using Nat.strong_induction_on generalizing start input placed with
  | _ n ih =>
    cases input with
    | nil => simpa [tokensFrom, Context.finish, Except.map] using h.symm
    | cons c rest =>
        cases hs : Context.step start (next c rest).1 .closed with
        | error fault => rw [tokensFrom_cons_error hs] at h; cases h
        | ok s =>
            rw [tokensFrom_cons hs] at h
            obtain rfl : s = ⟨[], .closed, []⟩ := by
              simp only [Context.step, stepClosed] at hs
              split at hs <;> cases hs
              rfl
            obtain ⟨placed', hp, rfl⟩ := exists_of_map_eq_ok h
            exact ih _ (hn ▸ length_next_lt c rest) hp rfl

/-- What one lexeme after the reference of a command leads to. -/
theorem stepArguments_eq_ok {start : Nat} {c : Char} {lexeme : Lexeme} {s : Step}
    (hb : Begins c lexeme) (h : stepArguments start lexeme = .ok s) :
    s = ⟨[], .arguments, []⟩ ∨
      s = ⟨[wholeToken start lexeme .closeParen], .closed, []⟩ ∨
      ∃ t : Token, t.IsArgument ∧ t.text = lexeme.text ∧
        s = ⟨[wholeToken start lexeme t], .arguments, []⟩ := by
  cases hb with
  | openParen | openPattern | quoted | openQuote | stray _ _ => cases h
  | closeParen => cases h; exact Or.inr (Or.inl rfl)
  | dollar => cases h; exact Or.inr (Or.inr ⟨.endOfContent, trivial, rfl, rfl⟩)
  | blank _ => cases h; exact Or.inl rfl
  | pattern hb => cases h; exact Or.inr (Or.inr ⟨.pattern _, by exact hb, rfl, rfl⟩)
  | word hw => cases h; exact Or.inr (Or.inr ⟨.word _, by exact hw, rfl, rfl⟩)

/-- The tokens after a reference are arguments, which stand in the command as they are shown, and a
closing parenthesis. -/
theorem arguments_of_tokensFrom {start : Nat} {input : Text} {placed : List PlacedToken}
    (h : tokensFrom .arguments start input = .ok placed) :
    ∃ args, placed.map PlacedToken.token = args ++ [.closeParen] ∧
      ∀ t ∈ args, t.IsArgument ∧ t.text <:+: input := by
  induction hn : input.length using Nat.strong_induction_on generalizing start input placed with
  | _ n ih =>
    cases input with
    | nil => simp [tokensFrom, Context.finish, Except.map] at h
    | cons c rest =>
        cases hs : Context.step start (next c rest).1 .arguments with
        | error fault => rw [tokensFrom_cons_error hs] at h; cases h
        | ok s =>
            rw [tokensFrom_cons hs] at h
            obtain ⟨placed', hp, rfl⟩ := exists_of_map_eq_ok h
            have hsuffix := (isSuffix_next c rest).isInfix
            rcases stepArguments_eq_ok (begins_next c rest) hs with rfl | rfl | ⟨t, ht, htext, rfl⟩
            · obtain ⟨args, hargs, hall⟩ := ih _ (hn ▸ length_next_lt c rest) hp rfl
              exact ⟨args, hargs, fun u hu => ⟨(hall u hu).1, (hall u hu).2.trans hsuffix⟩⟩
            · obtain rfl := eq_nil_of_tokensFrom_closed hp
              exact ⟨[], rfl, by simp⟩
            · obtain ⟨args, hargs, hall⟩ := ih _ (hn ▸ length_next_lt c rest) hp rfl
              refine ⟨t :: args, by simp [hargs, wholeToken], ?_⟩
              intro u hu
              rcases List.mem_cons.mp hu with rfl | hu
              · exact ⟨ht, htext ▸ isInfix_text_next c rest⟩
              · exact ⟨(hall u hu).1, (hall u hu).2.trans hsuffix⟩

/-- What one lexeme at the start of a reference or inside it leads to. -/
theorem stepReference_eq_ok {start : Nat} {collected : Text} {lexeme : Lexeme} {s : Step}
    (h : stepReference start collected lexeme = .ok s) :
    (s.tokens = [] ∧ ∃ more, s.context = .reference more) ∨
      ∃ token value, token.token = .reference value ∧
        ((s.tokens = [token] ∧ s.context = .arguments) ∨
          s.tokens = [token, wholeToken start .closeParen .closeParen] ∧ s.context = .closed) := by
  unfold stepReference at h
  split at h
  · cases h; exact Or.inl ⟨rfl, _, rfl⟩
  · cases h; exact Or.inr ⟨_, _, rfl, Or.inl ⟨rfl, rfl⟩⟩
  · cases h
  · cases h; exact Or.inr ⟨_, _, rfl, Or.inr ⟨rfl, rfl⟩⟩
  · cases h
  · split at h
    · split at h
      · cases h; exact Or.inr ⟨_, _, rfl, Or.inl ⟨rfl, rfl⟩⟩
      · cases h
    · cases h; exact Or.inr ⟨_, _, rfl, Or.inl ⟨rfl, rfl⟩⟩
  · unfold extendReference at h
    simp only at h
    split at h
    · cases h
    · cases h; exact Or.inl ⟨rfl, _, rfl⟩

/-- The tokens after the opening parenthesis are a reference, arguments and a closing parenthesis. -/
theorem exists_reference_of_tokensFrom {start : Nat} {collected input : Text}
    {placed : List PlacedToken} (h : tokensFrom (.reference collected) start input = .ok placed) :
    ∃ value args, placed.map PlacedToken.token = .reference value :: (args ++ [.closeParen]) ∧
      ∀ t ∈ args, t.IsArgument := by
  induction hn : input.length using Nat.strong_induction_on generalizing start collected input placed with
  | _ n ih =>
    cases input with
    | nil => simp [tokensFrom, Context.finish, Except.map] at h
    | cons c rest =>
        cases hs : Context.step start (next c rest).1 (.reference collected) with
        | error fault => rw [tokensFrom_cons_error hs] at h; cases h
        | ok s =>
            have hshort := length_append_next_lt c rest
              (Context.length_back_lt (text_next_ne_nil c rest) hs)
            rw [tokensFrom_cons hs] at h
            obtain ⟨placed', hp, rfl⟩ := exists_of_map_eq_ok h
            rcases stepReference_eq_ok hs with ⟨ht, more, hc⟩ | ⟨token, value, htoken, ⟨ht, hc⟩ | ⟨ht, hc⟩⟩
            · rw [hc] at hp
              rw [ht, List.nil_append]
              exact ih _ (hn ▸ hshort) hp rfl
            · rw [hc] at hp
              obtain ⟨args, hm, hall⟩ := arguments_of_tokensFrom hp
              exact ⟨value, args, by simp [ht, htoken, hm], fun t hm => (hall t hm).1⟩
            · rw [hc] at hp
              obtain rfl := eq_nil_of_tokensFrom_closed hp
              exact ⟨value, [], by simp [ht, htoken, wholeToken], by simp⟩

end Command

end Transclude
