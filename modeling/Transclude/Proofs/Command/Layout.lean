import Transclude.Proofs.Command.Quoted
import Transclude.Proofs.Directive.Forms
import Transclude.Proofs.Text.Crlf

/-!
# Where tokens stand in a command

A command is its tokens as they are written, with blanks between them: what a step does not make a
token of it holds back or gives back (`Context.laid_of_step`), so nothing else is dropped by a whole
reading (`laid_of_tokensFrom`). The bytes of the tokens follow from this (`tokens_cover`).
-/

namespace Transclude

namespace Lexeme

/-! ## Lexemes -/

theorem isQuotedBody_quotedBody (t : Text) : IsQuotedBody (quotedBody t).1 := by
  fun_induction quotedBody t with
  | case1 => exact .nil
  | case2 => exact .nil
  | case3 => exact .nil
  | case4 c rest hc body tail he ih =>
      rw [he] at ih
      exact .pair hc ih
  | case5 => exact .nil
  | case6 c rest hend hpair hc body tail he ih =>
      rw [he] at ih
      refine .plain ⟨?_, hc⟩ ih
      rintro rfl
      cases rest with
      | nil => exact hend rfl rfl
      | cons d rest => exact hpair d rest rfl rfl

/-- The lexeme holds only blanks, or only what can stand in quotes, if it is one of these. -/
def IsSound : Lexeme → Prop
  | .blank blanks => ∀ c ∈ blanks, isSeparator c = true
  | .quoted body => IsQuotedBody body
  | _ => True

theorem isSound_next (c : Char) (rest : Text) : (next c rest).1.IsSound := by
  unfold next
  split
  · trivial
  split
  · trivial
  split
  · trivial
  split
  · next hc =>
      intro d hd
      rcases List.mem_cons.mp hd with rfl | hd
      · exact hc
      · exact List.mem_takeWhile_imp hd
  split
  · split <;> trivial
  split
  · have hb := isQuotedBody_quotedBody rest
    split
    · next he =>
        rw [he] at hb
        exact hb
    · trivial
    · trivial
  split <;> trivial

end Lexeme

/-- How a token is written: as it is shown, or a reference in double quotes by what is read there. -/
inductive Token.WrittenAs : Token → Text → Prop
  | shown (token : Token) : WrittenAs token token.text
  | quoted {body value : Text} (hb : Lexeme.IsQuotedBody body) (hv : Quoted.value body = .ok value) :
      WrittenAs (.reference value) ('"' :: body ++ ['"'])

namespace Command

open Lexeme

/-! ## Laid out tokens -/

/-- The text from byte `start` of a command on is the tokens as they are written, with blanks between
them. -/
inductive Laid : Nat → Text → List PlacedToken → Prop
  | blanks (start : Nat) {blanks : Text} (hb : ∀ c ∈ blanks, isSeparator c = true) :
      Laid start blanks []
  | token {start : Nat} {blanks written rest : Text} {token : Token} {placed : List PlacedToken}
      (hb : ∀ c ∈ blanks, isSeparator c = true) (hw : token.WrittenAs written) (hne : written ≠ [])
      (hr : Laid (start + Text.utf8Size (blanks ++ written)) rest placed) :
      Laid start (blanks ++ written ++ rest)
        (⟨token, start + Text.utf8Size blanks, start + Text.utf8Size (blanks ++ written)⟩ :: placed)

variable {start : Nat} {input : Text} {placed : List PlacedToken}

theorem Laid.nil (start : Nat) : Laid start [] [] := .blanks start (by simp)

theorem Laid.single {token : Token} {written : Text} (hw : token.WrittenAs written)
    (hne : written ≠ []) (start : Nat) :
    Laid start written [⟨token, start, start + Text.utf8Size written⟩] := by
  simpa using Laid.token (by simp) hw hne (.nil (start + Text.utf8Size ([] ++ written)))

theorem Laid.blanks_append {blanks : Text} (hb : ∀ c ∈ blanks, isSeparator c = true)
    (h : Laid (start + Text.utf8Size blanks) input placed) : Laid start (blanks ++ input) placed := by
  cases h with
  | blanks _ hb' =>
      refine .blanks start fun c hc => ?_
      exact (List.mem_append.mp hc).elim (hb c) (hb' c)
  | @token _ blanks' written rest token placed hb' hw hne hr =>
      have hall : ∀ c ∈ blanks ++ blanks', isSeparator c = true := fun c hc =>
        (List.mem_append.mp hc).elim (hb c) (hb' c)
      have hbelow : Laid (start + Text.utf8Size (blanks ++ blanks' ++ written)) rest placed := by
        simpa [Nat.add_assoc] using hr
      simpa [Nat.add_assoc] using Laid.token hall hw hne hbelow

/-- What stands behind laid out tokens is laid out behind them. -/
theorem Laid.append {below : Text} {more : List PlacedToken} (h : Laid start input placed)
    (hb : Laid (start + Text.utf8Size input) below more) :
    Laid start (input ++ below) (placed ++ more) := by
  induction h with
  | blanks start hblanks => exact hb.blanks_append hblanks
  | @token start blanks written rest token placed hblanks hw hne _ ih =>
      have hrest := ih (by simpa [Nat.add_assoc] using hb)
      simpa using Laid.token hblanks hw hne hrest

/-! ## Readings -/

/-- The part of a reference that was read and is no token yet. -/
def Context.held : Context → Text
  | .reference collected => collected
  | .outside | .arguments | .closed => []

theorem laid_referenceBefore {collected : Text} (hne : collected ≠ []) (start : Nat) :
    Laid start collected [referenceBefore (start + Text.utf8Size collected) collected] := by
  have h := Laid.single (.shown (.reference collected)) hne start
  simpa [referenceBefore, Token.text] using h

theorem laid_wholeToken {lexeme : Lexeme} {token : Token} (hw : token.WrittenAs lexeme.text)
    (hne : lexeme.text ≠ []) (start : Nat) : Laid start lexeme.text [wholeToken start lexeme token] :=
  .single hw hne start

theorem laid_of_stepOutside {lexeme : Lexeme} {s : Step} (hl : lexeme.IsSound)
    (hne : lexeme.text ≠ []) (h : stepOutside start lexeme = .ok s) :
    s.context.held = [] ∧ s.back = [] ∧ Laid start lexeme.text s.tokens := by
  unfold stepOutside at h
  split at h
  · cases h
    exact ⟨rfl, rfl, .blanks start hl⟩
  · cases h
    exact ⟨rfl, rfl, laid_wholeToken (.shown .openParen) hne start⟩
  · cases h

theorem laid_of_extendReference {collected : Text} {lexeme : Lexeme} {s : Step}
    (h : extendReference collected lexeme = .ok s) :
    s.tokens = [] ∧ s.context.held ++ s.back = collected ++ lexeme.text := by
  unfold extendReference at h
  simp only at h
  split at h
  · cases h
  · cases h
    exact ⟨rfl, by simp [Context.held]⟩

/-- What a step at the start of a reference or inside it makes no token of is blank, or it is held back
or given back. -/
theorem laid_of_stepReference {collected : Text} {lexeme : Lexeme} {s : Step} (hl : lexeme.IsSound)
    (hne : lexeme.text ≠ [])
    (h : stepReference (start + Text.utf8Size collected) collected lexeme = .ok s) :
    ∃ front, collected ++ lexeme.text = front ++ (s.context.held ++ s.back) ∧
      Laid start front s.tokens := by
  unfold stepReference at h
  split at h
  · cases h
    exact ⟨_, (List.append_nil _).symm, .blanks start hl⟩
  · next hc =>
      cases h
      exact ⟨_, (List.append_nil _).symm, (laid_referenceBefore hc start).append (.blanks _ hl)⟩
  · cases h
  · next hc =>
      cases h
      have hclose := laid_wholeToken (.shown .closeParen) hne (start + Text.utf8Size collected)
      exact ⟨_, (List.append_nil _).symm, (laid_referenceBefore hc start).append hclose⟩
  · cases h
  · next body =>
      have hquoted : ∀ value, Quoted.value body = .ok value →
          Laid start (Lexeme.quoted body).text [wholeToken start (.quoted body) (.reference value)] :=
        fun value hv => laid_wholeToken (.quoted hl hv) hne start
      split at h
      · next hb =>
          split at h
          · next value hv =>
              cases h
              exact ⟨_, (List.append_nil _).symm, hquoted value (by rw [Quoted.value, if_pos hb, hv])⟩
          · cases h
      · next hb =>
          cases h
          exact ⟨_, (List.append_nil _).symm, hquoted body (by rw [Quoted.value, if_neg hb])⟩
  · obtain ⟨htokens, htext⟩ := laid_of_extendReference h
    exact ⟨[], htext.symm, htokens ▸ .nil start⟩

theorem laid_of_stepArguments {lexeme : Lexeme} {s : Step} (hl : lexeme.IsSound)
    (hne : lexeme.text ≠ []) (h : stepArguments start lexeme = .ok s) :
    s.context.held = [] ∧ s.back = [] ∧ Laid start lexeme.text s.tokens := by
  unfold stepArguments at h
  split at h
  · cases h
    exact ⟨rfl, rfl, .blanks start hl⟩
  · cases h
    exact ⟨rfl, rfl, laid_wholeToken (.shown .closeParen) hne start⟩
  · cases h
  · cases h
    exact ⟨rfl, rfl, laid_wholeToken (.shown (.word _)) hne start⟩
  · cases h
    exact ⟨rfl, rfl, laid_wholeToken (.shown (.pattern _)) hne start⟩
  · cases h
    exact ⟨rfl, rfl, laid_wholeToken (.shown .endOfContent) hne start⟩
  · cases h
  · cases h
  · cases h

theorem laid_of_stepClosed {lexeme : Lexeme} {s : Step} (hl : lexeme.IsSound)
    (h : stepClosed lexeme = .ok s) :
    s.context.held = [] ∧ s.back = [] ∧ Laid start lexeme.text s.tokens := by
  unfold stepClosed at h
  split at h
  · cases h
    exact ⟨rfl, rfl, .blanks start hl⟩
  · cases h

/-- What a step makes no token of is blank, or it is held back or given back. -/
theorem Context.laid_of_step {context : Context} {lexeme : Lexeme} {s : Step} (hl : lexeme.IsSound)
    (hne : lexeme.text ≠ [])
    (h : context.step (start + Text.utf8Size context.held) lexeme = .ok s) :
    ∃ front, context.held ++ lexeme.text = front ++ (s.context.held ++ s.back) ∧
      Laid start front s.tokens := by
  have hall : s.context.held = [] ∧ s.back = [] ∧ Laid start lexeme.text s.tokens →
      ∃ front, [] ++ lexeme.text = front ++ (s.context.held ++ s.back) ∧
        Laid start front s.tokens := by
    rintro ⟨hheld, hback, hlaid⟩
    exact ⟨_, by simp [hheld, hback], hlaid⟩
  cases context with
  | outside => exact hall (laid_of_stepOutside hl hne h)
  | reference collected => exact laid_of_stepReference hl hne h
  | arguments => exact hall (laid_of_stepArguments hl hne h)
  | closed => exact hall (laid_of_stepClosed hl h)

/-- A reading lays out what it holds and what it reads. -/
theorem laid_of_tokensFrom {context : Context}
    (h : tokensFrom context (start + Text.utf8Size context.held) input = .ok placed) :
    Laid start (context.held ++ input) placed := by
  induction hn : input.length using Nat.strong_induction_on
    generalizing context start input placed with
  | _ n ih =>
    cases input with
    | nil =>
        rw [tokensFrom] at h
        cases context with
        | outside | reference _ | arguments => cases h
        | closed =>
            cases h
            exact .nil start
    | cons c rest =>
        cases hs : context.step (start + Text.utf8Size context.held) (next c rest).1 with
        | error fault => rw [tokensFrom_cons_error hs] at h; cases h
        | ok s =>
            have hshort := length_append_next_lt c rest
              (Context.length_back_lt (text_next_ne_nil c rest) hs)
            rw [tokensFrom_cons hs] at h
            obtain ⟨below, hbelow, rfl⟩ := exists_of_map_eq_ok h
            obtain ⟨front, htext, hfront⟩ :=
              Context.laid_of_step (isSound_next c rest) (text_next_ne_nil c rest) hs
            -- The next step starts behind what this one laid out and what it holds.
            have hstart : start + Text.utf8Size context.held + Text.utf8Size (next c rest).1.text -
                Text.utf8Size s.back =
                  start + Text.utf8Size front + Text.utf8Size s.context.held := by
              have hsize := congrArg Text.utf8Size htext
              simp only [Text.utf8Size_append] at hsize
              omega
            rw [hstart] at hbelow
            have hinput : context.held ++ c :: rest =
                front ++ (s.context.held ++ (s.back ++ (next c rest).2)) := by
              rw [← text_append_next c rest, ← List.append_assoc, htext]
              simp
            rw [hinput]
            exact hfront.append (ih _ (hn ▸ hshort) hbelow rfl)

/-! ## Bytes of tokens -/

theorem Laid.exists_of_mem {t : PlacedToken} (h : Laid start input placed) (ht : t ∈ placed) :
    ∃ before written after, input = before ++ written ++ after ∧
      t.start = start + Text.utf8Size before ∧ t.stop = start + Text.utf8Size (before ++ written) ∧
      written ≠ [] ∧ t.token.WrittenAs written := by
  induction h with
  | blanks start hb => cases ht
  | @token start blanks written rest token placed hb hw hne _ ih =>
      rcases List.mem_cons.mp ht with rfl | ht
      · exact ⟨blanks, written, rest, rfl, rfl, rfl, hne, hw⟩
      · obtain ⟨before, written', after, rfl, hstart, hstop, hne', hw'⟩ := ih ht
        refine ⟨blanks ++ written ++ before, written', after, by simp, ?_, ?_, hne', hw'⟩
        · rw [hstart, Text.utf8Size_append _ before, Nat.add_assoc]
        · rw [hstop, List.append_assoc, Text.utf8Size_append _ (before ++ written'), Nat.add_assoc]

theorem Laid.pairwise (h : Laid start input placed) :
    placed.Pairwise fun t u => t.stop ≤ u.start := by
  induction h with
  | blanks start hb => exact .nil
  | token hb hw hne hr ih =>
      refine .cons (fun u hu => ?_) ih
      obtain ⟨before, -, -, -, hstart, -⟩ := hr.exists_of_mem hu
      rw [hstart]
      exact Nat.le_add_right _ _

theorem length_utf8 (t : Text) : (t.flatMap String.utf8EncodeChar).length = Text.utf8Size t := by
  induction t with
  | nil => rfl
  | cons c t ih => rw [List.flatMap_cons, List.length_append, ih, String.length_utf8EncodeChar]; rfl

theorem mem_of_mem_utf8_blanks {blanks : Text} (hb : ∀ c ∈ blanks, isSeparator c = true) {byte : UInt8}
    (h : byte ∈ blanks.flatMap String.utf8EncodeChar) : byte ∈ [0x20, 0x09, 0x0d, 0x0a] := by
  obtain ⟨c, hc, hbyte⟩ := List.mem_flatMap.mp h
  have hsep : c = ' ' ∨ c = '\t' ∨ c = '\r' ∨ c = '\n' := by
    simpa [isSeparator, or_assoc] using hb c hc
  have hbytes : String.utf8EncodeChar c ⊆ [0x20, 0x09, 0x0d, 0x0a] := by
    rcases hsep with rfl | rfl | rfl | rfl <;> decide
  exact hbytes hbyte

/-- A byte that is no token's is that of a blank. -/
theorem Laid.mem_of_getElem? (h : Laid start input placed) {i : Nat} {byte : UInt8}
    (hi : (input.flatMap String.utf8EncodeChar)[i]? = some byte)
    (hout : ∀ t ∈ placed, start + i < t.start ∨ t.stop ≤ start + i) :
    byte ∈ [0x20, 0x09, 0x0d, 0x0a] := by
  induction h generalizing i with
  | blanks start hb => exact mem_of_mem_utf8_blanks hb (List.mem_of_getElem? hi)
  | @token start blanks written rest token placed hb hw hne _ ih =>
      have hfirst := hout _ List.mem_cons_self
      rw [List.flatMap_append] at hi
      simp only [Nat.add_lt_add_iff_left, Nat.add_le_add_iff_left] at hfirst
      rcases hfirst with hbefore | hbehind
      · have hblanks : i < ((blanks ++ written).flatMap String.utf8EncodeChar).length := by
          rw [length_utf8, Text.utf8Size_append]
          omega
        rw [List.getElem?_append_left hblanks, List.flatMap_append,
          List.getElem?_append_left (by rwa [length_utf8])] at hi
        exact mem_of_mem_utf8_blanks hb (List.mem_of_getElem? hi)
      · rw [List.getElem?_append_right (by rwa [length_utf8]), length_utf8] at hi
        refine ih hi fun t ht => ?_
        have hrest := hout t (List.mem_cons_of_mem _ ht)
        omega

/-! ## Commands -/

/-- The tokens stand in the command one behind the other, and between them are only blanks. -/
structure Covers (command : Text) (placed : List PlacedToken) : Prop where
  /-- A token takes a part of the command, from character to character, which writes it. -/
  written : ∀ t ∈ placed, ∃ before written after, command = before ++ written ++ after ∧
    t.start = Text.utf8Size before ∧ t.stop = Text.utf8Size (before ++ written) ∧
    t.start < t.stop ∧ t.token.WrittenAs written
  ordered : placed.Pairwise fun t u => t.stop ≤ u.start
  /-- A byte of no token is a space, a tab, a carriage return or a line feed. -/
  between : ∀ i byte, (Text.encode command).data.toList[i]? = some byte →
    (∀ t ∈ placed, i < t.start ∨ t.stop ≤ i) → byte ∈ [0x20, 0x09, 0x0d, 0x0a]

theorem utf8Size_pos {t : Text} (h : t ≠ []) : 0 < Text.utf8Size t := by
  obtain ⟨c, t, rfl⟩ := List.exists_cons_of_ne_nil h
  exact Nat.add_pos_left c.utf8Size_pos _

theorem Laid.covers {command : Text} (h : Laid 0 command placed) : Covers command placed := by
  refine ⟨fun t ht => ?_, h.pairwise, fun i byte hi hout => ?_⟩
  · obtain ⟨before, written, after, he, hstart, hstop, hne, hw⟩ := h.exists_of_mem ht
    have hpos := utf8Size_pos hne
    rw [Text.utf8Size_append] at hstop
    refine ⟨before, written, after, he, ?_, ?_, ?_, hw⟩
    · omega
    · rw [Text.utf8Size_append]
      omega
    · omega
  · rw [Text.encode_eq, List.toList_data_toByteArray] at hi
    refine h.mem_of_getElem? hi ?_
    simpa using hout

/-- The reading of a command drops nothing but blanks: its tokens cover it. They are an opening
parenthesis, one reference, arguments and a closing parenthesis. -/
theorem tokens_cover {command : Text} (h : tokens command = .ok placed) :
    Covers command placed ∧
      ∃ reference args, placed.map PlacedToken.token =
          .openParen :: .reference reference :: (args ++ [.closeParen]) ∧
        ∀ t ∈ args, t ≠ .openParen ∧ t ≠ .closeParen ∧ ∀ value, t ≠ .reference value := by
  have hlaid : Laid 0 command placed := laid_of_tokensFrom h
  obtain ⟨reference, args, hargs, hm⟩ := exists_of_tokens h
  refine ⟨hlaid.covers, reference, args, hm, fun t ht => ?_⟩
  have harg := hargs t ht
  refine ⟨?_, ?_, ?_⟩
  · rintro rfl; exact harg
  · rintro rfl; exact harg
  · rintro value rfl; exact harg

theorem tokens_cover_multibyte :
    let command := " (/é\" go\t/\\//$ )\r\n".toList
    let placed : List PlacedToken := [⟨.openParen, 1, 2⟩, ⟨.reference "/é\"".toList, 2, 6⟩,
      ⟨.word "go".toList, 7, 9⟩, ⟨.pattern "\\/".toList, 10, 14⟩, ⟨.endOfContent, 14, 15⟩,
      ⟨.closeParen, 16, 17⟩]
    tokens command = .ok placed ∧ Covers command placed ∧
      ∃ reference args, placed.map PlacedToken.token =
          .openParen :: .reference reference :: (args ++ [.closeParen]) ∧
        ∀ t ∈ args, t ≠ .openParen ∧ t ≠ .closeParen ∧ ∀ value, t ≠ .reference value := by
  intro command placed
  have h : tokens command = .ok placed := by decide +kernel
  exact ⟨h, tokens_cover h⟩

end Command

end Transclude
