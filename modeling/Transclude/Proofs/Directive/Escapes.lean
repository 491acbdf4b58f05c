import Transclude.Proofs.Command.Shift

/-!
# Escapes in patterns

The literal of a pattern is a text of plain characters and backslash pairs. Only the pair that escapes a
slash is decoded, and this is done without regard to pairs, wherever a backslash stands before a slash.
It makes no difference for the literals that a command can hold, because a slash stands there in a pair
only (`unescape_flatMap_text`).
-/

namespace Transclude.Pattern

theorem unescape_cons {c : Char} {rest : Text} (h : c ≠ '\\' ∨ rest.head? ≠ some '/') :
    unescape (c :: rest) = c :: unescape rest := by
  rw [unescape.eq_def]
  split
  · next he => cases he
  · next he =>
      obtain ⟨rfl, rfl⟩ := List.cons.inj he
      simp at h
  · next he =>
      obtain ⟨rfl, rfl⟩ := List.cons.inj he
      rfl

/-- A plain character, or a backslash and the character after it. -/
inductive Piece where
  | plain (c : Char) (h : c ≠ '\\')
  | pair (c : Char)
  deriving DecidableEq

namespace Piece

/-- The piece as it is written. -/
def text : Piece → Text
  | .plain c _ => [c]
  | .pair c => ['\\', c]

/-- The pieces of a text, read from left to right; none if a backslash is left over at its end. -/
def read? : Text → Option (List Piece)
  | [] => some []
  | ['\\'] => none
  | '\\' :: c :: rest => (read? rest).map (.pair c :: ·)
  | c :: rest =>
    if h : c ≠ '\\' then (read? rest).map (.plain c h :: ·) else none

/-- A slash that is not escaped. -/
def slash : Piece := .plain '/' (by decide)

/-- The piece as a regular expression has it: an escaped slash is a slash. -/
def decoded (piece : Piece) : Text := if piece = .pair '/' then ['/'] else piece.text

/-- The piece as a literal has it: a slash is escaped. -/
def escape (piece : Piece) : Piece := if piece = slash then .pair '/' else piece

/-! ## Reading pieces -/

theorem read?_flatMap_text (pieces : List Piece) : read? (pieces.flatMap text) = some pieces := by
  induction pieces with
  | nil => rfl
  | cons piece pieces ih =>
      cases piece with
      | plain c h => simp [text, read?, h, ih]
      | pair c => simp [text, read?, ih]

theorem flatMap_text_of_read? {t : Text} {pieces : List Piece} (h : read? t = some pieces) :
    pieces.flatMap text = t := by
  fun_induction read? t generalizing pieces with
  | case1 => cases h; rfl
  | case2 => cases h
  | case3 c rest ih =>
      obtain ⟨below, hb, rfl⟩ := Option.map_eq_some_iff.mp h
      simp [text, ih hb]
  | case4 c rest _ _ hc ih =>
      obtain ⟨below, hb, rfl⟩ := Option.map_eq_some_iff.mp h
      simp [text, ih hb]
  | case5 => cases h

theorem exists_of_isPatternBody {body : Text} (h : Lexeme.IsPatternBody body) :
    ∃ pieces : List Piece, slash ∉ pieces ∧ pieces.flatMap text = body := by
  induction h with
  | nil => exact ⟨[], by simp, rfl⟩
  | @plain c rest hc _ ih =>
      obtain ⟨pieces, hs, rfl⟩ := ih
      refine ⟨.plain c hc.1 :: pieces, fun hm => ?_, rfl⟩
      rcases List.mem_cons.mp hm with he | hm
      · exact hc.2.1 (Piece.plain.inj he).symm
      · exact hs hm
  | @pair c rest hc _ ih =>
      obtain ⟨pieces, hs, rfl⟩ := ih
      refine ⟨.pair c :: pieces, fun hm => ?_, rfl⟩
      rcases List.mem_cons.mp hm with he | hm
      · cases he
      · exact hs hm

theorem isPatternBody_flatMap_text {pieces : List Piece} (hs : slash ∉ pieces)
    (hn : '\n' ∉ pieces.flatMap text) : Lexeme.IsPatternBody (pieces.flatMap text) := by
  induction pieces with
  | nil => exact .nil
  | cons piece pieces ih =>
      rw [List.mem_cons, not_or] at hs
      rw [List.flatMap_cons, List.mem_append, not_or] at hn
      have ih := ih hs.2 hn.2
      cases piece with
      | plain c h =>
          refine .plain ⟨h, ?_, ?_⟩ ih
          · rintro rfl
            exact hs.1 rfl
          · rintro rfl
            simp [text] at hn
      | pair c =>
          refine .pair ?_ ih
          rintro rfl
          simp [text] at hn

/-! ## Escaped slashes -/

theorem slash_not_mem_map_escape (pieces : List Piece) : slash ∉ pieces.map escape := by
  intro hm
  obtain ⟨piece, -, he⟩ := List.mem_map.mp hm
  unfold escape at he
  split at he
  · cases he
  · next hne => exact hne he

theorem decoded_escape {piece : Piece} (h : piece ≠ .pair '/') :
    (escape piece).decoded = piece.text := by
  by_cases hs : piece = slash
  · subst hs
    rfl
  · rw [escape, if_neg hs, decoded, if_neg h]

theorem newline_not_mem_flatMap_escape {pieces : List Piece} (h : '\n' ∉ pieces.flatMap text) :
    '\n' ∉ (pieces.map escape).flatMap text := by
  rw [List.flatMap_map]
  intro hm
  obtain ⟨piece, hp, hc⟩ := List.mem_flatMap.mp hm
  unfold escape at hc
  split at hc
  · exact absurd hc (by decide)
  · exact h (List.mem_flatMap.mpr ⟨piece, hp, hc⟩)

/-! ## Decoding -/

theorem head?_flatMap_text {pieces : List Piece} (h : slash ∉ pieces) :
    (pieces.flatMap text).head? ≠ some '/' := by
  cases pieces with
  | nil => simp
  | cons piece pieces =>
      cases piece with
      | plain c hc =>
          rintro ⟨⟩
          exact h List.mem_cons_self
      | pair c => simp [text]

/-- Where each slash is escaped, decoding replaces the pairs of a backslash and a slash, and no backslash
of another pair. -/
theorem unescape_flatMap_text {pieces : List Piece} (h : slash ∉ pieces) :
    unescape (pieces.flatMap text) = pieces.flatMap decoded := by
  induction pieces with
  | nil => rfl
  | cons piece pieces ih =>
      have hbelow : slash ∉ pieces := fun hm => h (List.mem_cons_of_mem _ hm)
      rw [List.flatMap_cons, List.flatMap_cons, ← ih hbelow]
      cases piece with
      | plain c hc => exact unescape_cons (Or.inl hc)
      | pair c =>
          by_cases hc : c = '/'
          · subst hc
            rfl
          · have hpair : Piece.pair c ≠ .pair '/' := by simpa using hc
            rw [decoded, if_neg hpair]
            -- The second character of the pair may be a backslash, but no slash stands behind it.
            have hsecond := unescape_cons (c := c) (Or.inr (head?_flatMap_text hbelow))
            have hfirst : unescape ('\\' :: c :: pieces.flatMap text) =
                '\\' :: unescape (c :: pieces.flatMap text) := unescape_cons (Or.inr (by simpa using hc))
            exact hfirst.trans (congrArg _ hsecond)

theorem unescape_map_escape {pieces : List Piece} (h : .pair '/' ∉ pieces) :
    unescape ((pieces.map escape).flatMap text) = pieces.flatMap text := by
  rw [unescape_flatMap_text (slash_not_mem_map_escape pieces), List.flatMap_map]
  refine List.flatMap_congr fun piece hp => decoded_escape ?_
  rintro rfl
  exact h hp

end Piece

/-! ## Patterns of commands -/

theorem exists_tokens_pattern {r literal : Text} (hr : Command.IsBare r)
    (hb : Lexeme.IsPatternBody literal) :
    ∃ placed, Command.tokens ('(' :: (r ++ ' ' :: ((Token.pattern literal).text ++ [')']))) = .ok placed ∧
      placed.map PlacedToken.token = [.openParen, .reference r, .pattern literal, .closeParen] := by
  have harg : ∀ t ∈ [Token.pattern literal], t.IsArgument := by
    simpa [Token.IsArgument] using hb
  obtain ⟨placed, hp, hm⟩ := Command.tokensFrom_flatMap_text 0 harg
    (List.forall_mem_nil (Lexeme.isSeparator · = true))
  have htext : [Token.pattern literal].flatMap (fun t => ' ' :: t.text) ++ [')'] =
      ' ' :: ((Token.pattern literal).text ++ [')']) := by simp
  rw [htext] at hp
  rw [Command.tokens_reference hr (Lexeme.ends_space _), hp]
  have hshift : PlacedToken.token ∘ PlacedToken.shift (1 + Text.utf8Size r) = PlacedToken.token := rfl
  exact ⟨_, rfl, by simp [hshift, hm]⟩

/-- A pattern of a command is compiled with its escaped slashes decoded and all other pairs as they are
written. Any text without line feeds and without an escaped slash can be compiled: with its slashes
escaped it is one token between slashes, and compiled as the text. -/
theorem unescape_pieces [Matcher] :
    (∀ (command : Text) placed body, Command.tokens command = .ok placed →
      .pattern body ∈ placed.map PlacedToken.token →
      ∃ pieces, Piece.read? body = some pieces ∧ unescape body = pieces.flatMap Piece.decoded ∧
        (ofLiteral? body).map regex = Matcher.compile? (pieces.flatMap Piece.decoded)) ∧
    ∀ (t : Text) pieces, '\n' ∉ t → Piece.read? t = some pieces → .pair '/' ∉ pieces →
      let literal := (pieces.map Piece.escape).flatMap Piece.text
      (∀ start rest, Command.tokensFrom .arguments start ('/' :: literal ++ ['/'] ++ rest) =
        (Command.tokensFrom .arguments (start + Text.utf8Size ('/' :: literal ++ ['/'])) rest).map
          (⟨.pattern literal, start, start + Text.utf8Size ('/' :: literal ++ ['/'])⟩ :: ·)) ∧
      (∀ r, Command.IsBare r →
        (Command.tokens ('(' :: (r ++ ' ' :: ('/' :: literal ++ ['/'] ++ [')'])))).map
            (List.map PlacedToken.token) =
          .ok [.openParen, .reference r, .pattern literal, .closeParen]) ∧
      unescape literal = t ∧ (ofLiteral? literal).map regex = Matcher.compile? t := by
  refine ⟨fun command placed body h hm => ?_, fun t pieces hn hread hpair => ?_⟩
  · obtain ⟨reference, args, hargs, htokens⟩ := Command.exists_of_tokens h
    have hbody : Lexeme.IsPatternBody body := by
      rw [htokens] at hm
      have hin : Token.pattern body ∈ args := by simpa using hm
      exact hargs _ hin
    obtain ⟨pieces, hs, rfl⟩ := Piece.exists_of_isPatternBody hbody
    have hdecoded := Piece.unescape_flatMap_text hs
    exact ⟨pieces, Piece.read?_flatMap_text pieces, hdecoded, hdecoded ▸ map_regex_ofLiteral? _⟩
  · obtain rfl := Piece.flatMap_text_of_read? hread
    intro literal
    have hbody : Lexeme.IsPatternBody literal :=
      Piece.isPatternBody_flatMap_text (Piece.slash_not_mem_map_escape pieces)
        (Piece.newline_not_mem_flatMap_escape hn)
    have hdecoded : unescape literal = pieces.flatMap Piece.text := Piece.unescape_map_escape hpair
    refine ⟨fun start => Command.tokensFrom_pattern start hbody, fun r hr => ?_, hdecoded,
      hdecoded ▸ map_regex_ofLiteral? literal⟩
    obtain ⟨placed, hp, hm⟩ := exists_tokens_pattern hr hbody
    exact (congrArg (Except.map (List.map PlacedToken.token)) hp).trans (congrArg Except.ok hm)

theorem unescape_pieces_backslashes :
    let command := "(a.go /x\\\\\\/\\.\\\\/)".toList
    let body := "x\\\\\\/\\.\\\\".toList
    let t := "\\\\/\\d/".toList
    let literal := "\\\\\\/\\d\\/".toList
    (∃ placed, Command.tokens command = .ok placed ∧
        .pattern body ∈ placed.map PlacedToken.token ∧
        ∃ pieces, Piece.read? body = some pieces ∧ unescape body = pieces.flatMap Piece.decoded) ∧
      unescape body = "x\\\\/\\.\\\\".toList ∧
      (Command.tokens ("(b.go /".toList ++ literal ++ "/)".toList)).map
          (List.map PlacedToken.token) =
        .ok [.openParen, .reference "b.go".toList, .pattern literal, .closeParen] ∧
      unescape literal = t ∧ (ofLiteral? literal).map regex = Regex.ofText? t := by
  intro command body t literal
  have htokens : (Command.tokens command).map (List.map PlacedToken.token) =
      .ok [.openParen, .reference "a.go".toList, .pattern body, .closeParen] := by decide +kernel
  obtain ⟨placed, hplaced, hm⟩ := exists_of_map_eq_ok htokens
  have hbody : .pattern body ∈ placed.map PlacedToken.token := by simp [hm]
  obtain ⟨pieces, hread, hdecoded, -⟩ := unescape_pieces.1 command placed body hplaced hbody
  have hr : Command.IsBare "b.go".toList := ⟨by decide, List.all_eq_true.mp (by decide), by decide⟩
  obtain ⟨-, htoken, hunescape, hregex⟩ := unescape_pieces.2 t
    [.pair '\\', Piece.slash, .pair 'd', Piece.slash] (by decide) (by decide) (by decide)
  exact ⟨⟨placed, hplaced, hbody, pieces, hread, hdecoded⟩, by decide +kernel, htoken _ hr, hunescape,
    hregex⟩

end Transclude.Pattern
