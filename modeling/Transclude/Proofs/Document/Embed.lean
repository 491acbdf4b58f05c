import Transclude.Document.Refresh
import Transclude.Proofs.Block.Skip
import Transclude.Proofs.Snippet

/-!
# Embedded blocks

The block that a directive gets is read as the lines of its front and one line that ends it, and the
next reader skips it (`split_of_embed`). Whether a directive gets a block, and the failure if it gets
none, do not depend on the line endings (`embed_eq_error_iff`).
-/

namespace Transclude

theorem mem_lines_of_extract {selection : Selection} {content line : Text} {lines : List Text}
    (h : selection.extract content = .ok lines) (hl : line ∈ lines) : line ∈ Text.lines content :=
  (Selection.infix_of_extract h).subset hl

namespace Sources

variable {sources : Sources} {directive : Directive}

/-- A block is made of the lines that the directive asks for. -/
theorem exists_content_of_embed {eol : Text} {block : List Text}
    (h : sources.embed directive eol = .ok block) :
    ∃ language content lines, sources.languages.resolve directive = .ok language ∧
      sources.content directive.reference = .ok content ∧
      directive.selection.extract content = .ok lines ∧
      (language = unfencedLanguage → ∀ line ∈ lines, Block.isEnd line = false) ∧
      block = Block.beginLine directive eol :: Block.body ⟨lines, language⟩ eol ++
        [Block.endMark ++ eol] := by
  unfold embed at h
  split at h
  · cases h
  next language hlanguage =>
    split at h
    · cases h
    next content hcontent =>
      split at h
      · cases h
      next lines hlines =>
        unfold Block.render at h
        split at h
        · cases h
        next hrender =>
          cases h
          exact ⟨language, content, lines, hlanguage, hcontent, hlines, by simpa using hrender, rfl⟩

theorem exists_of_embed {eol : Text} {block : List Text} (h : sources.embed directive eol = .ok block) :
    ∃ language lines, sources.languages.resolve directive = .ok language ∧
      (∀ line ∈ lines, Text.IsLine line) ∧
      (language = unfencedLanguage → ∀ line ∈ lines, Block.isEnd line = false) ∧
      block = Block.beginLine directive eol :: Block.body ⟨lines, language⟩ eol ++
        [Block.endMark ++ eol] := by
  obtain ⟨language, content, lines, hlanguage, -, hlines, hends, hblock⟩ := exists_content_of_embed h
  exact ⟨language, lines, hlanguage,
    fun line hl => Text.isLine_of_mem_lines (mem_lines_of_extract hlines hl), hends, hblock⟩

theorem embed_of_whole {language content : Text} (eol : Text) (hsel : directive.selection = .whole)
    (hr : sources.languages.resolve directive = .ok language)
    (hc : sources.content directive.reference = .ok content)
    (hends : language = unfencedLanguage → ∀ line ∈ Text.lines content, Block.isEnd line = false) :
    sources.embed directive eol = .ok (Block.beginLine directive eol ::
      Block.body ⟨Text.lines content, language⟩ eol ++ [Block.endMark ++ eol]) := by
  have hrender : ¬ (language = unfencedLanguage ∧ (Text.lines content).any Block.isEnd = true) := by
    rintro ⟨hl, hany⟩
    obtain ⟨line, hm, hline⟩ := List.any_eq_true.mp hany
    rw [hends hl line hm] at hline
    cases hline
  simp only [embed, hr, hc, hsel, Selection.extract, Block.render, if_neg hrender, Except.mapError]

theorem embed_congr {sources' : Sources} (hl : sources'.languages = sources.languages)
    (hc : sources'.content directive.reference = sources.content directive.reference) (eol : Text) :
    sources'.embed directive eol = sources.embed directive eol := by
  simp only [embed, hl, hc]

theorem embed_eq_error_iff {eol eol' : Text} {failure : Failure} :
    sources.embed directive eol = .error failure ↔ sources.embed directive eol' = .error failure := by
  unfold embed Block.render
  split
  · simp
  · split
    · simp
    · split
      · simp
      · split <;> simp [Except.mapError]

/-- A block that cannot be made fails as the source of its content does, or for a cause of its own, and that
is no reading without end. -/
theorem fetch_eq_error_or_of_embed {eol : Text} {failure : Failure}
    (h : sources.embed directive eol = .error failure) :
    sources.fetch sources.base directive.reference = .error failure ∨
      ∃ cause, failure = .ofCause cause ∧ cause ≠ .malformed .endless := by
  unfold embed at h
  split at h
  · next cause hresolve =>
    unfold Languages.resolve at hresolve
    split at hresolve <;> cases hresolve
    cases h
    exact Or.inr ⟨_, rfl, by simp⟩
  split at h
  · next hcontent =>
    cases h
    unfold content at hcontent
    split at hcontent
    · next hfetch =>
      cases hcontent
      exact Or.inl hfetch
    split at hcontent <;> cases hcontent
    exact Or.inr ⟨_, rfl, by simp⟩
  split at h
  · next cause hextract =>
    obtain ⟨literal, boundary, rfl⟩ := Selection.exists_of_extract_eq_error hextract
    cases h
    exact Or.inr ⟨_, rfl, by simp⟩
  · unfold Block.render at h
    split at h <;> cases h
    exact Or.inr ⟨_, rfl, by simp⟩

theorem exists_embed_of_embed {eol : Text} {block : List Text}
    (h : sources.embed directive eol = .ok block) (eol' : Text) :
    ∃ block', sources.embed directive eol' = .ok block' := by
  cases he : sources.embed directive eol' with
  | ok block' => exact ⟨block', rfl⟩
  | error failure => rw [embed_eq_error_iff.mp he] at h; cases h

theorem isFull_of_embed {eol : Text} {block : List Text} (he : Text.IsEol eol)
    (h : sources.embed directive eol = .ok block) :
    ∀ line ∈ Text.lines block.flatten, Text.IsFull line := by
  obtain ⟨language, lines, -, -, -, rfl⟩ := exists_of_embed h
  have hends : Text.endsLine (Block.beginLine directive eol ::
      Block.body ⟨lines, language⟩ eol ++ [Block.endMark ++ eol]).flatten = true := by
    rw [List.flatten_append, List.flatten_singleton, ← List.append_assoc]
    exact he.endsLine_append _
  exact fun line hl => Text.isFull_of_mem_lines hends hl

/-- An embedded block is read as its front and one line that ends it; below its front it is skipped up
to the first line that ends a block. -/
theorem exists_front_of_embed {eol : Text} {block : List Text} (hne : directive.reference ≠ [])
    (he : Text.IsEol eol)
    (h : sources.embed directive eol = .ok block)
    (hs : ∀ language, sources.languages.resolve directive = .ok language →
      Block.Skippable directive language) :
    ∃ front, Text.lines block.flatten = front ++ [Block.endMark ++ eol] ∧
      ∀ bare below, Block.split bare (front ++ below) =
        (Block.splitEnd below).map fun parts => (front ++ parts.1, parts.2) := by
  obtain ⟨language, lines, hlanguage, hlines, hends, rfl⟩ := exists_of_embed h
  have hskip := hs language hlanguage
  exact ⟨_, Block.lines_flatten_block hskip.newline_not_mem he hlines,
    Block.split_front_append hne hskip he hends⟩

/-- The next reader skips an embedded block. -/
theorem split_of_embed {eol : Text} {block : List Text} (hne : directive.reference ≠ [])
    (he : Text.IsEol eol)
    (h : sources.embed directive eol = .ok block)
    (hs : ∀ language, sources.languages.resolve directive = .ok language →
      Block.Skippable directive language) (bare : Bool) (below : List Text) :
    Block.split bare (Text.lines block.flatten ++ below) =
      .ok (Text.lines block.flatten, below) := by
  obtain ⟨front, hblock, hsplit⟩ := exists_front_of_embed hne he h hs
  rw [hblock, List.append_assoc, hsplit, List.singleton_append, Block.splitEnd_endMark he]
  rfl

end Sources

end Transclude
