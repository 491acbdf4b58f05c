import Transclude.Proofs.Block.Extent

/-!
# Written blocks are found again

A block with a fence is split off exactly as it was written, whatever its snippet holds and whatever
follows it (`split_render_fenced`). Nothing guards a snippet without a fence, so it is refused if it has a
line that ends a block, and the block that it would make ends there for its reader
(`split_render_unfenced`).
-/

namespace Transclude.Block

variable {command language eol : Text} {directive : Directive} {lines : List Text}

/-! ## Reading a block back -/

theorem skippable_of_ofCommand (h : Directive.ofCommand command = .ok directive)
    (hq : Directive.quotesReference command = false) (hg : ¬ guardedEnd <:+: command)
    (hd : directive.language = some unfencedLanguage ↔ language = unfencedLanguage)
    (hl : language ≠ unfencedLanguage → '\x60' ∉ language ∧ '\n' ∉ language) :
    Skippable directive language where
  isFenced_iff := by
    have hread := (Directive.isReadable_of_ofCommand h hq).1
    rw [(firstLine_of_not_mem hread.newline_not_mem_text).2,
      isFenced_beginLine hread (not_guardedEnd_infix_text h hq hg)]
    exact not_congr hd
  backtick_not_mem hn := (hl hn).1
  newline_not_mem hn := (hl hn).2

theorem front_of_not_mem (hd : '\n' ∉ directive.text) (he : Text.IsEol eol) (snippet : Snippet) :
    front directive snippet eol = beginLine directive eol :: body snippet eol := by
  rw [front, (isFull_beginLine hd he).lines, List.singleton_append]

theorem lines_flatten_written (hs : Skippable directive language) (hd : '\n' ∉ directive.text)
    (he : Text.IsEol eol) (hlines : ∀ line ∈ lines, Text.IsLine line) :
    Text.lines (beginLine directive eol :: body ⟨lines, language⟩ eol ++ [endMark ++ eol]).flatten =
      beginLine directive eol :: body ⟨lines, language⟩ eol ++ [endMark ++ eol] := by
  rw [lines_flatten_block hs.newline_not_mem he hlines, front_of_not_mem hd he]

theorem split_written (hne : directive.reference ≠ []) (hs : Skippable directive language)
    (hd : '\n' ∉ directive.text) (he : Text.IsEol eol)
    (hlines : language = unfencedLanguage → ∀ line ∈ lines, isEnd line = false)
    (bare : Bool) (following : List Text) :
    split bare (beginLine directive eol :: body ⟨lines, language⟩ eol ++ [endMark ++ eol] ++ following) =
      .ok (beginLine directive eol :: body ⟨lines, language⟩ eol ++ [endMark ++ eol], following) := by
  have hsplit := split_front_append hne hs he hlines bare ((endMark ++ eol) :: following)
  rw [splitEnd_endMark he, front_of_not_mem hd he] at hsplit
  rw [List.append_assoc, List.singleton_append]
  exact hsplit

/-! ## Blocks with a fence -/

/-- A block with a fence is split off as it was written: its fence opens on its second line and closes on
its last but one, and not on a line of the snippet. -/
theorem split_render_fenced (h : Directive.ofCommand command = .ok directive)
    (hq : Directive.quotesReference command = false) (hg : ¬ guardedEnd <:+: command)
    (hd : directive.language ≠ some unfencedLanguage) (hl : language ≠ unfencedLanguage)
    (hb : '\x60' ∉ language) (hn : '\n' ∉ language) (hlines : ∀ line ∈ lines, Text.IsLine line)
    (he : Text.IsEol eol) :
    ∃ opening closing fence,
      let inside := lines.map (Text.completeLine eol)
      let block := beginLine directive eol :: opening :: inside ++ [closing, endMark ++ eol]
      render directive ⟨lines, language⟩ eol = .ok block ∧ Text.lines block.flatten = block ∧
        (∀ bare following, split bare (block ++ following) = .ok (block, following)) ∧
        Fence.ofLine? opening = some fence ∧ (∀ line ∈ inside, fence.closes line = false) ∧
        fence.closes closing = true := by
  have hread := (Directive.isReadable_of_ofCommand h hq).1
  have hs := skippable_of_ofCommand h hq hg (iff_of_false hd hl) fun _ => ⟨hb, hn⟩
  have hblock : beginLine directive eol :: body ⟨lines, language⟩ eol ++ [endMark ++ eol] =
      beginLine directive eol :: ((Fence.around lines).marks ++ language ++ eol) ::
        lines.map (Text.completeLine eol) ++ [(Fence.around lines).marks ++ eol, endMark ++ eol] := by
    simp [body_of_fenced hl]
  refine ⟨_, _, Fence.around lines, ?_, ?_, fun bare following => ?_,
    Fence.ofLine?_marks_around he hb lines, fun line hm => ?_, Fence.closes_marks_around he lines⟩
  · rw [← hblock]
    exact if_neg fun hu => hl hu.1
  · rw [← hblock]
    exact lines_flatten_written hs hread.newline_not_mem_text he hlines
  · rw [← hblock]
    exact split_written hread.reference_ne_nil hs hread.newline_not_mem_text he (absurd · hl) bare following
  · obtain ⟨line, hmem, rfl⟩ := List.mem_map.mp hm
    exact Fence.closes_around_eq_false he hmem

theorem split_render_fenced_nested :
    let directive : Directive := ⟨"a.md".toList, none, .whole⟩
    let lines := Text.lines "\x60\x60\x60go\n<!-- embedmd:end -->\n  \x60\x60\x60\x60".toList
    Directive.ofCommand "(a.md)".toList = .ok directive ∧
      Directive.quotesReference "(a.md)".toList = false ∧ ¬ guardedEnd <:+: "(a.md)".toList ∧
      ∃ opening closing fence,
        let inside := lines.map (Text.completeLine ['\r', '\n'])
        let block := beginLine directive ['\r', '\n'] :: opening :: inside ++
          [closing, endMark ++ ['\r', '\n']]
        render directive ⟨lines, "markdown".toList⟩ ['\r', '\n'] = .ok block ∧
          Text.lines block.flatten = block ∧
          (∀ bare following, split bare (block ++ following) = .ok (block, following)) ∧
          Fence.ofLine? opening = some fence ∧ (∀ line ∈ inside, fence.closes line = false) ∧
          fence.closes closing = true := by
  have h : Directive.ofCommand "(a.md)".toList = .ok ⟨"a.md".toList, none, .whole⟩ := by decide +kernel
  have hq : Directive.quotesReference "(a.md)".toList = false := by decide +kernel
  have hg : ¬ guardedEnd <:+: "(a.md)".toList := by decide +kernel
  exact ⟨h, hq, hg, split_render_fenced h hq hg (by decide) (by decide) (by decide) (by decide)
    (fun _ => Text.isLine_of_mem_lines) (Or.inr rfl)⟩

/-! ## Blocks without a fence -/

theorem render_unfenced_of_forall (h : ∀ line ∈ lines, isEnd line = false) :
    render directive ⟨lines, unfencedLanguage⟩ eol =
      .ok (beginLine directive eol :: lines.map (Text.completeLine eol) ++ [endMark ++ eol]) := by
  have hany : lines.any isEnd = false := by simpa using h
  simp [render, hany, body_of_unfenced]

theorem render_unfenced_of_mem {line : Text} (hm : line ∈ lines) (h : isEnd line = true) :
    render directive ⟨lines, unfencedLanguage⟩ eol =
      .error (.markerInSnippet directive.reference endMark) :=
  if_pos ⟨rfl, List.any_eq_true.mpr ⟨line, hm, h⟩⟩

/-- A line of the snippet that ends a block ends the one it would stand in. -/
theorem exists_split_of_mem (hne : directive.reference ≠ [])
    (hs : Skippable directive unfencedLanguage) (hd : '\n' ∉ directive.text)
    (he : Text.IsEol eol) {line : Text} (hm : line ∈ lines) (h : isEnd line = true) :
    ∃ tail left, lines.map (Text.completeLine eol) = tail ++ left ∧ ∀ bare below,
      split bare (beginLine directive eol :: lines.map (Text.completeLine eol) ++ below) =
        .ok (beginLine directive eol :: tail, left ++ below) := by
  have hplain : isFenced (beginLine directive eol) = false := by
    rw [beginLine_eq, isFenced_append_of_blank he.isBlank, ← (firstLine_of_not_mem hd).2,
      Bool.eq_false_iff]
    exact fun hf => hs.isFenced_iff.mp hf rfl
  have hends : isEndless (beginLine directive eol) = false := by
    rw [beginLine_eq, isEndless_append_of_blank he.isBlank, ← (firstLine_of_not_mem hd).2]
    exact isEndless_firstLine hne
  cases hthrough : throughFirst? isEnd (lines.map (Text.completeLine eol)) with
  | none =>
      have hline := throughFirst?_eq_none_iff.mp hthrough _ (List.mem_map_of_mem hm)
      rw [ignoresEnding_isEnd.completeLine he, h] at hline
      cases hline
  | some parts =>
      obtain ⟨tail, left⟩ := parts
      have hcut := append_of_throughFirst? hthrough
      refine ⟨tail, left, hcut.symm, fun bare below => ?_⟩
      have hend := throughFirst?_append_left hthrough (left ++ below)
      rw [← List.append_assoc, hcut] at hend
      have hoff : SplitsOff bare _ _ (left ++ below) :=
        .unfenced (isBegin_beginLine directive eol) hends (by simp [fenceBelow?, hplain]) hend
      exact hoff.split_eq

/-- A block without a fence is written only where it is split off as a whole: where its snippet is refused,
the block would be left before its last line. -/
theorem split_render_unfenced (h : Directive.ofCommand command = .ok directive)
    (hq : Directive.quotesReference command = false) (hg : ¬ guardedEnd <:+: command)
    (hd : directive.language = some unfencedLanguage) (hlines : ∀ line ∈ lines, Text.IsLine line)
    (he : Text.IsEol eol) :
    let written := beginLine directive eol :: lines.map (Text.completeLine eol) ++ [endMark ++ eol]
    Text.lines written.flatten = written ∧
      (∀ block, render directive ⟨lines, unfencedLanguage⟩ eol = .ok block →
        block = written ∧
          ∀ bare following, split bare (written ++ following) = .ok (written, following)) ∧
      ∀ cause, render directive ⟨lines, unfencedLanguage⟩ eol = .error cause →
        cause = .markerInSnippet directive.reference endMark ∧
          ∃ block left, written = block ++ left ∧ block ≠ [] ∧ left ≠ [] ∧
            ∀ bare following, split bare (written ++ following) = .ok (block, left ++ following) := by
  have hread := (Directive.isReadable_of_ofCommand h hq).1
  have hs := skippable_of_ofCommand h hq hg (iff_of_true hd rfl) fun hn => absurd rfl hn
  intro written
  have hwritten : beginLine directive eol :: body ⟨lines, unfencedLanguage⟩ eol ++ [endMark ++ eol] =
      written := by rw [body_of_unfenced]
  refine ⟨hwritten ▸ lines_flatten_written hs hread.newline_not_mem_text he hlines, ?_⟩
  by_cases hend : ∃ line ∈ lines, isEnd line = true
  · obtain ⟨line, hm, hline⟩ := hend
    obtain ⟨tail, left, hcut, hsplit⟩ := exists_split_of_mem hread.reference_ne_nil hs hread.newline_not_mem_text he hm hline
    rw [render_unfenced_of_mem hm hline]
    refine ⟨nofun, fun cause hr => ⟨(Except.error.inj hr).symm, beginLine directive eol :: tail,
      left ++ [endMark ++ eol], ?_, by simp, by simp, fun bare following => ?_⟩⟩
    · simp [written, hcut]
    · simpa [written] using hsplit bare ((endMark ++ eol) :: following)
  · have hall : ∀ line ∈ lines, isEnd line = false := fun line hm =>
      Bool.eq_false_iff.mpr fun hline => hend ⟨line, hm, hline⟩
    rw [render_unfenced_of_forall hall]
    refine ⟨fun block hr => ⟨(Except.ok.inj hr).symm, fun bare following => ?_⟩, nofun⟩
    exact hwritten ▸ split_written hread.reference_ne_nil hs hread.newline_not_mem_text he (fun _ => hall) bare following

theorem split_render_unfenced_indented :
    let directive : Directive := ⟨"a.txt".toList, some unfencedLanguage, .whole⟩
    let lines := Text.lines "\x60\x60\x60\n  <!-- embedmd:end -->\nb".toList
    let written := beginLine directive ['\n'] :: lines.map (Text.completeLine ['\n']) ++ [endMark ++ ['\n']]
    Directive.ofCommand "(a.txt none)".toList = .ok directive ∧
      Directive.quotesReference "(a.txt none)".toList = false ∧ ¬ guardedEnd <:+: "(a.txt none)".toList ∧
      render directive ⟨lines, unfencedLanguage⟩ ['\n'] =
        .error (.markerInSnippet "a.txt".toList endMark) ∧
      Text.lines written.flatten = written ∧
      ∃ block left, written = block ++ left ∧ block ≠ [] ∧ left ≠ [] ∧
        ∀ bare following, split bare (written ++ following) = .ok (block, left ++ following) := by
  intro directive lines written
  have h : Directive.ofCommand "(a.txt none)".toList =
      .ok ⟨"a.txt".toList, some unfencedLanguage, .whole⟩ := by decide +kernel
  have hq : Directive.quotesReference "(a.txt none)".toList = false := by decide +kernel
  have hg : ¬ guardedEnd <:+: "(a.txt none)".toList := by decide +kernel
  have hr : render directive ⟨lines, unfencedLanguage⟩ ['\n'] =
      .error (.markerInSnippet "a.txt".toList endMark) := by decide +kernel
  have hlines : ∀ line ∈ lines, Text.IsLine line := fun _ => Text.isLine_of_mem_lines
  obtain ⟨hflat, -, hrefused⟩ := split_render_unfenced h hq hg rfl hlines (Or.inl rfl)
  exact ⟨h, hq, hg, hr, hflat, (hrefused _ hr).2⟩

end Transclude.Block
