import Transclude.Proofs.Block.Fencing
import Transclude.Proofs.Fence

/-!
# Skipping written blocks

The block that is written for a directive is skipped as a whole by the next reader, up to its last
line and no further, whatever its snippet holds (`split_front_append`). This takes a directive whose
fence the reader finds: one for which reader and writer agree on whether there is a fence, and whose
language leaves the opening line of the fence as it is.
-/

namespace Transclude

/-! ## Lists up to an element -/

theorem throughFirst?_append {α : Type} {p : α → Bool} {before : List α}
    (h : ∀ a ∈ before, p a = false) (rest : List α) :
    throughFirst? p (before ++ rest) =
      (throughFirst? p rest).map fun parts => (before ++ parts.1, parts.2) := by
  induction before with
  | nil => simp
  | cons a before ih =>
      have ih' := ih fun b hb => h b (by simp [hb])
      simp [throughFirst?, h a (by simp), ih', Function.comp_def]

theorem throughFirst?_cons {α : Type} {p : α → Bool} {a : α} (h : p a = true) (rest : List α) :
    throughFirst? p (a :: rest) = some ([a], rest) := by
  simp [throughFirst?, h]

namespace Block

/-! ## Marks -/

theorem isEnd_append_of_blank {line blanks : Text} (h : ∀ c ∈ blanks, Text.isBlank c = true) :
    isEnd (line ++ blanks) = isEnd line := by
  simp only [isEnd, Text.trim_append_of_blank h]

theorem ignoresEnding_isEnd : Text.IgnoresEnding isEnd := fun _ he _ =>
  isEnd_append_of_blank he.isBlank

theorem isEnd_endMark {eol : Text} (he : Text.IsEol eol) : isEnd (endMark ++ eol) = true := by
  rw [isEnd_append_of_blank he.isBlank]
  decide

theorem isEnd_backtick (t : Text) : isEnd ('\x60' :: t) = false := by
  have hstart : Text.trimStart ('\x60' :: t) = '\x60' :: t :=
    Text.trimStart_append_cons (by decide) [] t
  have hend : Text.trimEnd ('\x60' :: t) = '\x60' :: Text.trimEnd t :=
    Text.trimEnd_append_cons (by decide) [] t
  rw [isEnd, Text.trim, hstart, hend, beq_eq_false_iff_ne]
  intro h
  have hmark : endMark = '<' :: endMark.tail := by decide
  rw [hmark] at h
  exact absurd (List.cons.inj h).1 (by decide)

theorem commentEnd_infix_of_isEnd {line : Text} (h : isEnd line = true) : commentEnd <:+: line := by
  have hm : Text.trim line = endMark := by simpa [isEnd] using h
  have he : commentEnd <:+: endMark := by decide
  exact (hm ▸ he).trans (Text.isInfix_trim line)

theorem trim_beginMark_append (t : Text) : Text.trim (beginMark ++ t) = beginMark ++ Text.trimEnd t := by
  have hfirst : beginMark = '<' :: beginMark.tail := by decide
  have hlast : beginMark = beginMark.dropLast ++ ['n'] := by decide
  have hstart : Text.trimStart (beginMark ++ t) = beginMark ++ t := by
    rw [hfirst]
    exact Text.trimStart_append_cons (by decide) [] _
  have hend : Text.trimEnd (beginMark.dropLast ++ 'n' :: t) =
      beginMark.dropLast ++ 'n' :: Text.trimEnd t := Text.trimEnd_append_cons (by decide) _ t
  rw [Text.trim, hstart, hlast, List.append_assoc, List.append_assoc]
  exact hend

theorem isBegin_beginMark (t : Text) : isBegin (beginMark ++ t) = true := by
  rw [isBegin, trim_beginMark_append]
  exact List.isPrefixOf_iff_prefix.mpr (List.prefix_append _ _)

theorem isBegin_beginLine (directive : Directive) (eol : Text) :
    isBegin (beginLine directive eol) = true := by
  rw [beginLine, List.append_assoc, List.append_assoc]
  exact isBegin_beginMark _

/-! ## The line that begins a block -/

/-- The line that the block of a directive begins with, without its line ending. It is only a part of
what is written for the directive where the reference holds a line feed. -/
def firstLine (directive : Directive) : Text :=
  (beginLine directive []).takeWhile (· != '\n')

theorem echo?_eq_none_of_not_infix {g : Text} (hg : ¬ commentEnd <:+: g) :
    echo? (beginMark ++ ' ' :: g) = none := by
  have hafter : Text.after? beginMark (beginMark ++ Text.trimEnd (' ' :: g)) =
      some (Text.trimEnd (' ' :: g)) := by simp [Text.after?]
  rw [echo?, trim_beginMark_append, hafter]
  cases hb : Text.before? commentEnd (Text.trimEnd (' ' :: g)) with
  | none => simp [hb]
  | some x =>
      have hx : x ++ commentEnd = Text.trimEnd (' ' :: g) := by simpa [Text.before?] using hb
      have hi : commentEnd <:+: [] ++ ' ' :: g :=
        (hx ▸ (List.suffix_append x commentEnd).isInfix).trans (Text.isPrefix_trimEnd _).isInfix
      rcases infix_or_infix_of_not_mem (by decide) hi with hi | hi
      · exact absurd hi (by decide)
      · exact absurd hi hg

theorem isEnd_closeParen_commentEnd {eol : Text} (he : Text.IsEol eol) (t : Text) :
    isEnd (t ++ ')' :: ' ' :: commentEnd ++ eol) = false := by
  rw [isEnd_append_of_blank he.isBlank, Bool.eq_false_iff]
  intro h
  have hm : Text.trim (t ++ ')' :: ' ' :: commentEnd) = endMark := by simpa [isEnd] using h
  have ht : Text.trim (t ++ ')' :: ' ' :: commentEnd) =
      Text.trimStart t ++ ')' :: ' ' :: commentEnd := by
    rw [Text.trim, Text.trimStart_append_cons (by decide), commentEnd_eq]
    have h := Text.trimEnd_append_cons (show Text.isBlank '>' = false by decide)
      (Text.trimStart t ++ [')', ' ', '-', '-']) []
    simpa [Text.trimEnd] using h
  have hs : ')' :: ' ' :: commentEnd <:+ endMark := by
    rw [← hm, ht]
    exact List.suffix_append _ _
  exact absurd hs (by decide)

theorem isEnd_eq_false_of_mem_lines {g eol line : Text} (hg : ¬ commentEnd <:+: g)
    (he : Text.IsEol eol) (h : line ∈ Text.lines (g ++ ')' :: ' ' :: commentEnd ++ eol)) :
    isEnd line = false := by
  induction hn : g.length using Nat.strong_induction_on generalizing g with
  | _ n ih =>
    by_cases hlf : '\n' ∈ g
    · obtain ⟨front, back, rfl, hf⟩ := List.eq_append_cons_of_mem hlf
      rw [List.append_assoc, List.append_assoc, List.cons_append, Text.lines_append hf] at h
      rcases List.mem_cons.mp h with rfl | h
      · rw [isEnd_append_of_blank (Text.IsEol.isBlank (Or.inl rfl)), Bool.eq_false_iff]
        intro he'
        exact hg ((commentEnd_infix_of_isEnd he').trans (List.prefix_append _ _).isInfix)
      · refine ih back.length (by simp [← hn]; omega) (fun hb => hg (hb.trans ?_)) ?_ rfl
        · exact ((List.suffix_cons _ _).trans (List.suffix_append _ _)).isInfix
        · simpa using h
    · have hfull : Text.IsFull (g ++ ')' :: ' ' :: commentEnd ++ eol) :=
        Text.IsFull.append_eol (by simp [hlf, commentEnd_eq]) he
      rw [hfull.lines, List.mem_singleton] at h
      rw [h]
      exact isEnd_closeParen_commentEnd he g

theorem firstLine_of_not_mem {directive : Directive} (h : '\n' ∉ directive.text) :
    '\n' ∉ beginLine directive [] ∧ firstLine directive = beginLine directive [] := by
  have hn : '\n' ∉ beginLine directive [] := by
    have hb : '\n' ∉ beginMark := by decide
    simp [beginLine, hb, h, commentEnd_eq]
  refine ⟨hn, ?_⟩
  rw [firstLine, List.takeWhile_eq_self_iff]
  intro c hc
  simp only [bne_iff_ne, ne_eq]
  rintro rfl
  exact hn hc

theorem isFull_beginLine {directive : Directive} {eol : Text} (h : '\n' ∉ directive.text)
    (he : Text.IsEol eol) : Text.IsFull (beginLine directive eol) := by
  rw [beginLine_eq]
  exact Text.IsFull.append_eol (firstLine_of_not_mem h).1 he

theorem exists_of_guardEnds_text {directive : Directive} {front back : Text}
    (h : guardEnds directive.text = front ++ '\n' :: back) : ∃ g, back = g ++ [')'] := by
  have hclose : ∃ g, guardEnds directive.text = g ++ [')'] := ⟨_, guardEnds_concat (by decide) _⟩
  obtain ⟨g, hg⟩ := hclose
  rw [h] at hg
  rcases List.eq_nil_or_concat back with rfl | ⟨g', c, rfl⟩
  · have := (List.append_singleton_inj.mp hg).2
    exact absurd this (by decide)
  · have hg' : (front ++ '\n' :: g') ++ [c] = g ++ [')'] := by simpa using hg
    obtain ⟨-, rfl⟩ := List.append_singleton_inj.mp hg'
    exact ⟨g', by simp⟩

/-- A line feed in the reference cuts what is written to begin a block: the first line echoes nothing,
and no end of a comment stands before the last characters. -/
theorem exists_of_newline_mem {directive : Directive} (h : '\n' ∈ directive.text) :
    ∃ g, (∀ t, beginLine directive t =
        firstLine directive ++ '\n' :: (g ++ ')' :: ' ' :: commentEnd ++ t)) ∧
      '\n' ∉ firstLine directive ∧ ¬ commentEnd <:+: g ∧
      isBegin (firstLine directive ++ ['\n']) = true ∧ echo? (firstLine directive) = none := by
  have hno := not_commentEnd_infix_guardEnds directive.text
  obtain ⟨front, back, hg, hf⟩ := List.eq_append_cons_of_mem (newline_mem_guardEnds_iff.mpr h)
  obtain ⟨g, rfl⟩ := exists_of_guardEnds_text hg
  have hbegin : ∀ t, beginLine directive t =
      (beginMark ++ ' ' :: front) ++ '\n' :: (g ++ ')' :: ' ' :: commentEnd ++ t) := by
    intro t
    simp [beginLine, hg]
  have hf' : '\n' ∉ beginMark ++ ' ' :: front := by
    have hb : '\n' ∉ beginMark := by decide
    simp [hb, hf]
  have hfirst : firstLine directive = beginMark ++ ' ' :: front := by
    rw [firstLine, hbegin, List.takeWhile_append_of_pos]
    · simp
    · intro c hc
      simp only [bne_iff_ne, ne_eq]
      rintro rfl
      exact hf' hc
  rw [hfirst]
  refine ⟨g, hbegin, hf', fun hi => hno (hg ▸ hi.trans ?_), ?_, ?_⟩
  · exact ((List.prefix_append g [')']).isInfix.trans (List.suffix_cons '\n' _).isInfix).trans
      (List.suffix_append front _).isInfix
  · rw [List.append_assoc]
    exact isBegin_beginMark _
  · exact echo?_eq_none_of_not_infix fun hi => hno (hg ▸ hi.trans (List.prefix_append _ _).isInfix)

/-- The lines that are written to begin a block: the first is read as one that begins a block, and any
others, which a line feed in the reference leaves, neither end it nor come before a fence. -/
theorem exists_lines_beginLine (directive : Directive) {eol : Text} (he : Text.IsEol eol) :
    ∃ first extra, Text.lines (beginLine directive eol) = first :: extra ∧ isBegin first = true ∧
      isFenced first = isFenced (firstLine directive) ∧
      isEndless first = isEndless (firstLine directive) ∧ (∀ line ∈ extra, isEnd line = false) ∧
      (isFenced first = true → extra = [] ∧ '\n' ∉ directive.text) := by
  by_cases hlf : '\n' ∈ directive.text
  · obtain ⟨g, hbegin, hf, hg, hisBegin, hecho⟩ := exists_of_newline_mem hlf
    have hblank : ∀ c ∈ ['\n'], Text.isBlank c = true := Text.IsEol.isBlank (Or.inl rfl)
    have hfirst : isFenced (firstLine directive ++ ['\n']) = isFenced (firstLine directive) :=
      isFenced_append_of_blank hblank
    refine ⟨_, _, by rw [hbegin, Text.lines_append hf], hisBegin, hfirst,
      isEndless_append_of_blank hblank, fun line hl => isEnd_eq_false_of_mem_lines hg he hl, ?_⟩
    intro hfenced
    rw [hfirst] at hfenced
    simp [isFenced, directiveOf?, hecho] at hfenced
  · have hfirst := (firstLine_of_not_mem hlf).2
    refine ⟨_, [], (isFull_beginLine hlf he).lines, isBegin_beginLine directive eol, ?_, ?_, by simp,
      fun _ => ⟨rfl, hlf⟩⟩
    · rw [hfirst, beginLine_eq, isFenced_append_of_blank he.isBlank]
    · rw [hfirst, beginLine_eq, isEndless_append_of_blank he.isBlank]

/-- The line that the block of a directive begins with is read to its end. -/
theorem isEndless_firstLine {directive : Directive} (h : directive.reference ≠ []) :
    isEndless (firstLine directive) = false := by
  rw [Bool.eq_false_iff, Ne, isEndless_eq_true_iff]
  rintro ⟨command, hecho, hendless⟩
  by_cases hlf : '\n' ∈ directive.text
  · obtain ⟨-, -, -, -, -, hnone⟩ := exists_of_newline_mem hlf
    rw [hnone] at hecho
    cases hecho
  · rw [(firstLine_of_not_mem hlf).2, echo?_beginLine_eq] at hecho
    cases hecho
    exact hendless (halts_unguardEnds h)

/-! ## Skipping a block -/

/-- The blocks of a directive with snippets in a language are skipped as a whole: their reader expects
a fence if and only if they have one, and finds it. -/
structure Skippable (directive : Directive) (language : Text) : Prop where
  isFenced_iff : isFenced (firstLine directive) = true ↔ language ≠ unfencedLanguage
  backtick_not_mem : language ≠ unfencedLanguage → '\x60' ∉ language
  newline_not_mem : language ≠ unfencedLanguage → '\n' ∉ language

instance (directive : Directive) (language : Text) : Decidable (Skippable directive language) :=
  decidable_of_iff
    ((isFenced (firstLine directive) = true ↔ language ≠ unfencedLanguage) ∧
      (language ≠ unfencedLanguage → '\x60' ∉ language) ∧
      (language ≠ unfencedLanguage → '\n' ∉ language))
    ⟨fun ⟨h₁, h₂, h₃⟩ => ⟨h₁, h₂, h₃⟩, fun ⟨h₁, h₂, h₃⟩ => ⟨h₁, h₂, h₃⟩⟩

/-- For a directive without quotes and guarded ends, the blocks are skipped unless a fence is left out by
the extension of the reference alone, or opens with a language that it cannot hold. -/
theorem skippable_iff {languages : Languages} {directive : Directive} {language : Text}
    (hd : directive.IsReadable) (hg : ¬ guardedEnd <:+: directive.text)
    (hr : languages.resolve directive = .ok language) :
    Skippable directive language ↔
      ¬ (directive.language = none ∧ language = unfencedLanguage) ∧
        (language ≠ unfencedLanguage → '\x60' ∉ language ∧ '\n' ∉ language) := by
  have hfirst := (firstLine_of_not_mem hd.newline_not_mem_text).2
  have hwraps := isFenced_iff_wraps (hfirst ▸ isFenced_beginLine hd hg) hr
  constructor
  · exact fun hs => ⟨hwraps.mp hs.isFenced_iff, fun hl => ⟨hs.backtick_not_mem hl, hs.newline_not_mem hl⟩⟩
  · exact fun ⟨hn, hl⟩ => ⟨hwraps.mpr hn, fun h => (hl h).1, fun h => (hl h).2⟩

/-- The lines of a written block above its end. -/
def front (directive : Directive) (snippet : Snippet) (eol : Text) : List Text :=
  Text.lines (beginLine directive eol) ++ body snippet eol

/-- Where no fence is found the end of, there is no block. -/
theorem exists_split_eq_error {first : Text} {below : List Text} {cause : Cause}
    (hbegin : isBegin first = true) (h : splitFenceOf first below = .error cause) (bare : Bool) :
    ∃ cause, split bare (first :: below) = .error cause := by
  simp only [split, hbegin, if_true, splitMarked, h]
  split
  · exact ⟨_, rfl⟩
  · exact ⟨_, rfl⟩

theorem splitEnd_append {before : List Text} (h : ∀ line ∈ before, isEnd line = false)
    (below : List Text) :
    splitEnd (before ++ below) = (splitEnd below).map fun parts => (before ++ parts.1, parts.2) := by
  unfold splitEnd
  rw [throughFirst?_append h]
  cases throughFirst? isEnd below <;> rfl

theorem splitEnd_endMark {eol : Text} (he : Text.IsEol eol) (below : List Text) :
    splitEnd ((endMark ++ eol) :: below) = .ok ([endMark ++ eol], below) := by
  rw [splitEnd, throughFirst?_cons (isEnd_endMark he)]

theorem body_of_unfenced (lines : List Text) (eol : Text) :
    body ⟨lines, unfencedLanguage⟩ eol = lines.map (Text.completeLine eol) :=
  body_eq_iff.mpr rfl

theorem body_of_fenced {language : Text} (h : language ≠ unfencedLanguage) (lines : List Text)
    (eol : Text) :
    body ⟨lines, language⟩ eol =
      ((Fence.around lines).marks ++ language ++ eol) :: lines.map (Text.completeLine eol) ++
        [(Fence.around lines).marks ++ eol] := by
  simp [body, h]

theorem splitFenceOf_body {first language eol : Text} (he : Text.IsEol eol)
    (hf : isFenced first = true) (hl : language ≠ unfencedLanguage) (hb : '\x60' ∉ language)
    (lines below : List Text) :
    splitFenceOf first (body ⟨lines, language⟩ eol ++ below) =
      .ok (body ⟨lines, language⟩ eol, below) := by
  have hthrough : throughFirst? (Fence.around lines).closes
      (lines.map (Text.completeLine eol) ++ ((Fence.around lines).marks ++ eol) :: below) =
      some (lines.map (Text.completeLine eol) ++ [(Fence.around lines).marks ++ eol], below) := by
    rw [throughFirst?_append, throughFirst?_cons (Fence.closes_marks_around he lines)]
    · rfl
    · intro line hline
      obtain ⟨line, hmem, rfl⟩ := List.mem_map.mp hline
      exact Fence.closes_around_eq_false he hmem
  rw [body_of_fenced hl, List.append_assoc, List.cons_append, List.singleton_append]
  simp only [splitFenceOf, hf, if_true, Fence.ofLine?_marks_around he hb, splitFence, hthrough]
  rfl

theorem isFull_of_mem_body {language eol : Text} {lines : List Text}
    (hl : language ≠ unfencedLanguage → '\n' ∉ language) (he : Text.IsEol eol)
    (hlines : ∀ line ∈ lines, Text.IsLine line) :
    ∀ line ∈ body ⟨lines, language⟩ eol, Text.IsFull line := by
  have hmap : ∀ line ∈ lines.map (Text.completeLine eol), Text.IsFull line := by
    intro line h
    obtain ⟨line, hmem, rfl⟩ := List.mem_map.mp h
    exact (hlines line hmem).completeLine he
  by_cases hn : language = unfencedLanguage
  · subst hn
    rwa [body_of_unfenced]
  · obtain ⟨n, hn'⟩ := Fence.exists_around_eq lines
    have hmarks : '\n' ∉ (Fence.around lines).marks := by simp [hn', Fence.marks]
    rw [body_of_fenced hn]
    intro line h
    rcases List.mem_append.mp h with h | h
    · rcases List.mem_cons.mp h with rfl | h
      · exact Text.IsFull.append_eol (by simp [hmarks, hl hn]) he
      · exact hmap line h
    · rw [List.mem_singleton.mp h]
      exact Text.IsFull.append_eol hmarks he

theorem lines_flatten_block {directive : Directive} {language eol : Text} {lines : List Text}
    (hl : language ≠ unfencedLanguage → '\n' ∉ language) (he : Text.IsEol eol)
    (hlines : ∀ line ∈ lines, Text.IsLine line) :
    Text.lines (beginLine directive eol :: body ⟨lines, language⟩ eol ++ [endMark ++ eol]).flatten =
      front directive ⟨lines, language⟩ eol ++ [endMark ++ eol] := by
  have hend : Text.IsFull (endMark ++ eol) := Text.IsFull.append_eol (by decide) he
  have hbegin : Text.endsLine (beginLine directive eol) = true :=
    beginLine_eq directive eol ▸ he.endsLine_append _
  rw [List.cons_append, List.flatten_cons, Text.lines_append_of_endsLine hbegin,
    Text.lines_flatten (.append (isFull_of_mem_body hl he hlines) (.cons hend .nil)), front,
    List.append_assoc]

/-- A written block is skipped up to the first line below its front that ends a block. -/
theorem split_front_append {directive : Directive} {language eol : Text} {lines : List Text}
    (hne : directive.reference ≠ []) (hs : Skippable directive language) (he : Text.IsEol eol)
    (hlines : language = unfencedLanguage → ∀ line ∈ lines, isEnd line = false)
    (bare : Bool) (below : List Text) :
    split bare (front directive ⟨lines, language⟩ eol ++ below) =
      (splitEnd below).map fun parts =>
        (front directive ⟨lines, language⟩ eol ++ parts.1, parts.2) := by
  obtain ⟨first, extra, hbegin, hisBegin, hfirst, hendless, hextra, hnil⟩ :=
    exists_lines_beginLine directive he
  rw [isEndless_firstLine hne] at hendless
  have hfenced := hs.isFenced_iff
  rw [← hfirst] at hfenced
  rw [front, hbegin]
  by_cases hl : language = unfencedLanguage
  · subst hl
    have hsplit := splitFenceOf_iff_isFenced.mpr (show isFenced first = false by simpa using hfenced)
    have hend : ∀ line ∈ extra ++ body ⟨lines, unfencedLanguage⟩ eol, isEnd line = false := by
      intro line hline
      rw [body_of_unfenced] at hline
      rcases List.mem_append.mp hline with hline | hline
      · exact hextra line hline
      · obtain ⟨line, hmem, rfl⟩ := List.mem_map.mp hline
        rw [ignoresEnding_isEnd.completeLine he]
        exact hlines rfl line hmem
    simp only [List.cons_append, split, hisBegin, if_true, splitMarked, hendless, Bool.false_eq_true,
      if_false, hsplit, splitEnd_append hend]
    cases splitEnd below <;> rfl
  · have hf : isFenced first = true := hfenced.mpr hl
    obtain ⟨rfl, -⟩ := hnil hf
    simp only [List.cons_append, List.nil_append, split, hisBegin, if_true, splitMarked, hendless,
      Bool.false_eq_true, if_false, splitFenceOf_body he hf hl (hs.backtick_not_mem hl)]

end Block

end Transclude
