import Transclude.Proofs.Document.Fences
import Transclude.Proofs.Document.Keeping

/-!
# Line endings of blocks

The lines that a run puts around a snippet end as the line with the directive ends in the output, and
a later run takes their ending from that line (`refresh_follows_endings`). There are two exceptions: a
directive at the very end of a document that a carriage return ends, as the line feed that completes its
line makes another ending of it, and a language that itself ends with a carriage return.
-/

namespace Transclude

/-! ## Blocks -/

namespace Block

/-- The lines of a block above its snippet. -/
def opening (directive : Directive) (snippet : Snippet) (eol : Text) : List Text :=
  beginLine directive eol ::
    if snippet.language = unfencedLanguage then []
    else [(Fence.around snippet.lines).marks ++ snippet.language ++ eol]

/-- The lines of a block below its snippet. -/
def closing (snippet : Snippet) (eol : Text) : List Text :=
  (if snippet.language = unfencedLanguage then [] else [(Fence.around snippet.lines).marks ++ eol]) ++
    [endMark ++ eol]

/-- The lines of a block that are not lines of its snippet. -/
def frame (directive : Directive) (snippet : Snippet) (eol : Text) : List Text :=
  opening directive snippet eol ++ closing snippet eol

theorem opening_append_closing (directive : Directive) (snippet : Snippet) (eol : Text) :
    opening directive snippet eol ++ snippet.lines.map (Text.completeLine eol) ++ closing snippet eol =
      beginLine directive eol :: body snippet eol ++ [endMark ++ eol] := by
  unfold opening closing body
  split <;> simp

/-- The fence leaves the ending of its opening line to the language. -/
theorem getLast?_marks_append (lines : List Text) (language : Text) :
    ((Fence.around lines).marks ++ language).getLast? = some '\r' ↔ language.getLast? = some '\r' := by
  obtain ⟨n, hn⟩ := Fence.exists_around_eq lines
  rw [hn, Fence.marks_backticks, List.getLast?_append]
  cases language.getLast? <;> simp [List.getLast?_cons, List.getLast?_replicate]

variable {eol eol' : Text}

theorem endsIn_beginLine_iff (he : Text.IsEol eol) (directive : Directive) :
    Text.EndsIn eol' (beginLine directive eol) ↔ eol = eol' := by
  refine Text.endsIn_append_iff_of_getLast? he ?_
  rw [List.getLast?_append, List.getLast?_cons]
  simp [commentEnd]

theorem endsIn_endMark_iff (he : Text.IsEol eol) : Text.EndsIn eol' (endMark ++ eol) ↔ eol = eol' :=
  Text.endsIn_append_iff_of_getLast? he (by decide)

theorem endsIn_marks_iff (he : Text.IsEol eol) (lines : List Text) :
    Text.EndsIn eol' ((Fence.around lines).marks ++ eol) ↔ eol = eol' := by
  refine Text.endsIn_append_iff_of_getLast? he fun h => ?_
  rw [← List.append_nil (Fence.marks _)] at h
  cases (getLast?_marks_append lines []).mp h

/-- The frame of a block has the ending that it was written with, unless its language is in the way. -/
theorem endsIn_frame_iff (he : Text.IsEol eol) (directive : Directive) (snippet : Snippet) :
    (∀ line ∈ frame directive snippet eol, Text.EndsIn eol' line) ↔
      eol = eol' ∧ (snippet.language.getLast? = some '\r' → eol = ['\r', '\n']) := by
  by_cases hl : snippet.language = unfencedLanguage
  · have hlast : unfencedLanguage.getLast? ≠ some '\r' := by decide
    simp [frame, opening, closing, hl, hlast, endsIn_beginLine_iff he, endsIn_endMark_iff he]
  · have hopening : Text.lineEnding ((Fence.around snippet.lines).marks ++ snippet.language ++ eol) = eol ↔
        (snippet.language.getLast? = some '\r' → eol = ['\r', '\n']) := by
      rw [Text.lineEnding_append_iff he, ne_eq, getLast?_marks_append, or_iff_not_imp_right, not_not]
    have hmem : (∀ line ∈ frame directive snippet eol, Text.EndsIn eol' line) ↔
        eol = eol' ∧ Text.lineEnding ((Fence.around snippet.lines).marks ++ snippet.language ++ eol) = eol' := by
      simp only [frame, opening, closing, if_neg hl, List.forall_mem_append, List.forall_mem_cons,
        List.not_mem_nil, false_imp_iff, implies_true, and_true, endsIn_beginLine_iff he,
        endsIn_marks_iff he, endsIn_endMark_iff he, Text.endsIn_append_iff he]
      exact ⟨fun h => h.1, fun h => ⟨h, h.1, h.1⟩⟩
    rw [hmem, ← hopening]
    exact and_congr_right fun heol => by rw [heol]

end Block

/-! ## Runs -/

namespace Document

/-- The line of a directive ends with a carriage return only if the document ends with the line. -/
theorem getLast?_eq_return_iff {document line : Text} {d : Directive} {old : List Text}
    {above below : List Part}
    (h : (above ++ .directive line d old :: below).flatMap Part.source = Text.lines document) :
    line.getLast? = some '\r' ↔ old = [] ∧ below = [] ∧ document.getLast? = some '\r' := by
  have hlined := h ▸ Text.lined_lines document
  rw [List.flatMap_append, List.flatMap_cons, Part.source, List.cons_append] at h hlined
  by_cases hrest : old ++ below.flatMap Part.source = []
  · rw [hrest] at h
    have hmem : line ∈ Text.lines document := h ▸ List.mem_append_right _ List.mem_cons_self
    have hlast : document.getLast? = line.getLast? := by
      rw [← Text.flatten_lines document, ← h, List.flatten_append, List.flatten_singleton,
        List.getLast?_append_of_ne_nil _ (Text.ne_nil_of_mem_lines hmem)]
    obtain ⟨rfl, hbelow⟩ := List.append_eq_nil_iff.mp hrest
    obtain rfl := eq_nil_of_flatMap_source hbelow
    simp [hlast]
  · have hlast : line.getLast? = some '\n' := by
      simpa [Text.endsLine] using (hlined.of_append.head_isFull hrest).endsLine
    refine iff_of_false (by simp [hlast]) ?_
    rintro ⟨rfl, rfl, -⟩
    exact hrest rfl

/-- Below each line with a directive the fresh parts have its snippet in a frame. The frame ends its lines as
the written line ends, and a later run takes the same ending from that line, unless the directive stands at
the end of a document that a carriage return ends; a language with a carriage return at its end is in the
way of the frame alone. -/
def FollowsEndings (sources : Sources) (bare : Bool) (document : Text) (fresh : List Part) : Prop :=
  ∀ above line d old below above' part' below',
    Document.parts bare document = above ++ .directive line d old :: below →
    fresh = above' ++ part' :: below' → above'.length = above.length →
    let eol := Text.lineEnding line
    let written := Text.completeLine eol line
    ∃ content snippet, sources.languages.resolve d = .ok snippet.language ∧
      sources.content d.reference = .ok content ∧ d.selection.extract content = .ok snippet.lines ∧
      part' = .directive written d (Text.lines (Block.opening d snippet eol ++
        snippet.lines.map (Text.completeLine eol) ++ Block.closing snippet eol).flatten) ∧
      ((∀ l ∈ Block.frame d snippet eol, Text.EndsIn (Text.lineEnding written) l) ↔
        (old = [] → below = [] → document.getLast? ≠ some '\r') ∧
          (snippet.language.getLast? = some '\r' → eol = ['\r', '\n'])) ∧
      (Text.lineEnding written = eol ↔ (old = [] → below = [] → document.getLast? ≠ some '\r'))

/-- An output consists of fresh parts whose blocks follow the line endings of their directives. -/
theorem refresh_follows_endings {fetch : Fetcher} {base document output : Text} {options : Options}
    (h : (refresh fetch base options document).result = .ok output) :
    ∃ fresh, List.Forall₂ (Part.Refreshed ⟨fetch, base, options.languages⟩)
        (Document.parts options.bareFences document) fresh ∧
      Text.lines output = fresh.flatMap Part.source ∧
      FollowsEndings ⟨fetch, base, options.languages⟩ options.bareFences document fresh := by
  obtain ⟨fence, fresh, hreads, hr, hlines, -⟩ := exists_of_refresh h
  refine ⟨fresh, hr, hlines, ?_⟩
  rintro above line d old below above' part' below' hparts rfl hlen eol written
  have hsource := hreads.flatMap_source
  rw [hparts] at hr hsource
  obtain ⟨-, hrbelow⟩ := forall₂_of_append hr hlen
  obtain ⟨hp, -⟩ := List.forall₂_cons.mp hrbelow
  have hreturn : Text.lineEnding written = eol ↔
      (old = [] → below = [] → document.getLast? ≠ some '\r') := by
    rw [Text.lineEnding_completeLine_iff, ne_eq, getLast?_eq_return_iff hsource, not_and, not_and]
  cases hp with
  | directive he =>
      obtain ⟨language, content, lines, hlanguage, hcontent, hselected, -, rfl⟩ :=
        Sources.exists_content_of_embed he
      refine ⟨content, ⟨lines, language⟩, hlanguage, hcontent, hselected, ?_, ?_, hreturn⟩
      · rw [Block.opening_append_closing]
      · rw [Block.endsIn_frame_iff (Text.isEol_lineEnding line), eq_comm, hreturn]

theorem refresh_follows_endings_return :
    let fetch : Fetcher := fun _ _ => .ok (Text.encode (Text.ofLines ["x"]))
    let document := Text.ofLines ["[embedmd]:# (a.go)\r"] ++ "[embedmd]:# (a.go)\r".toList
    let output := Text.ofLines ["[embedmd]:# (a.go)\r", "<!-- embedmd:begin (a.go) -->\r", "```go\r", "x",
      "```\r", "<!-- embedmd:end -->\r", "[embedmd]:# (a.go)\r", "<!-- embedmd:begin (a.go) -->", "```go",
      "x", "```", "<!-- embedmd:end -->"]
    (refresh fetch [] {} document).result = .ok output ∧
      ∃ fresh, List.Forall₂ (Part.Refreshed ⟨fetch, [], {}⟩) (Document.parts false document) fresh ∧
        Text.lines output = fresh.flatMap Part.source ∧
        FollowsEndings ⟨fetch, [], {}⟩ false document fresh := by
  intro fetch document output
  have h : (refresh fetch [] {} document).result = .ok output := by decide +kernel
  exact ⟨h, refresh_follows_endings h⟩

end Document

end Transclude
