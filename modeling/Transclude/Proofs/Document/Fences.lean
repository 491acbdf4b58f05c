import Transclude.Proofs.Document.Reading

/-!
# Fences of an output

A reader of an output that knows fences and nothing else sees the fences of the document: at each line
of the document that a run keeps, the same fence is open for it as for the run itself, and the snippets
stand inside fences of their own (`refresh_keeps_fences`). This takes directives whose snippets get a
fence and whose language leaves its opening line as it is.
-/

namespace Transclude

/-! ## Blocks in a fence -/

/-- The directive on the line has no quotes around its reference, and its snippets get a fence that their
language leaves as it is. -/
structure Directive.Fenced (languages : Languages) (line : Text) (directive : Directive) : Prop where
  unquoted : ∀ command, commandOf? line = some command → quotesReference command = false
  ne_unfenced : ∀ language, languages.resolve directive = .ok language → language ≠ unfencedLanguage
  backtick_not_mem : ∀ language, languages.resolve directive = .ok language → '\x60' ∉ language
  newline_not_mem : ∀ language, languages.resolve directive = .ok language → '\n' ∉ language

instance (languages : Languages) (line : Text) (directive : Directive) :
    Decidable (directive.Fenced languages line) :=
  decidable_of_iff
    ((∀ command, Directive.commandOf? line = some command → Directive.quotesReference command = false) ∧
      (∀ language, languages.resolve directive = .ok language → language ≠ unfencedLanguage) ∧
      (∀ language, languages.resolve directive = .ok language → '\x60' ∉ language) ∧
      ∀ language, languages.resolve directive = .ok language → '\n' ∉ language)
    ⟨fun ⟨h₁, h₂, h₃, h₄⟩ => ⟨h₁, h₂, h₃, h₄⟩, fun ⟨h₁, h₂, h₃, h₄⟩ => ⟨h₁, h₂, h₃, h₄⟩⟩

/-- If the part is a directive, its snippets get a fence. -/
def Part.Fenced (languages : Languages) : Part → Prop
  | .directive line d _ => d.Fenced languages line
  | .copied _ | .broken _ _ => True

instance (languages : Languages) (part : Part) : Decidable (part.Fenced languages) :=
  match part with
  | .directive line d _ => inferInstanceAs (Decidable (d.Fenced languages line))
  | .copied _ => isTrue trivial
  | .broken _ _ => isTrue trivial

theorem Block.ofLine?_beginMark_append (t : Text) : Fence.ofLine? (beginMark ++ t) = none := by
  have hmark : beginMark = '<' :: beginMark.tail := by decide
  have htrim := trim_beginMark_append t
  rw [hmark] at htrim ⊢
  exact Fence.ofLine?_eq_none_of_trim htrim (by decide)

theorem Block.ofLine?_endMark {eol : Text} (he : Text.IsEol eol) : Fence.ofLine? (endMark ++ eol) = none := by
  have htrim : Text.trim (endMark ++ eol) = endMark := by
    rw [Text.trim_append_of_blank he.isBlank]
    decide
  have hmark : endMark = '<' :: endMark.tail := by decide
  exact Fence.ofLine?_eq_none_of_trim (htrim.trans hmark) (by decide)

/-- The block shows the snippet in a fence, between two lines that have nothing to do with fences. -/
structure Fence.Shows (fence : Fence) (snippet : List Text) (first opening closing last : Text) : Prop where
  first : ofLine? first = none
  opening : ofLine? opening = some fence
  snippet : ∀ line ∈ snippet, fence.closes line = false
  closing : fence.closes closing = true
  last : ofLine? last = none

theorem Sources.exists_shows_of_embed {sources : Sources} {directive : Directive} {line eol : Text}
    {block : List Text} (he : Text.IsEol eol) (hd : Directive.ofLine line = .ok (some directive))
    (hf : directive.Fenced sources.languages line) (h : sources.embed directive eol = .ok block) :
    ∃ content lines, ∃ fence : Fence, ∃ first opening closing last,
      sources.content directive.reference = .ok content ∧
      directive.selection.extract content = .ok lines ∧
      Text.lines block.flatten =
        first :: opening :: (lines.map (Text.completeLine eol) ++ [closing, last]) ∧
      fence.Shows (lines.map (Text.completeLine eol)) first opening closing last := by
  obtain ⟨language, content, lines, hr, hcontent, hlines, -, rfl⟩ := exists_content_of_embed h
  obtain ⟨command, hc, hcommand⟩ := Directive.exists_of_ofLine hd
  have hn := (Directive.isReadable_of_ofCommand hcommand (hf.unquoted command hc)).1.newline_not_mem_text
  have hne := hf.ne_unfenced language hr
  refine ⟨content, lines, Fence.around lines, Block.beginLine directive eol,
    (Fence.around lines).marks ++ language ++ eol, (Fence.around lines).marks ++ eol,
    Block.endMark ++ eol, hcontent, hlines, ?_, ?_, ?_, ?_, ?_, Block.ofLine?_endMark he⟩
  · rw [Block.lines_flatten_block (fun _ => hf.newline_not_mem language hr) he
      fun l hl => Text.isLine_of_mem_lines (mem_lines_of_extract hlines hl), Block.front,
      (Block.isFull_beginLine hn he).lines, Block.body_of_fenced hne]
    simp
  · rw [Block.beginLine, List.append_assoc, List.append_assoc]
    exact Block.ofLine?_beginMark_append _
  · exact Fence.ofLine?_marks_around he (hf.backtick_not_mem language hr) lines
  · intro l hl
    obtain ⟨l, hm, rfl⟩ := List.mem_map.mp hl
    exact Fence.closes_around_eq_false he hm
  · exact Fence.closes_marks_around he lines

/-! ## Reading fences -/

namespace Document

theorem openFence_append (above below : List Text) :
    openFence (above ++ below) = below.foldl fenceBelow (openFence above) :=
  List.foldl_append

/-- A fence stays open below lines that do not close it. -/
theorem foldl_fenceBelow_of_closes {fence : Fence} {lines : List Text}
    (h : ∀ line ∈ lines, fence.closes line = false) :
    lines.foldl fenceBelow (some fence) = some fence := by
  induction lines with
  | nil => rfl
  | cons line lines ih =>
      rw [List.foldl_cons, fenceBelow, fenceAfter, h line (by simp)]
      exact ih fun l hl => h l (by simp [hl])

/-- Below other lines, the lines all stand inside a fence. -/
def Inside (above lines : List Text) : Prop :=
  ∀ before line after, lines = before ++ line :: after → ∃ fence,
    openFence (above ++ before) = some fence ∧ openFence (above ++ before ++ [line]) = some fence

theorem inside_of_closes {fence : Fence} {above lines : List Text} (ho : openFence above = some fence)
    (h : ∀ line ∈ lines, fence.closes line = false) : Inside above lines := by
  rintro before line after rfl
  have hbefore : openFence (above ++ before) = some fence := by
    rw [openFence_append, ho]
    exact foldl_fenceBelow_of_closes fun l hl => h l (by simp [hl])
  refine ⟨fence, hbefore, ?_⟩
  rw [openFence_append, hbefore]
  exact foldl_fenceBelow_of_closes fun l hl => h l (by simp_all)

end Document

namespace Fence.Shows

open Document

variable {fence : Fence} {snippet above : List Text} {first opening closing last : Text}

theorem inside (h : fence.Shows snippet first opening closing last) (ho : openFence above = none) :
    Inside (above ++ [first, opening]) snippet := by
  refine inside_of_closes ?_ h.snippet
  simp [openFence_append, ho, fenceBelow, h.first, h.opening]

/-- Below a block no fence is open that was not open above it. -/
theorem foldl_fenceBelow (h : fence.Shows snippet first opening closing last) :
    (first :: opening :: (snippet ++ [closing, last])).foldl fenceBelow none = none := by
  have hopening : fenceBelow (fenceBelow none first) opening = some fence := by
    simp [fenceBelow, h.first, h.opening]
  have hclosing : fenceBelow (fenceBelow (some fence) closing) last = none := by
    simp [fenceBelow, fenceAfter, h.closing, h.last]
  rw [List.foldl_cons, List.foldl_cons, hopening, List.foldl_append,
    foldl_fenceBelow_of_closes h.snippet]
  exact hclosing

end Fence.Shows

/-! ## Runs -/

namespace Document

variable {bare : Bool} {fence fence' : Option Fence} {lines lines' : List Text}
  {part part' : Part} {parts fresh : List Part} {sources : Sources}

/-- A line that a run keeps leaves the same fence open in the output as in the document. -/
theorem Step.fenceBelow_refreshed (h : Step bare fence lines part fence' lines')
    (hr : Part.Refreshed sources part part') : fenceBelow fence part'.line = fence' := by
  rw [h.fence_eq]
  cases hr with
  | copied line => rfl
  | @directive line _ block he old =>
      cases h with
      | directive hd hb =>
          have hd' := (Directive.ignoresEnding_ofLine.completeLine (Text.isEol_lineEnding line) line).trans hd
          simp only [Part.line, fenceBelow, Directive.ofLine?_eq_none_of_ofLine hd,
            Directive.ofLine?_eq_none_of_ofLine hd']

/-- A block that a run puts in leaves no fence open. -/
theorem Step.foldl_refreshed (h : Step bare fence lines part fence' lines')
    (hr : Part.Refreshed sources part part') (hf : part.Fenced sources.languages) :
    part'.block.foldl fenceBelow fence' = fence' := by
  cases hr with
  | copied line => rfl
  | @directive line _ block he old =>
      cases h with
      | directive hd hb =>
          obtain ⟨_, _, _, _, _, _, _, -, -, hlines, hshows⟩ :=
            Sources.exists_shows_of_embed (Text.isEol_lineEnding line) hd hf he
          rw [Part.block, hlines]
          exact hshows.foldl_fenceBelow

theorem Reads.foldl_refreshed (h : Reads bare fence lines parts fence' lines')
    (hr : List.Forall₂ (Part.Refreshed sources) parts fresh)
    (hf : ∀ part ∈ parts, part.Fenced sources.languages) :
    (fresh.flatMap Part.source).foldl fenceBelow fence = fence' := by
  induction h generalizing fresh with
  | nil =>
      cases hr
      rfl
  | cons h _ ih =>
      cases hr with
      | @cons _ part' _ _ hp hr =>
          rw [List.flatMap_cons, List.foldl_append, part'.source_eq, List.foldl_cons,
            h.fenceBelow_refreshed hp, h.foldl_refreshed hp (hf _ (by simp))]
          exact ih hr fun part hm => hf part (by simp [hm])

/-- Below the parts `above`, the reading of the lines comes to the part with `fence` open, and its first
line leaves `fence'` open. -/
def ReadsAt (bare : Bool) (lines : List Text) (above : List Part) (part : Part)
    (fence fence' : Option Fence) : Prop :=
  ∃ rest below, Reads bare none lines above fence rest ∧ Step bare fence rest part fence' below

theorem forall₂_of_append {α β : Type} {R : α → β → Prop} {as bs : List α} {as' bs' : List β}
    (h : List.Forall₂ R (as ++ bs) (as' ++ bs')) (hl : as'.length = as.length) :
    List.Forall₂ R as as' ∧ List.Forall₂ R bs bs' := by
  have htake := List.forall₂_take_append (as ++ bs) as' bs' h
  have hdrop := List.forall₂_drop_append (as ++ bs) as' bs' h
  rw [hl, List.take_left] at htake
  rw [hl, List.drop_left] at hdrop
  exact ⟨htake, hdrop⟩

/-- The part of an output shows the snippet of the directive on a line in a fence, for a reader who comes
to it below the lines `top`. -/
def ShowsSnippet (sources : Sources) (top : List Text) (line : Text) (d : Directive) (part : Part) : Prop :=
  ∃ content selected first opening closing last,
    sources.content d.reference = .ok content ∧ d.selection.extract content = .ok selected ∧
      let snippet := selected.map (Text.completeLine (Text.lineEnding line))
      part.source = part.line :: first :: opening :: (snippet ++ [closing, last]) ∧
        Inside (top ++ [part.line, first, opening]) snippet

variable {above below above' below' : List Part}

theorem Reads.readsAt_refreshed (h : Reads bare none lines (above ++ part :: below) fence lines')
    (hr : List.Forall₂ (Part.Refreshed sources) (above ++ part :: below) (above' ++ part' :: below'))
    (hlen : above'.length = above.length)
    (hf : ∀ p ∈ above ++ part :: below, p.Fenced sources.languages) :
    let top := above'.flatMap Part.source
    ReadsAt bare lines above part (openFence top) (openFence (top ++ [part'.line])) ∧
      openFence (top ++ part'.source) = openFence (top ++ [part'.line]) ∧
      ∀ line d old, part = .directive line d old → ShowsSnippet sources top line d part' := by
  intro top
  obtain ⟨hrabove, hrbelow⟩ := forall₂_of_append hr hlen
  obtain ⟨hp, -⟩ := List.forall₂_cons.mp hrbelow
  obtain ⟨fence₁, rest, habove, hrest⟩ := h.of_append
  cases hrest with
  | @cons _ fence₂ _ _ rest' _ _ _ hs hbelow =>
      have htop : openFence top = fence₁ :=
        habove.foldl_refreshed hrabove fun part hm => hf part (by simp [hm])
      have hline : openFence (top ++ [part'.line]) = fence₂ := by
        rw [openFence_append, htop]
        exact hs.fenceBelow_refreshed hp
      have hsource : openFence (top ++ part'.source) = fence₂ := by
        rw [part'.source_eq, List.append_cons, openFence_append, hline]
        exact hs.foldl_refreshed hp (hf part (by simp))
      rw [htop, hline]
      refine ⟨⟨rest, rest', habove, hs⟩, hsource, ?_⟩
      rintro line d old rfl
      cases hp with
      | directive he =>
          cases hs with
          | directive hd hb =>
              have hfenced : d.Fenced sources.languages line := hf (.directive line d old) (by simp)
              obtain ⟨content, selected, _, first, opening, closing, last, hcontent, hselected, hblock,
                hshows⟩ := Sources.exists_shows_of_embed (Text.isEol_lineEnding line) hd hfenced he
              refine ⟨content, selected, first, opening, closing, last, hcontent, hselected, ?_, ?_⟩
              · rw [Part.source_eq, Part.block, hblock]
              · rw [List.append_cons]
                exact hshows.inside hline

/-- For a reader of the fresh parts who knows fences alone, the same fence is open before and after each line
that they keep as for the reading of the document. Below a block the fence is open that was open above it,
and all lines of its snippet stand inside a fence. -/
def KeepsFences (sources : Sources) (bare : Bool) (document : Text) (fresh : List Part) : Prop :=
  ∀ above part below above' part' below', Document.parts bare document = above ++ part :: below →
    fresh = above' ++ part' :: below' → above'.length = above.length →
    let top := above'.flatMap Part.source
    ReadsAt bare (Text.lines document) above part (openFence top) (openFence (top ++ [part'.line])) ∧
      openFence (top ++ part'.source) = openFence (top ++ [part'.line]) ∧
      ∀ line d old, part = .directive line d old → ShowsSnippet sources top line d part'

/-- An output consists of fresh parts that keep the fences of the document. -/
theorem refresh_keeps_fences {fetch : Fetcher} {base document output : Text} {options : Options}
    (hf : ∀ part ∈ Document.parts options.bareFences document, part.Fenced options.languages)
    (h : (refresh fetch base options document).result = .ok output) :
    ∃ fresh, List.Forall₂ (Part.Refreshed ⟨fetch, base, options.languages⟩)
        (Document.parts options.bareFences document) fresh ∧
      Text.lines output = fresh.flatMap Part.source ∧
      KeepsFences ⟨fetch, base, options.languages⟩ options.bareFences document fresh := by
  obtain ⟨fence, fresh, hreads, hr, hlines, -⟩ := exists_of_refresh h
  refine ⟨fresh, hr, hlines, ?_⟩
  rintro above part below above' part' below' hparts rfl hlen
  rw [hparts] at hreads hr hf
  exact hreads.readsAt_refreshed hr hlen hf

theorem refresh_keeps_fences_nested :
    let fetch : Fetcher := fun _ _ => .ok (Text.encode (Text.ofLines ["````", "~~~"]))
    let document := Text.ofLines ["~~~", "[embedmd]:# (b.md)", "~~~", "[embedmd]:# (a.md)",
      "```", "<!-- embedmd:end -->"]
    let output := Text.ofLines ["~~~", "[embedmd]:# (b.md)", "~~~", "[embedmd]:# (a.md)",
      "<!-- embedmd:begin (a.md) -->", "`````markdown", "````", "~~~", "`````",
      "<!-- embedmd:end -->", "```",
      "<!-- embedmd:end -->"]
    (∀ part ∈ Document.parts false document, part.Fenced {}) ∧
      (refresh fetch [] {} document).result = .ok output ∧
      ∃ fresh, List.Forall₂ (Part.Refreshed ⟨fetch, [], {}⟩) (Document.parts false document) fresh ∧
        Text.lines output = fresh.flatMap Part.source ∧
        KeepsFences ⟨fetch, [], {}⟩ false document fresh := by
  intro fetch document output
  have hf : ∀ part ∈ Document.parts false document, part.Fenced {} := by decide +kernel
  have h : (refresh fetch [] {} document).result = .ok output := by decide +kernel
  exact ⟨hf, h, refresh_keeps_fences hf h⟩

end Document

end Transclude
