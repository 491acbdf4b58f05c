import Transclude.Proofs.Block.Crlf
import Transclude.Proofs.Document.Run

/-!
# Documents and line endings

A run over a document and contents with carriage returns before their line feeds gives what the run
without them gives, with carriage returns before the line feeds of the output, and fails where it
fails (`refresh_crlf`). Each part is read and refreshed alike in both endings, and the ending of what
is written for a directive is that of its line.
-/

namespace Transclude

open Text (IsFull IsLine crlf)

/-! ## Contents -/

/-- The source with carriage returns before the line feeds of its contents. -/
def Fetcher.crlf (fetch : Fetcher) : Fetcher := fun base reference =>
  (fetch base reference).map Bytes.crlf

/-- No content of the source holds a carriage return. -/
def Fetcher.Returnless (fetch : Fetcher) : Prop :=
  ∀ base reference bytes, fetch base reference = .ok bytes → 13 ∉ bytes.data.toList

variable {lines : List Text}

theorem Pattern.matchesLine_crlf (pattern : Pattern) {line : Text} (h : IsLine line) (hcr : '\r' ∉ line) :
    pattern.matchesLine (crlf line) = pattern.matchesLine line := by
  simp only [matchesLine, h.stripLineEnding_crlf hcr]

theorem Pattern.fromFirst_map_crlf (pattern : Pattern) (h : ∀ line ∈ lines, IsLine line ∧ '\r' ∉ line) :
    pattern.fromFirst (lines.map crlf) = (pattern.fromFirst lines).map crlf := by
  induction lines with
  | nil => rfl
  | cons line lines ih =>
      obtain ⟨hline, hcr⟩ := h line List.mem_cons_self
      have ih := ih fun l hl => h l (List.mem_cons_of_mem line hl)
      have hmatch := pattern.matchesLine_crlf hline hcr
      unfold fromFirst at ih ⊢
      cases hm : pattern.matchesLine line <;> simp [hm, hmatch, ih]

theorem Selection.extract_crlf (selection : Selection) {content : Text} (hcr : '\r' ∉ content) :
    selection.extract (crlf content) = (selection.extract content).map (List.map crlf) := by
  have hlines : ∀ line ∈ Text.lines content, IsLine line ∧ '\r' ∉ line := fun line hl =>
    ⟨Text.isLine_of_mem_lines hl, fun hm =>
      hcr (Text.flatten_lines content ▸ List.mem_flatten_of_mem hl hm)⟩
  have hfrom := fun pattern : Pattern => pattern.fromFirst_map_crlf hlines
  cases selection with
  | whole => simp [extract, Text.lines_crlf, Except.map]
  | line pattern =>
      simp only [extract, Text.lines_crlf, hfrom]
      cases pattern.fromFirst (Text.lines content) <;> rfl
  | range start stop =>
      simp only [extract, Text.lines_crlf, hfrom]
      cases hf : start.fromFirst (Text.lines content) with
      | nil => rfl
      | cons first rest =>
          cases stop with
          | endOfContent => rfl
          | through pattern =>
              have hrest : ∀ line ∈ rest, pattern.matchesLine (crlf line) = pattern.matchesLine line := by
                intro line hl
                have hsuffix : first :: rest <:+ Text.lines content := hf ▸ List.dropWhile_suffix _
                obtain ⟨hline, hcr⟩ := hlines line (hsuffix.subset (List.mem_cons_of_mem first hl))
                exact pattern.matchesLine_crlf hline hcr
              simp only [List.map_cons, throughFirst?_map hrest]
              cases throughFirst? pattern.matchesLine rest <;> rfl

namespace Sources

variable {sources : Sources} {directive : Directive}

/-- The sources with carriage returns before the line feeds of the contents. -/
def crlf (sources : Sources) : Sources := ⟨sources.fetch.crlf, sources.base, sources.languages⟩

theorem content_crlf (hfetch : sources.fetch.Returnless) (reference : Text) :
    sources.crlf.content reference = (sources.content reference).map Text.crlf := by
  have hbytes : sources.crlf.fetch sources.crlf.base reference =
      (sources.fetch sources.base reference).map Bytes.crlf := rfl
  unfold content
  rw [hbytes]
  cases hf : sources.fetch sources.base reference with
  | error cause => rfl
  | ok bytes =>
      simp only [Except.map, Text.decode?_crlf (hfetch _ _ _ hf)]
      cases Text.decode? bytes <;> rfl

theorem return_not_mem_of_content {reference content : Text} (hfetch : sources.fetch.Returnless)
    (h : sources.content reference = .ok content) : '\r' ∉ content := by
  unfold Sources.content at h
  split at h
  · cases h
  next bytes hf =>
    split at h
    · next t hd =>
      cases h
      have hbytes := hfetch _ _ _ hf
      rw [Text.eq_encode_of_decode? hd, Text.encode_eq, List.toList_data_toByteArray] at hbytes
      exact fun hm => hbytes (List.mem_flatMap.mpr ⟨'\r', hm, by decide⟩)
    · cases h

/-- The block of a directive, in both endings. -/
theorem embed_crlf (hfetch : sources.fetch.Returnless)
    (hplain : ∀ block, sources.embed directive ['\n'] = .ok block → '\n' ∉ directive.text ∧
      ∀ language, sources.languages.resolve directive = .ok language → '\n' ∉ language) :
    sources.crlf.embed directive ['\r', '\n'] =
      (sources.embed directive ['\n']).map (List.map Text.crlf) := by
  have hlanguages : sources.crlf.languages = sources.languages := rfl
  unfold embed at hplain ⊢
  simp only [hlanguages, content_crlf hfetch]
  cases hr : sources.languages.resolve directive with
  | error cause => rfl
  | ok language =>
      cases hc : sources.content directive.reference with
      | error cause => rfl
      | ok content =>
          have hextract :=
            directive.selection.extract_crlf (return_not_mem_of_content hfetch hc)
          simp only [Except.map, hextract]
          cases he : directive.selection.extract content with
          | error cause => rfl
          | ok lines =>
              simp only [hr, hc, he, mapError_eq_ok_iff] at hplain
              have hlines : ∀ line ∈ lines, IsLine line := fun line hl =>
                Text.isLine_of_mem_lines (mem_lines_of_extract he hl)
              have hrender := Block.render_map_crlf hlines fun block hb =>
                (hplain block hb).imp_right fun hlanguage => hlanguage language rfl
              exact (congrArg (Except.mapError Failure.ofCause) hrender).trans (mapError_map _ _ _)

end Sources

/-! ## Parts -/

/-- The part of the document with carriage returns before the line feeds. -/
def Part.crlf : Part → Part
  | .copied line => .copied (Text.crlf line)
  | .directive line d block => .directive (Text.crlf line) d (block.map Text.crlf)
  | .broken line cause => .broken (Text.crlf line) cause

namespace Document

variable {bare : Bool} {fence fence' : Option Fence} {lines' : List Text} {part : Part}
  {parts : List Part} {sources : Sources}

/-- What one step reads, one step reads with carriage returns. -/
theorem Step.crlf (h : Step bare fence lines part fence' lines') (hl : ∀ line ∈ lines, IsLine line) :
    Step bare fence (lines.map Text.crlf) part.crlf fence' (lines'.map Text.crlf) := by
  cases h with
  | inside fence line rest =>
      have hline := hl line List.mem_cons_self
      have hafter : fenceAfter fence (Text.crlf line) = fenceAfter fence line := by
        simp only [fenceAfter, fence.ignoresEnding_closes.crlf hline]
      exact hafter ▸ .inside fence (Text.crlf line) _
  | @opens line fence hf rest =>
      have hline := hl line List.mem_cons_self
      exact .opens ((Fence.ignoresEnding_ofLine?.crlf hline).trans hf) _
  | @plain line hf hd rest =>
      have hline := hl line List.mem_cons_self
      exact .plain ((Fence.ignoresEnding_ofLine?.crlf hline).trans hf)
        ((Directive.ignoresEnding_ofLine.crlf hline).trans hd) _
  | @directive line rest block below d hd hb =>
      have hline := hl line List.mem_cons_self
      have hsplit := Block.split_map_crlf bare fun l hm => hl l (List.mem_cons_of_mem line hm)
      rw [hb] at hsplit
      exact .directive ((Directive.ignoresEnding_ofLine.crlf hline).trans hd) hsplit

theorem Step.partsFrom_map_crlf (h : Step bare fence lines part fence' lines')
    (hl : ∀ line ∈ lines, IsLine line)
    (hrest : (∀ line ∈ lines', IsLine line) →
      partsFrom bare fence' (lines'.map Text.crlf) = (partsFrom bare fence' lines').map Part.crlf) :
    partsFrom bare fence (lines.map Text.crlf) =
      (part :: partsFrom bare fence' lines').map Part.crlf := by
  have hl' : ∀ line ∈ lines', IsLine line := fun line hm =>
    hl line (h.source_append ▸ List.mem_append_right _ hm)
  rw [(h.crlf hl).partsFrom_eq, hrest hl', List.map_cons]

/-- A document is read into the same parts in both endings, and the reading ends at the same line. -/
theorem partsFrom_map_crlf (hl : ∀ line ∈ lines, IsLine line) :
    partsFrom bare fence (lines.map Text.crlf) = (partsFrom bare fence lines).map Part.crlf := by
  fun_induction partsFrom bare fence lines with
  | case1 fence => exact partsFrom_nil
  | case2 fence line rest ih => exact (Step.inside fence line rest).partsFrom_map_crlf hl ih
  | case3 line rest fence hf ih => exact (Step.opens hf rest).partsFrom_map_crlf hl ih
  | case4 line rest hf fault hd =>
      have hline := hl line List.mem_cons_self
      have hf' := (Fence.ignoresEnding_ofLine?.crlf hline).trans hf
      have hd' := (Directive.ignoresEnding_ofLine.crlf hline).trans hd
      rw [List.map_cons, partsFrom]
      simp only [hf', hd']
      rfl
  | case5 line rest hf hd ih => exact (Step.plain hf hd rest).partsFrom_map_crlf hl ih
  | case6 line rest hf d hd cause hb =>
      have hline := hl line List.mem_cons_self
      have hsplit := Block.split_map_crlf bare fun l hm => hl l (List.mem_cons_of_mem line hm)
      rw [hb] at hsplit
      exact partsFrom_of_split_error ((Directive.ignoresEnding_ofLine.crlf hline).trans hd) hsplit
  | case7 line rest hf d hd block below hb _ ih => exact (Step.directive hd hb).partsFrom_map_crlf hl ih

theorem parts_crlf (bare : Bool) (document : Text) :
    Document.parts bare (Text.crlf document) = (Document.parts bare document).map Part.crlf := by
  rw [Document.parts, Text.lines_crlf, partsFrom_map_crlf fun _ hm => Text.isLine_of_mem_lines hm,
    Document.parts]

theorem of_mem_partsFrom {line : Text} {d : Directive} {old : List Text}
    (h : .directive line d old ∈ partsFrom bare fence lines) :
    line ∈ lines ∧ Directive.ofLine line = .ok (some d) := by
  fun_induction partsFrom bare fence lines with
  | case1 => cases h
  | case2 _ _ _ ih | case3 _ _ _ _ ih | case5 _ _ _ _ ih =>
      rcases List.mem_cons.mp h with h | h
      · cases h
      · obtain ⟨hm, hd⟩ := ih h
        exact ⟨List.mem_cons_of_mem _ hm, hd⟩
  | case4 | case6 => simp at h
  | case7 line' rest hf d' hd block below hb _ ih =>
      rcases List.mem_cons.mp h with h | h
      · cases h
        exact ⟨List.mem_cons_self, hd⟩
      · obtain ⟨hm, hd⟩ := ih h
        exact ⟨List.mem_cons_of_mem _ (Block.append_of_split hb ▸ List.mem_append_right block hm), hd⟩

end Document

/-! ## Runs -/

/-- The reference of the directive on a line stands without quotes, and its language is a single line. -/
structure Directive.Unbroken (languages : Languages) (line : Text) (directive : Directive) : Prop where
  unquoted : ∀ command, commandOf? line = some command → quotesReference command = false
  newline_not_mem : ∀ language, languages.resolve directive = .ok language → '\n' ∉ language

instance (languages : Languages) (line : Text) (directive : Directive) :
    Decidable (directive.Unbroken languages line) :=
  decidable_of_iff
    ((∀ command, Directive.commandOf? line = some command → Directive.quotesReference command = false) ∧
      ∀ language, languages.resolve directive = .ok language → '\n' ∉ language)
    ⟨fun ⟨h₁, h₂⟩ => ⟨h₁, h₂⟩, fun ⟨h₁, h₂⟩ => ⟨h₁, h₂⟩⟩

theorem Directive.Unbroken.newline_not_mem_text {languages : Languages} {line : Text}
    {directive : Directive} (hu : Unbroken languages line directive)
    (hd : ofLine line = .ok (some directive)) : '\n' ∉ directive.text := by
  obtain ⟨command, hc, hcommand⟩ := exists_of_ofLine hd
  exact (isReadable_of_ofCommand hcommand (hu.unquoted command hc)).1.newline_not_mem_text

/-- If the part is a directive, it is unbroken. -/
def Part.Unbroken (languages : Languages) : Part → Prop
  | .directive line d _ => d.Unbroken languages line
  | .copied _ | .broken _ _ => True

instance (languages : Languages) (part : Part) : Decidable (part.Unbroken languages) :=
  match part with
  | .directive line d _ => inferInstanceAs (Decidable (d.Unbroken languages line))
  | .copied _ => isTrue trivial
  | .broken _ _ => isTrue trivial

namespace Document

variable {bare : Bool} {sources : Sources} {parts : List Part}

/-- The parts that a run comes through: those before the first that fails. -/
def processed (sources : Sources) (parts : List Part) : List Part :=
  parts.takeWhile fun part => (part.refreshed? sources).isSome

theorem processed_cons {part part' : Part} (h : part.refreshed? sources = some part') :
    processed sources (part :: parts) = part :: processed sources parts :=
  List.takeWhile_cons_of_pos (by rw [h]; rfl)

theorem refreshParts_map_crlf (hfetch : sources.fetch.Returnless) (number : Nat)
    (hl : ∀ line d old, .directive line d old ∈ parts →
      IsFull line ∧ '\r' ∉ line ∧ Directive.ofLine line = .ok (some d))
    (hu : ∀ part ∈ processed sources parts, part.Unbroken sources.languages) :
    refreshParts sources.crlf number (parts.map Part.crlf) =
      (refreshParts sources number parts).after [] (List.map Text.crlf) := by
  induction parts generalizing number with
  | nil => rfl
  | cons part parts ih =>
      have ih := fun number => ih number fun line d old hm => hl line d old (List.mem_cons_of_mem part hm)
      cases part with
      | broken line cause => rfl
      | copied line =>
          rw [processed_cons rfl] at hu
          have ih := ih (number + 1) fun part hm => hu part (List.mem_cons_of_mem _ hm)
          simp only [List.map_cons, Part.crlf, refreshParts, ih, Outcome.after_after]
          rfl
      | directive line d old =>
          obtain ⟨hfull, hcr, hd⟩ := hl line d old List.mem_cons_self
          have heol : Text.lineEnding line = ['\n'] := Text.lineEnding_of_not_mem hcr
          -- A directive without a block is not processed, and fails alike whatever its reference and language.
          have hprocessed : ∀ block, sources.embed d ['\n'] = .ok block →
              processed sources (.directive line d old :: parts) =
                .directive line d old :: processed sources parts := fun block he =>
            processed_cons (Part.refreshed_iff.mp (.directive (heol ▸ he) old))
          have hembed : sources.crlf.embed d ['\r', '\n'] =
              (sources.embed d ['\n']).map (List.map Text.crlf) := by
            refine Sources.embed_crlf hfetch fun block he => ?_
            have hunbroken : d.Unbroken sources.languages line :=
              hu (.directive line d old) (hprocessed block he ▸ List.mem_cons_self)
            exact ⟨hunbroken.newline_not_mem_text hd, hunbroken.newline_not_mem⟩
          have hcalls : sources.crlf.callsOf d = sources.callsOf d := rfl
          simp only [List.map_cons, Part.crlf, refreshParts, heol, hfull.lineEnding_crlf, hembed, hcalls,
            List.length_map]
          cases he : sources.embed d ['\n'] with
          | error cause => rfl
          | ok block =>
              rw [hprocessed block he] at hu
              have ih := ih (number + 1 + old.length) fun part hm => hu part (List.mem_cons_of_mem _ hm)
              have hwritten : (fun lines => Text.completeLine ['\r', '\n'] (Text.crlf line) ::
                    block.map Text.crlf ++ lines) ∘ List.map Text.crlf =
                  List.map Text.crlf ∘ fun lines => Text.completeLine ['\n'] line :: block ++ lines := by
                funext lines
                simp [Text.completeLine_of_isFull hfull, Text.completeLine_of_isFull hfull.crlf]
              simp only [Except.map, ih, Outcome.after_after, hwritten, List.append_nil, List.nil_append]

theorem of_mem_parts {document line : Text} {d : Directive} {old : List Text} (hcr : '\r' ∉ document)
    (hends : document = [] ∨ Text.endsLine document = true)
    (h : .directive line d old ∈ Document.parts bare document) :
    IsFull line ∧ '\r' ∉ line ∧ Directive.ofLine line = .ok (some d) := by
  obtain ⟨hm, hd⟩ := of_mem_partsFrom h
  refine ⟨?_, fun hr => hcr (Text.flatten_lines document ▸ List.mem_flatten_of_mem hm hr), hd⟩
  rcases hends with rfl | hends
  · cases hm
  · exact Text.isFull_of_mem_lines hends hm

/-- A run over a document and contents with carriage returns before their line feeds gives the output of the
run without them, with carriage returns before its line feeds, or the failure of that run. -/
theorem refresh_crlf {fetch : Fetcher} {base document : Text} {options : Options}
    (hcr : '\r' ∉ document) (hends : document = [] ∨ Text.endsLine document = true)
    (hfetch : fetch.Returnless)
    (hu : ∀ part ∈ processed ⟨fetch, base, options.languages⟩ (Document.parts options.bareFences document),
      part.Unbroken options.languages) :
    refresh fetch.crlf base options (Text.crlf document) =
      (refresh fetch base options document).after [] Text.crlf := by
  have hrun : refreshParts ⟨fetch.crlf, base, options.languages⟩ 1
      ((Document.parts options.bareFences document).map Part.crlf) =
        (refreshParts ⟨fetch, base, options.languages⟩ 1
          (Document.parts options.bareFences document)).after [] (List.map Text.crlf) :=
    refreshParts_map_crlf hfetch 1 (fun _ _ _ hm => of_mem_parts hcr hends hm) hu
  have hflatten : List.flatten ∘ List.map Text.crlf = Text.crlf ∘ List.flatten :=
    funext fun lines => (Text.crlf_flatten lines).symm
  unfold refresh
  rw [parts_crlf, hrun, Outcome.after_after, Outcome.after_after, hflatten]

theorem refresh_crlf_bare :
    let fetch : Fetcher := fun _ reference =>
      if reference = "a.go".toList then .ok (Text.encode (Text.ofLines ["a", "b"] ++ "```".toList))
      else if reference = "b.txt".toList then .ok (Text.encode "text".toList)
      else .error (.ofCause (.fetch reference .unknown))
    let document := Text.ofLines ["```", "[embedmd]:# (x.go)", "```", "[embedmd]:# (a.go go /b/ $)",
      "<!-- embedmd:begin (a.go) -->", "```go", "<!-- embedmd:end -->", "```", "<!-- embedmd:end -->",
      "[embedmd]:# (b.txt none)", "~~~", "old", "~~~", "hand"]
    let options : Options := ⟨{}, true⟩
    let output := Text.ofLines ["```", "[embedmd]:# (x.go)", "```", "[embedmd]:# (a.go go /b/ $)",
      "<!-- embedmd:begin (a.go go /b/ $) -->", "````go", "b", "```", "````", "<!-- embedmd:end -->",
      "[embedmd]:# (b.txt none)", "<!-- embedmd:begin (b.txt none) -->", "text", "<!-- embedmd:end -->",
      "hand"]
    '\r' ∉ document ∧ (document = [] ∨ Text.endsLine document = true) ∧ fetch.Returnless ∧
      (∀ part ∈ processed ⟨fetch, [], {}⟩ (Document.parts true document), part.Unbroken {}) ∧
      (refresh fetch [] options document).result = .ok output ∧
      refresh fetch.crlf [] options (Text.crlf document) =
        ⟨(refresh fetch [] options document).calls, .ok (Text.crlf output)⟩ := by
  intro fetch document options output
  have hcr : '\r' ∉ document := by decide +kernel
  have hends : document = [] ∨ Text.endsLine document = true := by decide +kernel
  have hfetch : fetch.Returnless := by
    intro base reference bytes h
    simp only [fetch] at h
    split at h
    · cases h
      decide +kernel
    split at h
    · cases h
      decide +kernel
    · cases h
  have hu : ∀ part ∈ processed ⟨fetch, [], {}⟩ (Document.parts true document), part.Unbroken {} := by
    decide +kernel
  have h : (refresh fetch [] options document).result = .ok output := by decide +kernel
  have hcrlf : refresh fetch.crlf [] options (Text.crlf document) =
      (refresh fetch [] options document).after [] Text.crlf := refresh_crlf hcr hends hfetch hu
  exact ⟨hcr, hends, hfetch, hu, h,
    hcrlf.trans (congrArg (Outcome.mk _) (congrArg (Except.map Text.crlf) h))⟩

end Document

end Transclude
