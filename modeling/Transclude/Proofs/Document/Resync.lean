import Transclude.Proofs.Document.Run

/-!
# Runs over an output

A run over the output of another gives what it would have given over the document itself, whatever the
first run fetched (`refresh_output`): the blocks of the first run leave no trace. Two documents whose
parts differ in their old blocks only are refreshed alike (`refreshParts_of_alike`), and the output of
a run is read into parts that differ from those of the document in nothing else.
-/

namespace Transclude

/-! ## Settled directives -/

/-- What a directive on a line needs for its blocks to be skipped: no quotes around its reference, no
guarded end in its command, a language that fits the opening line of a fence, and snippets without a
fence only where it says so itself. -/
structure Directive.Settled (languages : Languages) (line : Text) (directive : Directive) : Prop where
  unquoted : ∀ command, commandOf? line = some command → quotesReference command = false
  unguarded : ∀ command, commandOf? line = some command → ¬ Block.guardedEnd <:+: command
  backtick_not_mem : ∀ language, languages.resolve directive = .ok language → '\x60' ∉ language
  newline_not_mem : ∀ language, languages.resolve directive = .ok language → '\n' ∉ language
  written : ∀ language, languages.resolve directive = .ok language → directive.language = none →
    language ≠ unfencedLanguage

theorem Directive.Settled.skippable {languages : Languages} {line : Text} {directive : Directive}
    (hs : Settled languages line directive) (hd : ofLine line = .ok (some directive)) :
    ∀ language, languages.resolve directive = .ok language → Block.Skippable directive language := by
  intro language hr
  obtain ⟨command, hc, hcommand⟩ := exists_of_ofLine hd
  have hq := hs.unquoted command hc
  have hg := Block.not_guardedEnd_infix_text hcommand hq (hs.unguarded command hc)
  refine (Block.skippable_iff (isReadable_of_ofCommand hcommand hq).1 hg hr).mpr ⟨?_, fun _ => ?_⟩
  · rintro ⟨hn, rfl⟩
    exact hs.written _ hr hn rfl
  · exact ⟨hs.backtick_not_mem language hr, hs.newline_not_mem language hr⟩

instance (languages : Languages) (line : Text) (directive : Directive) :
    Decidable (directive.Settled languages line) :=
  decidable_of_iff
    ((∀ command, Directive.commandOf? line = some command → Directive.quotesReference command = false) ∧
      (∀ command, Directive.commandOf? line = some command → ¬ Block.guardedEnd <:+: command) ∧
      (∀ language, languages.resolve directive = .ok language → '\x60' ∉ language) ∧
      (∀ language, languages.resolve directive = .ok language → '\n' ∉ language) ∧
      ∀ language, languages.resolve directive = .ok language → directive.language = none →
        language ≠ unfencedLanguage)
    ⟨fun ⟨h₁, h₂, h₃, h₄, h₅⟩ => ⟨h₁, h₂, h₃, h₄, h₅⟩, fun ⟨h₁, h₂, h₃, h₄, h₅⟩ => ⟨h₁, h₂, h₃, h₄, h₅⟩⟩

/-- If the part is a directive, it is settled. -/
def Part.Settled (languages : Languages) : Part → Prop
  | .directive line d _ => d.Settled languages line
  | .copied _ | .broken _ _ => True

instance (languages : Languages) (part : Part) : Decidable (part.Settled languages) :=
  match part with
  | .directive line d _ => inferInstanceAs (Decidable (d.Settled languages line))
  | .copied _ => isTrue trivial
  | .broken _ _ => isTrue trivial

namespace Document

variable {bare : Bool} {fence fence' : Option Fence} {lines lines' : List Text}
  {part part' : Part} {parts parts' : List Part} {sources : Sources}

theorem Step.skippable {languages : Languages} (h : Step bare fence lines part fence' lines')
    (hs : part.Settled languages) : part.Skippable languages := by
  cases h with
  | inside | opens | plain => exact trivial
  | directive hd hb => exact Directive.Settled.skippable hs hd

theorem Reads.skippable {languages : Languages} (h : Reads bare fence lines parts fence' lines')
    (hs : ∀ part ∈ parts, part.Settled languages) : ∀ part ∈ parts, part.Skippable languages := by
  induction h with
  | nil => simp
  | cons h _ ih =>
      intro part hm
      rcases List.mem_cons.mp hm with rfl | hm
      · exact h.skippable (hs part (by simp))
      · exact ih (fun part hm => hs part (by simp [hm])) part hm

end Document

/-! ## Parts that are refreshed alike -/

/-- Parts that differ in their old blocks and in missing line feeds only. -/
inductive Part.Alike : Part → Part → Prop
  | copied (line : Text) : Alike (.copied line) (.copied line)
  | directive {line line' : Text} (heol : Text.lineEnding line = Text.lineEnding line')
      (hline : Text.completeLine (Text.lineEnding line) line =
        Text.completeLine (Text.lineEnding line) line') (d : Directive) (old old' : List Text) :
      Alike (.directive line d old) (.directive line' d old')

namespace Document

variable {parts parts' : List Part} {sources : Sources}

/-- Parts that differ in their old blocks only are refreshed alike, up to the lines of failures. -/
theorem refreshParts_of_alike (h : List.Forall₂ Part.Alike parts parts') (sources : Sources)
    (number number' : Nat) :
    (refreshParts sources number' parts').calls = (refreshParts sources number parts).calls ∧
      (refreshParts sources number' parts').result.mapError Failure.cause =
        (refreshParts sources number parts).result.mapError Failure.cause := by
  induction h generalizing number number' with
  | nil => exact ⟨rfl, rfl⟩
  | cons hp _ ih =>
      cases hp with
      | copied line =>
          obtain ⟨hcalls, hresult⟩ := ih (number + 1) (number' + 1)
          simp only [refreshParts, Outcome.after, mapError_map, hcalls, hresult, and_self]
      | directive heol hline d old old' =>
          simp only [refreshParts, ← heol, ← hline]
          cases sources.embed d _ with
          | error cause => exact ⟨rfl, rfl⟩
          | ok block =>
              obtain ⟨hcalls, hresult⟩ := ih (number + 1 + old.length) (number' + 1 + old'.length)
              simp only [Outcome.after, mapError_map, hcalls, hresult, and_self]

/-- A run changes nothing of a part but its old block, if a missing line feed is the last character that
its line may lack. -/
theorem alike_of_refreshed (hr : List.Forall₂ (Part.Refreshed sources) parts parts')
    (hl : ∀ line ∈ parts.flatMap Part.source, line.getLast? ≠ some '\r') :
    List.Forall₂ Part.Alike parts parts' := by
  induction hr with
  | nil => exact .nil
  | cons hp _ ih =>
      rw [List.flatMap_cons] at hl
      refine .cons ?_ (ih fun line hm => hl line (List.mem_append_right _ hm))
      cases hp with
      | copied line => exact .copied line
      | @directive line d block he old =>
          have heol := (Text.lineEnding_completeLine_iff line).mpr (hl line (by simp [Part.source]))
          exact .directive heol.symm (Text.completeLine_completeLine (Text.isEol_lineEnding line) line).symm
            d old _

/-! ## Documents that are refreshed alike -/

variable {document output base : Text} {languages : Languages}

theorem refresh_of_alike {document' : Text} {bare bare' : Bool}
    (h : List.Forall₂ Part.Alike (Document.parts bare document) (Document.parts bare' document'))
    (fetch : Fetcher) (base : Text) (languages : Languages) :
    (refresh fetch base ⟨languages, bare'⟩ document').calls =
        (refresh fetch base ⟨languages, bare⟩ document).calls ∧
      (refresh fetch base ⟨languages, bare'⟩ document').result.mapError Failure.cause =
        (refresh fetch base ⟨languages, bare⟩ document).result.mapError Failure.cause := by
  obtain ⟨hcalls, hresult⟩ := refreshParts_of_alike h ⟨fetch, base, languages⟩ 1 1
  simp only [refresh, Outcome.after, mapError_map, hcalls, hresult, and_self]

/-- The parts of an output are those of the document but for their old blocks. -/
theorem alike_of_refresh {bare : Bool} (hcr : document.getLast? ≠ some '\r')
    (hs : ∀ part ∈ Document.parts bare document, part.Settled languages) {fetch : Fetcher}
    (h : (refresh fetch base ⟨languages, bare⟩ document).result = .ok output) (bare' : Bool) :
    List.Forall₂ Part.Alike (Document.parts bare document) (Document.parts bare' output) := by
  obtain ⟨fence, _, hreads, -, -, -⟩ := exists_of_refresh h
  refine alike_of_refreshed (exists_parts_of_refresh h (hreads.skippable hs) bare') ?_
  intro line hm
  rw [hreads.flatMap_source] at hm
  exact Text.getLast?_ne_return_of_mem_lines hcr hm

/-- A run over the output of another gives what it gives over the document, up to the lines of failures.
The second run of the same kind changes nothing. -/
theorem refresh_output {bare₁ : Bool} (hcr : document.getLast? ≠ some '\r')
    (hs : ∀ part ∈ Document.parts bare₁ document, part.Settled languages) {fetch₁ : Fetcher}
    (h : (refresh fetch₁ base ⟨languages, bare₁⟩ document).result = .ok output)
    (fetch₂ : Fetcher) (bare₂ : Bool) :
    (refresh fetch₂ base ⟨languages, bare₂⟩ output).calls =
        (refresh fetch₂ base ⟨languages, bare₁⟩ document).calls ∧
      (refresh fetch₂ base ⟨languages, bare₂⟩ output).result.mapError Failure.cause =
        (refresh fetch₂ base ⟨languages, bare₁⟩ document).result.mapError Failure.cause ∧
      (refresh fetch₁ base ⟨languages, bare₁⟩ output).result = .ok output := by
  have halike := alike_of_refresh hcr hs h
  obtain ⟨hcalls, hresult⟩ := refresh_of_alike (halike bare₂) fetch₂ base languages
  refine ⟨hcalls, hresult, ?_⟩
  have hagain := (refresh_of_alike (halike bare₁) fetch₁ base languages).2
  rw [h] at hagain
  exact mapError_eq_ok_iff.mp hagain

theorem refresh_output_nested :
    let document := Text.ofLines ["[embedmd]:# (a.md)", "hand"]
    let content := Text.ofLines ["```", "<!-- embedmd:end -->"] ++ "[embedmd]:# (b.go)".toList
    let fetch₁ : Fetcher := fun _ _ => .ok (Text.encode content)
    let fetch₂ : Fetcher := fun _ _ => .ok (Text.encode (Text.ofLines ["other"]))
    let output := Text.ofLines ["[embedmd]:# (a.md)", "<!-- embedmd:begin (a.md) -->", "````markdown",
      "```", "<!-- embedmd:end -->", "[embedmd]:# (b.go)", "````", "<!-- embedmd:end -->", "hand"]
    document.getLast? ≠ some '\r' ∧ (∀ part ∈ Document.parts false document, part.Settled {}) ∧
      (refresh fetch₁ [] ⟨{}, false⟩ document).result = .ok output ∧
      (refresh fetch₂ [] ⟨{}, true⟩ output).calls = (refresh fetch₂ [] ⟨{}, false⟩ document).calls ∧
      (refresh fetch₂ [] ⟨{}, true⟩ output).result.mapError Failure.cause =
        (refresh fetch₂ [] ⟨{}, false⟩ document).result.mapError Failure.cause ∧
      (refresh fetch₁ [] ⟨{}, false⟩ output).result = .ok output := by
  intro document content fetch₁ fetch₂ output
  have hcr : document.getLast? ≠ some '\r' := by decide +kernel
  have hs : ∀ part ∈ Document.parts false document, part.Settled {} := by decide +kernel
  have h : (refresh fetch₁ [] ⟨{}, false⟩ document).result = .ok output := by decide +kernel
  exact ⟨hcr, hs, h, refresh_output hcr hs h fetch₂ true⟩

end Document

end Transclude
