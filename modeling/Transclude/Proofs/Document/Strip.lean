import Transclude.Proofs.Document.Reading
import Transclude.Proofs.Document.Resync

/-!
# Documents without their old blocks

A document may be refreshed without its old blocks: the result is the same and so are the calls
(`refresh_strip`). This takes old blocks that no line follows which would be taken for the start of
another, as it would then stand directly below the directive.
-/

namespace Transclude

@[simp] theorem Part.source_withBlock_nil (part : Part) : (part.withBlock []).source = [part.line] := by
  cases part <;> rfl

namespace Document

/-- The document without its old blocks. -/
def strip (bare : Bool) (document : Text) : Text :=
  ((Document.parts bare document).map Part.line).flatten

/-- After an old block, the line below it comes next and does not start another. -/
def Separate (bare : Bool) (part next : Part) : Prop :=
  part.block ≠ [] → Block.leads bare [next.line] = false

instance (bare : Bool) (part next : Part) : Decidable (Separate bare part next) :=
  inferInstanceAs (Decidable (part.block ≠ [] → Block.leads bare [next.line] = false))

/-- No old block of the document is directly followed by lines that start with another. -/
def Separated (bare : Bool) (document : Text) : Prop :=
  (Document.parts bare document).IsChain (Separate bare)

instance (bare : Bool) (document : Text) : Decidable (Separated bare document) :=
  inferInstanceAs (Decidable ((Document.parts bare document).IsChain (Separate bare)))

variable {bare : Bool} {fence fence' : Option Fence} {lines lines' : List Text} {part : Part}
  {parts parts' : List Part} {sources : Sources}

/-! ## Reading what is left -/

theorem leads_flatMap_source (part : Part) (parts : List Part) :
    Block.leads bare ((part :: parts).flatMap Part.source) = Block.leads bare [part.line] := by
  rw [List.flatMap_cons, part.source_eq]
  rfl

/-- Below a directive whose old block is taken out, nothing that looks like a block comes next. -/
theorem leads_of_separate (h : Step bare fence lines part fence' (parts.flatMap Part.source))
    (hs : (part :: parts).IsChain (Separate bare)) {line : Text} {d : Directive} {old : List Text}
    (hpart : part = .directive line d old) : Block.leads bare (parts.map Part.line) = false := by
  cases parts with
  | nil => rfl
  | cons next parts =>
      subst hpart
      rw [List.isChain_cons_cons] at hs
      cases h with
      | directive hd hsplit =>
          cases old with
          | nil =>
              -- No block was found below the directive, so the line there does not start one.
              have hleads := (Block.split_eq_ok_iff.mp hsplit).leads_eq_false
              rw [← hleads.2, leads_flatMap_source] at hleads
              exact hleads.1
          | cons first old => exact hs.1 (by simp [Part.block])

theorem Reads.strip (h : Reads bare fence lines parts fence' [])
    (hs : parts.IsChain (Separate bare)) :
    Reads bare fence (parts.map Part.line) (parts.map (Part.withBlock [])) fence' [] := by
  induction parts generalizing fence lines with
  | nil =>
      cases h
      exact .nil _ []
  | cons part parts ih =>
      cases h with
      | @cons _ fence₁ _ _ lines₁ _ _ _ hstep hr =>
          obtain rfl := hr.flatMap_source
          have hkept := hstep.withBlock fun line d old hpart =>
            Block.SplitsOff.absent (leads_of_separate hstep hs hpart)
          rw [Part.source_withBlock_nil] at hkept
          exact .cons hkept (ih hr hs.of_cons)

theorem lined_map_line (hl : Text.Lined (parts.flatMap Part.source)) :
    Text.Lined (parts.map Part.line) := by
  induction parts with
  | nil => exact .nil
  | cons part parts ih =>
      rw [List.flatMap_cons, part.source_eq, List.cons_append] at hl
      cases parts with
      | nil =>
          generalize part.block ++ _ = below at hl
          cases hl with
          | last hne hn => exact .last hne hn
          | cons hf _ => exact .cons hf .nil
      | cons next parts =>
          have hne : part.block ++ (next :: parts).flatMap Part.source ≠ [] := by
            simp [next.source_eq]
          exact .cons (hl.head_isFull hne) (ih hl.tail.of_append)

theorem alike_withBlock (hr : List.Forall₂ (Part.Refreshed sources) parts parts') :
    List.Forall₂ Part.Alike parts (parts.map (Part.withBlock [])) := by
  induction hr with
  | nil => exact .nil
  | cons hp _ ih =>
      refine .cons ?_ ih
      cases hp with
      | copied line => exact .copied line
      | @directive line d _ he old => exact .directive rfl rfl d old []

theorem parts_strip {document : Text} (h : Reads bare none (Text.lines document)
      (Document.parts bare document) fence []) (hs : Separated bare document) :
    Document.parts bare (strip bare document) =
      (Document.parts bare document).map (Part.withBlock []) := by
  have hlined : Text.Lined ((Document.parts bare document).map Part.line) :=
    lined_map_line (h.flatMap_source ▸ Text.lined_lines document)
  rw [Document.parts, strip, Text.lines_flatten hlined, (h.strip hs).partsFrom_eq_of_nil]

/-! ## Runs -/

theorem refresh_strip {fetch : Fetcher} {base document output : Text} {options : Options}
    (h : (refresh fetch base options document).result = .ok output)
    (hs : Separated options.bareFences document) :
    refresh fetch base options (strip options.bareFences document) =
      refresh fetch base options document := by
  obtain ⟨fence, fresh, hreads, hr, -, -⟩ := exists_of_refresh h
  have halike : List.Forall₂ Part.Alike (Document.parts options.bareFences document)
      (Document.parts options.bareFences (strip options.bareFences document)) :=
    parts_strip hreads hs ▸ alike_withBlock hr
  obtain ⟨hcalls, hresult⟩ := refresh_of_alike halike fetch base options.languages
  rw [h] at hresult
  have hstripped := mapError_eq_ok_iff.mp hresult
  calc refresh fetch base options (strip options.bareFences document)
    _ = ⟨(refresh fetch base options document).calls, .ok output⟩ := by rw [← hcalls, ← hstripped]
    _ = refresh fetch base options document := by rw [← h]

/-- A run gives the same over the document without its old blocks, so documents that differ in nothing else
are refreshed to the same text with the same calls. -/
theorem refresh_ignores_old_blocks {fetch : Fetcher} {base document output : Text} {options : Options}
    (h : (refresh fetch base options document).result = .ok output)
    (hs : Separated options.bareFences document) :
    refresh fetch base options (strip options.bareFences document) =
        ⟨(refresh fetch base options document).calls, .ok output⟩ ∧
      ∀ document' output', (refresh fetch base options document').result = .ok output' →
        Separated options.bareFences document' →
        strip options.bareFences document' = strip options.bareFences document →
        refresh fetch base options document' = refresh fetch base options document := by
  refine ⟨?_, ?_⟩
  · rw [refresh_strip h hs, ← h]
  · intro document' output' h' hs' hstrip
    rw [← refresh_strip h' hs', hstrip, refresh_strip h hs]

theorem refresh_ignores_old_blocks_edited :
    let fetch : Fetcher := fun _ reference => .ok (Text.encode (reference ++ ['\n']))
    let document := Text.ofLines ["[embedmd]:# (a.go)", "<!-- embedmd:begin (a.go) -->", "```go",
      "<!-- embedmd:end -->", "```", "<!-- embedmd:end -->", "hand", "[embedmd]:# (b.txt)"]
    let edited := Text.ofLines ["[embedmd]:# (a.go)", "~~~", "[embedmd]:# (c.go)", "~~~", "hand",
      "[embedmd]:# (b.txt)", "<!-- embedmd:begin -->", "~~~", "<!-- embedmd:end -->"]
    let stripped := Text.ofLines ["[embedmd]:# (a.go)", "hand", "[embedmd]:# (b.txt)"]
    let options : Options := ⟨{}, true⟩
    let output := Text.ofLines ["[embedmd]:# (a.go)", "<!-- embedmd:begin (a.go) -->", "```go", "a.go",
      "```", "<!-- embedmd:end -->", "hand", "[embedmd]:# (b.txt)", "<!-- embedmd:begin (b.txt) -->",
      "```txt", "b.txt", "```", "<!-- embedmd:end -->"]
    ((refresh fetch [] options document).result = .ok output ∧ Separated true document) ∧
      refresh fetch [] options stripped = ⟨(refresh fetch [] options document).calls, .ok output⟩ ∧
      refresh fetch [] options edited = refresh fetch [] options document := by
  intro fetch document edited stripped options output
  have h : (refresh fetch [] options document).result = .ok output := by decide +kernel
  have hs : Separated true document := by decide +kernel
  have hstripped : strip true document = stripped := by decide +kernel
  obtain ⟨hsame, hedited⟩ := refresh_ignores_old_blocks h hs
  have h' : (refresh fetch [] options edited).result = .ok output := by decide +kernel
  have hs' : Separated true edited := by decide +kernel
  have hstrip' : strip true edited = strip true document := by decide +kernel
  exact ⟨⟨h, hs⟩, hstripped ▸ hsame, hedited edited output h' hs' hstrip'⟩

end Document

end Transclude
