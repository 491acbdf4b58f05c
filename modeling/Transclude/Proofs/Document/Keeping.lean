import Transclude.Proofs.Document.Reading

/-!
# What a run keeps

A run takes the old blocks out of a document and puts fresh ones in, and asks for the content of each
directive that it goes through, in order. All other lines are in the output as they were, in the same
order (`refresh_keeps_lines`).
-/

namespace Transclude.Document

variable {bare : Bool} {fence : Option Fence} {lines : List Text} {part : Part}
  {parts fresh above below : List Part} {sources : Sources}

/-! ## Lines -/

/-- The lines are those that parts begin with. Only a last one with a directive may have got a line feed,
which it lacked. -/
def Kept (parts : List Part) (lines : List Text) : Prop :=
  lines = parts.map Part.line ∨
    ∃ above line d, parts = above ++ [.directive line d []] ∧ Text.endsLine line = false ∧
      lines = above.map Part.line ++ [line ++ ['\n']]

theorem Kept.cons (h : Kept parts lines) (part : Part) : Kept (part :: parts) (part.line :: lines) := by
  rcases h with rfl | ⟨above, line, d, rfl, hline, rfl⟩
  · exact Or.inl rfl
  · exact Or.inr ⟨part :: above, line, d, rfl, hline, rfl⟩

theorem eq_nil_of_flatMap_source (h : parts.flatMap Part.source = []) : parts = [] := by
  cases parts with
  | nil => rfl
  | cons part parts => simp [part.source_eq] at h

theorem kept_of_refreshed (hr : List.Forall₂ (Part.Refreshed sources) parts fresh)
    (hl : Text.Lined (parts.flatMap Part.source)) : Kept parts (fresh.map Part.line) := by
  induction hr with
  | nil => exact Or.inl rfl
  | @cons _ _ parts fresh hp hr ih =>
      rw [List.flatMap_cons] at hl
      have ih := ih hl.of_append
      cases hp with
      | copied line => exact ih.cons (.copied line)
      | @directive line d _ he old =>
          cases hline : Text.endsLine line with
          | true =>
              rw [List.map_cons, Part.line, Text.completeLine, if_pos hline]
              exact ih.cons (.directive line d old)
          | false =>
              -- A line without a line feed is the last of the document.
              have hlast : old ++ parts.flatMap Part.source = [] := by
                by_contra hne
                rw [(hl.head_isFull hne).endsLine] at hline
                cases hline
              obtain ⟨rfl, hparts⟩ := List.append_eq_nil_iff.mp hlast
              obtain rfl := eq_nil_of_flatMap_source hparts
              cases hr
              refine Or.inr ⟨[], line, d, rfl, hline, ?_⟩
              simp [Part.line, Text.completeLine, hline, Text.lineEnding_of_not_endsLine hline]

/-! ## What each line is taken for -/

theorem Reads.exists_step (h : Reads bare none lines parts fence [])
    (hparts : parts = above ++ part :: below) :
    ∃ fence', Step bare (openFence (above.map Part.line)) (part.source ++ below.flatMap Part.source) part
      fence' (below.flatMap Part.source) := by
  subst hparts
  obtain ⟨fence₁, lines₁, habove, hrest⟩ := h.of_append
  cases hrest with
  | @cons _ fence₂ _ _ lines₂ _ _ _ hs hbelow =>
      rw [habove.fence_eq, ← hs.source_append, ← hbelow.flatMap_source] at hs
      exact ⟨fence₂, hs⟩

theorem Step.of_copied {fence' : Option Fence} {line : Text} {lines' : List Text}
    (h : Step bare fence lines (.copied line) fence' lines') :
    fence ≠ none ∨ Directive.ofLine line = .ok none := by
  cases h with
  | inside fence => exact Or.inl (by simp)
  | plain hf hd => exact Or.inr hd
  | opens hf =>
      right
      cases hc : Directive.commandOf? line with
      | none => simp [Directive.ofLine, hc]
      | some command =>
          rw [Directive.ofLine?_eq_none_of_commandOf? hc] at hf
          cases hf

theorem Step.of_directive {fence' : Option Fence} {line : Text} {d : Directive} {old lines' : List Text}
    (h : Step bare fence (line :: (old ++ lines')) (.directive line d old) fence' lines') :
    fence = none ∧ Directive.ofLine line = .ok (some d) ∧
      Block.split bare (old ++ lines') = .ok (old, lines') := by
  cases h with
  | directive hd hb => exact ⟨rfl, hd, hb⟩

/-! ## Calls -/

theorem callsOf_of_embed {d : Directive} {eol : Text} {block : List Text}
    (h : sources.embed d eol = .ok block) : sources.callsOf d = [⟨sources.base, d.reference⟩] := by
  obtain ⟨language, _, hr, -⟩ := Sources.exists_of_embed h
  simp [Sources.callsOf, hr]

theorem calls_of_refreshed {document : Text}
    (hr : List.Forall₂ (Part.Refreshed sources) (Document.parts bare document) fresh) :
    (Document.parts bare document).flatMap (Part.calls sources) =
      (references bare document).map (Call.mk sources.base) := by
  rw [references]
  generalize Document.parts bare document = parts at hr ⊢
  induction hr with
  | nil => rfl
  | cons hp _ ih =>
      rw [List.flatMap_cons, ih]
      cases hp with
      | copied line => rfl
      | directive he old =>
          rw [Part.calls, callsOf_of_embed he]
          rfl

theorem eq_of_refreshed {document : Text}
    (hr : List.Forall₂ (Part.Refreshed sources) (Document.parts bare document) fresh)
    (h : references bare document = []) : fresh = Document.parts bare document := by
  rw [references] at h
  generalize Document.parts bare document = parts at hr h ⊢
  induction hr with
  | nil => rfl
  | cons hp _ ih =>
      cases hp with
      | copied line => rw [ih h]
      | directive he old => cases h

/-! ## Runs -/

/-- An output holds the lines of the document outside of old blocks, in order, and below each directive the
block that was made for it. A directive is gone through if it stands below no open fence and not in an old
block; each of them is asked for once, in order. Without one the document stays as it is. -/
theorem refresh_keeps_lines {fetch : Fetcher} {base document output : Text} {options : Options}
    (h : (refresh fetch base options document).result = .ok output) :
    let parts := Document.parts options.bareFences document
    (∃ fresh, List.Forall₂ (Part.Refreshed ⟨fetch, base, options.languages⟩) parts fresh ∧
        Text.lines document = parts.flatMap Part.source ∧
        Text.lines output = fresh.flatMap Part.source ∧ Kept parts (fresh.map Part.line)) ∧
      (∀ above line d old below, parts = above ++ .directive line d old :: below →
        openFence (above.map Part.line) = none ∧ Directive.ofLine line = .ok (some d) ∧
          Block.split options.bareFences (old ++ below.flatMap Part.source) =
            .ok (old, below.flatMap Part.source)) ∧
      (∀ above line below, parts = above ++ .copied line :: below →
        openFence (above.map Part.line) ≠ none ∨ Directive.ofLine line = .ok none) ∧
      (refresh fetch base options document).calls =
        (references options.bareFences document).map (Call.mk base) ∧
      (references options.bareFences document = [] → output = document) := by
  intro parts
  obtain ⟨fence, fresh, hreads, hr, hlines, hcalls⟩ := exists_of_refresh h
  change Reads _ none _ parts fence [] at hreads
  have hsource : parts.flatMap Part.source = Text.lines document := hreads.flatMap_source
  have hlined : Text.Lined (parts.flatMap Part.source) := hsource ▸ Text.lined_lines document
  refine ⟨⟨fresh, hr, hsource.symm, hlines, kept_of_refreshed hr hlined⟩, ?_, ?_, ?_, ?_⟩
  · intro above line d old below hparts
    obtain ⟨fence', hs⟩ := hreads.exists_step hparts
    exact hs.of_directive
  · intro above line below hparts
    obtain ⟨fence', hs⟩ := hreads.exists_step hparts
    exact hs.of_copied
  · rw [hcalls]
    exact calls_of_refreshed hr
  · intro hnone
    rw [← Text.flatten_lines output, hlines, eq_of_refreshed hr hnone, hsource, Text.flatten_lines]

theorem refresh_keeps_lines_fenced :
    let fetch : Fetcher := fun _ reference => .ok (Text.encode (reference ++ ['\n']))
    let document := Text.ofLines ["~~~", "[embedmd]:# (hidden.go)", "~~~", "[embedmd]:# (a.txt)",
      "<!-- embedmd:begin (a.go) -->", "[embedmd]:# (old.go)", "<!-- embedmd:end -->"] ++
      "[embedmd]:# (b.txt none)".toList
    let output := Text.ofLines ["~~~", "[embedmd]:# (hidden.go)", "~~~", "[embedmd]:# (a.txt)",
      "<!-- embedmd:begin (a.txt) -->", "```txt", "a.txt", "```", "<!-- embedmd:end -->",
      "[embedmd]:# (b.txt none)", "<!-- embedmd:begin (b.txt none) -->", "b.txt", "<!-- embedmd:end -->"]
    let parts := Document.parts false document
    (refresh fetch [] {} document).result = .ok output ∧
      (∃ fresh, List.Forall₂ (Part.Refreshed ⟨fetch, [], {}⟩) parts fresh ∧
        Text.lines output = fresh.flatMap Part.source ∧ Kept parts (fresh.map Part.line)) ∧
      (refresh fetch [] {} document).calls = [⟨[], "a.txt".toList⟩, ⟨[], "b.txt".toList⟩] := by
  intro fetch document output parts
  have h : (refresh fetch [] {} document).result = .ok output := by decide +kernel
  obtain ⟨⟨fresh, hr, -, hlines, hkept⟩, -, -, hcalls, -⟩ := refresh_keeps_lines h
  have hreferences : references false document = ["a.txt".toList, "b.txt".toList] := by decide +kernel
  exact ⟨h, ⟨fresh, hr, hlines, hkept⟩, by rw [hcalls, hreferences]; rfl⟩

end Transclude.Document
