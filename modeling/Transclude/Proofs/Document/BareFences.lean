import Transclude.Proofs.Document.Run

/-!
# Fences without marks

Whether a fence without marks is a block matters directly below a directive and nowhere else. If no line
there opens a fence, the lines below a directive are split alike whether or not such fences are blocks, so
the same parts are gone through and a run gives the same (`refresh_bareFences`). The line below a directive
counts only if the run comes to the directive.
-/

namespace Transclude

namespace Block

theorem split_true_eq_split_false {lines : List Text}
    (h : ∀ next, lines.head? = some next → isBegin next = true ∨ Fence.ofLine? next = none) :
    split true lines = split false lines := by
  cases lines with
  | nil => rfl
  | cons first below =>
      rcases h first rfl with hbegin | hopens
      · simp only [split, if_pos hbegin]
      · simp only [split, hopens, ite_self]

/-- A block that does not end has a mark where it begins, if fences without marks are none. -/
theorem isBegin_of_split_false_eq_error {first : Text} {below : List Text} {cause : Cause}
    (h : split false (first :: below) = .error cause) : isBegin first = true := by
  by_contra hbegin
  simp [split, hbegin] at h

end Block

namespace Document

variable {bare : Bool} {fence : Option Fence} {lines : List Text} {parts : List Part}
  {sources : Sources} {next : Text}

/-! ## Lines below directives -/

/-- The lines directly below the directives that a run comes to, as it ends at the first that fails. -/
def linesBelow (sources : Sources) : List Part → List Text
  | [] => []
  | .copied _ :: rest => linesBelow sources rest
  | .broken _ _ :: _ => []
  | .directive line d old :: rest =>
    (old ++ rest.flatMap Part.source).head?.toList ++
      match sources.embed d (Text.lineEnding line) with
      | .error _ => []
      | .ok _ => linesBelow sources rest

theorem mem_linesBelow_iff :
    next ∈ linesBelow sources parts ↔
      ∃ above line d old below, parts = above ++ .directive line d old :: below ∧
        (∃ fresh, List.Forall₂ (Part.Refreshed sources) above fresh) ∧
        (old ++ below.flatMap Part.source).head? = some next := by
  induction parts with
  | nil => simp [linesBelow]
  | cons part parts ih =>
      constructor
      · intro h
        cases part with
        | copied line =>
            obtain ⟨above, l, d, old, below, rfl, ⟨fresh, hr⟩, hnext⟩ := ih.mp h
            exact ⟨.copied line :: above, l, d, old, below, rfl, ⟨_, .cons (.copied line) hr⟩, hnext⟩
        | broken line cause => cases h
        | directive line d old =>
            rcases List.mem_append.mp h with h | h
            · exact ⟨[], line, d, old, parts, rfl, ⟨[], .nil⟩, Option.mem_toList.mp h⟩
            · split at h
              · cases h
              next block he =>
                obtain ⟨above, l, d', old', below, rfl, ⟨fresh, hr⟩, hnext⟩ := ih.mp h
                exact ⟨.directive line d old :: above, l, d', old', below, rfl,
                  ⟨_, .cons (.directive he old) hr⟩, hnext⟩
      · rintro ⟨above, line, d, old, below, hparts, ⟨fresh, hr⟩, hnext⟩
        cases hr with
        | nil =>
            obtain ⟨rfl, rfl⟩ := List.cons.inj hparts
            exact List.mem_append_left _ (Option.mem_toList.mpr hnext)
        | cons hp hr =>
            obtain ⟨rfl, rfl⟩ := List.cons.inj hparts
            have hmem := ih.mpr ⟨_, line, d, old, below, rfl, ⟨_, hr⟩, hnext⟩
            cases hp with
            | copied line => exact hmem
            | directive he old =>
                refine List.mem_append_right _ ?_
                rw [he]
                exact hmem

theorem head?_flatMap_source_partsFrom :
    ((partsFrom bare fence lines).flatMap Part.source).head? = lines.head? := by
  cases hparts : partsFrom bare fence lines with
  | nil =>
      rw [partsFrom_eq_nil hparts]
      rfl
  | cons part parts =>
      rcases step_or_broken_of_partsFrom hparts with
        ⟨_, _, hs, -⟩ | ⟨line, rest, cause, rfl, rfl, -⟩
      · rw [← hs.source_append]
        cases part <;> rfl
      · rfl

/-! ## Runs -/

theorem refreshParts_partsFrom_bare
    (h : ∀ next ∈ linesBelow sources (partsFrom false fence lines), Fence.ofLine? next = none)
    (number : Nat) :
    refreshParts sources number (partsFrom true fence lines) =
      refreshParts sources number (partsFrom false fence lines) := by
  fun_induction partsFrom false fence lines generalizing number with
  | case1 fence => rw [partsFrom_nil]
  | case2 fence line rest ih =>
      rw [(Step.inside fence line rest).partsFrom_eq]
      simp only [refreshParts]
      rw [ih h]
  | case3 line rest fence hf ih =>
      rw [(Step.opens hf rest).partsFrom_eq]
      simp only [refreshParts]
      rw [ih h]
  | case4 line rest hf fault hd =>
      rw [partsFrom]
      simp only [hf, hd]
  | case5 line rest hf hd ih =>
      rw [(Step.plain hf hd rest).partsFrom_eq]
      simp only [refreshParts]
      rw [ih h]
  | case6 line rest hf d hd cause hb =>
      have hsplit : Block.split true rest = .error cause := by
        rw [Block.split_true_eq_split_false, hb]
        intro next hnext
        obtain ⟨below, rfl⟩ := List.head?_eq_some_iff.mp hnext
        exact Or.inl (Block.isBegin_of_split_false_eq_error hb)
      rw [partsFrom_of_split_error hd hsplit]
  | case7 line rest hf d hd block below hb _ ih =>
      have hsplit : Block.split true rest = .ok (block, below) := by
        rw [Block.split_true_eq_split_false, hb]
        intro next hnext
        refine Or.inr (h next (List.mem_append_left _ (Option.mem_toList.mpr ?_)))
        rw [List.head?_append, head?_flatMap_source_partsFrom, ← List.head?_append,
          Block.append_of_split hb, hnext]
      rw [(Step.directive hd hsplit).partsFrom_eq]
      simp only [refreshParts]
      -- A run that fails here does not come to the parts below.
      cases he : sources.embed d (Text.lineEnding line) with
      | error cause => rfl
      | ok fresh =>
          have hbelow : ∀ next ∈ linesBelow sources (partsFrom false none below),
              Fence.ofLine? next = none := by
            intro next hnext
            refine h next (List.mem_append_right _ ?_)
            rw [he]
            exact hnext
          simp only [ih hbelow]

/-- Where no directive that a run comes to has a line right below it that opens a fence, the run gives the
same and asks for the same whether or not fences without marks are blocks. -/
theorem refresh_bareFences {fetch : Fetcher} {base document : Text} {languages : Languages}
    (h : ∀ above line d old below next,
      Document.parts false document = above ++ .directive line d old :: below →
      (∃ fresh, List.Forall₂ (Part.Refreshed ⟨fetch, base, languages⟩) above fresh) →
      (old ++ below.flatMap Part.source).head? = some next → Fence.ofLine? next = none) :
    refresh fetch base ⟨languages, true⟩ document = refresh fetch base ⟨languages, false⟩ document := by
  have hbelow : ∀ next ∈ linesBelow ⟨fetch, base, languages⟩ (Document.parts false document),
      Fence.ofLine? next = none := by
    intro next hnext
    obtain ⟨above, line, d, old, below, hparts, hfresh, hhead⟩ := mem_linesBelow_iff.mp hnext
    exact h above line d old below next hparts hfresh hhead
  simp only [refresh, Document.parts, refreshParts_partsFrom_bare hbelow]

theorem refresh_bareFences_apart :
    let fetch : Fetcher := fun _ reference =>
      if reference = "b.go".toList then .error (.ofCause (.fetch reference .unknown))
      else .ok (Text.encode (reference ++ ['\n']))
    let document := Text.ofLines ["[embedmd]:# (a.go)", "<!-- embedmd:begin (a.go) -->", "```go", "```",
      "<!-- embedmd:end -->", "~~~", "[embedmd]:# (c.go)", "~~~", "[embedmd]:# (b.go)", "",
      "[embedmd]:# (c.go)", "~~~", "~~~"]
    let sources : Sources := ⟨fetch, [], {}⟩
    (∀ next ∈ linesBelow sources (Document.parts false document), Fence.ofLine? next = none) ∧
      refresh fetch [] ⟨{}, true⟩ document = refresh fetch [] ⟨{}, false⟩ document ∧
      (refresh fetch [] ⟨{}, true⟩ document).calls = [⟨[], "a.go".toList⟩, ⟨[], "b.go".toList⟩] ∧
      (refresh fetch [] ⟨{}, true⟩ document).result =
        .error ⟨[9], .fetch "b.go".toList .unknown⟩ := by
  intro fetch document sources
  have h : ∀ next ∈ linesBelow sources (Document.parts false document), Fence.ofLine? next = none := by
    decide +kernel
  have hsame : refresh fetch [] ⟨{}, true⟩ document = refresh fetch [] ⟨{}, false⟩ document :=
    refresh_bareFences fun above line d old below next hparts hfresh hnext =>
      h next (mem_linesBelow_iff.mpr ⟨above, line, d, old, below, hparts, hfresh, hnext⟩)
  refine ⟨h, hsame, ?_, ?_⟩
  · rw [hsame]
    decide +kernel
  · rw [hsame]
    decide +kernel

end Document

end Transclude
