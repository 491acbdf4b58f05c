import Transclude.Proofs.Document.Reading

/-!
# Documents one after another

No directive affects another: a run over two texts, one after another, does what runs over each of them
do (`refresh_append`). This takes a first text that is whole lines and leaves no fence open, and a
directive at its end must not come to stand above something that looks like a block. Failures of the second
text are as many lines further down as the first has.
-/

namespace Transclude

/-- The failure of a directive that stands as many lines further down. -/
def Failure.below (count : Nat) (failure : Failure) : Failure :=
  { failure with lines := failure.lines.modifyHead (· + count) }

namespace Document

variable {bare : Bool} {fence : Option Fence} {parts : List Part} {sources : Sources}
  {document document' : Text}

/-! ## Reading -/

theorem lines_append_of_whole (h : document = [] ∨ Text.endsLine document = true) (document' : Text) :
    Text.lines (document ++ document') = Text.lines document ++ Text.lines document' := by
  rcases h with rfl | h
  · rfl
  · exact Text.lines_append_of_endsLine h document'

theorem parts_append (hends : document = [] ∨ Text.endsLine document = true)
    (h : Reads bare none (Text.lines document) (Document.parts bare document) none [])
    (hlast : endsInDirective (Document.parts bare document) = true →
      Block.leads bare (Text.lines document') = false) :
    Document.parts bare (document ++ document') =
      Document.parts bare document ++ Document.parts bare document' := by
  have happend := (h.append hlast).partsFrom_eq
  rw [h.flatMap_source] at happend
  rw [Document.parts, lines_append_of_whole hends, happend]
  rfl

/-! ## Line numbers -/

theorem refreshParts_add (number count : Nat) :
    refreshParts sources (number + count) parts =
      ⟨(refreshParts sources number parts).calls,
        (refreshParts sources number parts).result.mapError (Failure.below count)⟩ := by
  induction parts generalizing number with
  | nil => rfl
  | cons part parts ih =>
      cases part with
      | copied line =>
          have hnumber : number + count + 1 = number + 1 + count := by omega
          simp only [refreshParts, hnumber, ih, Outcome.after, mapError_map]
      | broken line cause => rfl
      | directive line d old =>
          have hnumber : number + count + 1 + old.length = number + 1 + old.length + count := by omega
          simp only [refreshParts]
          cases sources.embed d (Text.lineEnding line) with
          | error failure => rfl
          | ok block => simp only [hnumber, ih, Outcome.after, mapError_map]

/-! ## Runs -/

variable {fetch : Fetcher} {base : Text} {options : Options}

theorem refresh_append_eq {output : Text} (hends : document = [] ∨ Text.endsLine document = true)
    (h : (refresh fetch base options document).result = .ok output)
    (hfence : openFence ((Document.parts options.bareFences document).map Part.line) = none)
    (hlast : endsInDirective (Document.parts options.bareFences document) = false ∨
      Block.leads options.bareFences (Text.lines document') = false) :
    refresh fetch base options (document ++ document') =
      ⟨(refresh fetch base options document).calls ++ (refresh fetch base options document').calls,
        ((refresh fetch base options document').result.mapError
          (Failure.below (Text.lines document).length)).map (output ++ ·)⟩ := by
  obtain ⟨fence, fresh, hreads, -⟩ := exists_of_refresh h
  obtain rfl : fence = none := hreads.fence_eq.trans hfence
  -- The second text is read as it is alone, and its parts are gone through behind the lines of the first.
  have hparts : Document.parts options.bareFences (document ++ document') = _ :=
    parts_append hends hreads fun hd => hlast.resolve_left (by rw [hd]; simp)
  obtain ⟨written, hw, rfl⟩ := exists_of_map_eq_ok h
  rw [refresh, hparts, refreshParts_append hw, hreads.flatMap_source, refreshParts_add, Outcome.after_after]
  simp only [refresh, Outcome.after, List.nil_append]
  cases (refreshParts _ 1 (Document.parts options.bareFences document')).result with
  | error failure => rfl
  | ok more => simp [Except.mapError, Except.map]

/-- A run over two texts gives the outputs one after another, or the failure of the second; it makes the
calls of the first and then those of the second. -/
theorem refresh_append {output : Text} (hends : document = [] ∨ Text.endsLine document = true)
    (h : (refresh fetch base options document).result = .ok output)
    (hfence : openFence ((Document.parts options.bareFences document).map Part.line) = none)
    (hlast : endsInDirective (Document.parts options.bareFences document) = false ∨
      Block.leads options.bareFences (Text.lines document') = false) :
    (∀ output', (refresh fetch base options document').result = .ok output' →
        (refresh fetch base options (document ++ document')).result = .ok (output ++ output')) ∧
      (∀ number inner,
        (refresh fetch base options document').result = .error (Failure.atLine number inner) →
        (refresh fetch base options (document ++ document')).result =
          .error (inner.atLine (number + (Text.lines document).length))) ∧
      (refresh fetch base options (document ++ document')).calls =
        (refresh fetch base options document).calls ++ (refresh fetch base options document').calls := by
  have happend := refresh_append_eq hends h hfence hlast
  refine ⟨?_, ?_, ?_⟩
  · intro output' h'
    rw [happend, h']
    rfl
  · intro number inner h'
    rw [happend, h']
    rfl
  · rw [happend]

theorem refresh_append_unterminated :
    let fetch : Fetcher := fun _ reference => .ok (Text.encode (reference ++ ['\n']))
    let document := Text.ofLines ["[embedmd]:# (a.go)", "<!-- embedmd:begin (a.go) -->", "```go",
      "```", "<!-- embedmd:end -->", "~~~", "[embedmd]:#", "~~~"]
    let document' := Text.ofLines ["<!-- embedmd:begin (a.go) -->", "[embedmd]:# (b.go)",
      "[embedmd]:# (c.go)", "<!-- embedmd:begin (c.go) -->"]
    let output := Text.ofLines ["[embedmd]:# (a.go)", "<!-- embedmd:begin (a.go) -->", "```go", "a.go",
      "```", "<!-- embedmd:end -->", "~~~", "[embedmd]:#", "~~~"]
    ((refresh fetch [] {} document).result = .ok output ∧
        openFence ((Document.parts false document).map Part.line) = none ∧
        endsInDirective (Document.parts false document) = false ∧
        (refresh fetch [] {} document').result = .error ⟨[3], .unterminated Block.endMark⟩) ∧
      (refresh fetch [] {} (document ++ document')).result =
        .error ⟨[11], .unterminated Block.endMark⟩ ∧
      (refresh fetch [] {} (document ++ document')).calls =
        [⟨[], "a.go".toList⟩, ⟨[], "b.go".toList⟩] := by
  intro fetch document document' output
  have hends : Text.endsLine document = true := by decide +kernel
  have h : (refresh fetch [] {} document).result = .ok output := by decide +kernel
  have hfence : openFence ((Document.parts false document).map Part.line) = none := by decide +kernel
  have hlast : endsInDirective (Document.parts false document) = false := by decide +kernel
  have h' : (refresh fetch [] {} document').result = .error ⟨[3], .unterminated Block.endMark⟩ := by
    decide +kernel
  have hlength : (Text.lines document).length = 8 := by decide +kernel
  have hcalls : (refresh fetch [] {} document).calls = [⟨[], "a.go".toList⟩] := by decide +kernel
  have hcalls' : (refresh fetch [] {} document').calls = [⟨[], "b.go".toList⟩] := by decide +kernel
  obtain ⟨-, hfails, happend⟩ := refresh_append (Or.inr hends) h hfence (Or.inl hlast)
  refine ⟨⟨h, hfence, hlast, h'⟩, ?_, ?_⟩
  · rw [hfails 3 (.ofCause (.unterminated Block.endMark)) h', hlength]
    rfl
  · rw [happend, hcalls, hcalls']
    rfl

end Document

end Transclude
