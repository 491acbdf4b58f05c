import Transclude.Proofs.Document.Reading

/-!
# The first failure

A run that fails names the line of a directive, and the lines above it succeed on their own
(`refresh_fails_at_first`). What was asked for is what these lines ask for, and the reference of the
directive if there is one to be made out and the block below it comes to its end. No other line is named
where the source of contents names none.
-/

namespace Transclude

/-- The language of a directive that is read off a line is known, so its content is asked for. -/
theorem Sources.callsOf_of_ofLine (sources : Sources) {line : Text} {directive : Directive}
    (h : Directive.ofLine line = .ok (some directive)) :
    sources.callsOf directive = [⟨sources.base, directive.reference⟩] := by
  obtain ⟨command, -, hcommand⟩ := Directive.exists_of_ofLine h
  obtain ⟨language, hr⟩ :=
    sources.languages.exists_resolve (Directive.hasLanguage_of_ofCommand hcommand)
  simp [callsOf, hr]

/-! ## Plain failures -/

/-- The source fails for a cause alone: it leaves it to the run to say at which line. -/
def Fetcher.IsPlain (fetch : Fetcher) : Prop :=
  ∀ base reference failure, fetch base reference = .error failure → failure.lines = []

namespace Document

variable {bare : Bool} {fence fence' : Option Fence} {lines lines' : List Text} {line : Text}
  {part : Part} {parts above below : List Part} {sources : Sources}

/-! ## Where a run fails -/

/-- A run that fails makes the parts above the one where it does, and the calls of that one last. -/
theorem exists_of_refreshParts_eq_error {number : Nat} {failure : Failure}
    (h : (refreshParts sources number parts).result = .error failure) :
    ∃ above part below output inner, parts = above ++ part :: below ∧
      (refreshParts sources number above).result = .ok output ∧
      (∀ line, part ≠ .copied line) ∧
      failure = Failure.atLine (number + (above.flatMap Part.source).length) inner ∧
      (inner.lines = [] ∨ ∃ line d old, part = .directive line d old ∧
        sources.fetch sources.base d.reference = .error inner) ∧
      (refreshParts sources number parts).calls =
        (refreshParts sources number above).calls ++ part.calls sources := by
  induction parts generalizing number with
  | nil => cases h
  | cons part parts ih =>
      cases part with
      | copied line =>
          obtain ⟨above, part, below, output, inner, rfl, hr, hpart, rfl, hinner, hcalls⟩ :=
            ih (map_eq_error_iff.mp h)
          refine ⟨.copied line :: above, part, below, line :: output, inner, rfl, ?_, hpart, ?_, hinner,
            ?_⟩
          · simp [refreshParts, Outcome.after, hr, Except.map]
          · rw [List.flatMap_cons, List.length_append, Part.source, List.length_singleton,
              Nat.add_assoc]
          · simp [refreshParts, Outcome.after, hcalls]
      | broken line cause =>
          cases h
          exact ⟨[], .broken line cause, parts, [], .ofCause cause, rfl, rfl, by simp, rfl,
            Or.inl rfl, rfl⟩
      | directive line d old =>
          simp only [refreshParts] at h ⊢
          cases he : sources.embed d (Text.lineEnding line) with
          | error inner =>
              rw [he] at h
              cases h
              have hinner : inner.lines = [] ∨ sources.fetch sources.base d.reference = .error inner := by
                rcases Sources.fetch_eq_error_or_of_embed he with hf | ⟨cause, rfl, -⟩
                · exact Or.inr hf
                · exact Or.inl rfl
              exact ⟨[], .directive line d old, parts, [], inner, rfl, rfl, by simp, rfl,
                hinner.imp_right fun hf => ⟨line, d, old, rfl, hf⟩, rfl⟩
          | ok block =>
              rw [he] at h
              obtain ⟨above, part, below, output, inner, rfl, hr, hpart, rfl, hinner, hcalls⟩ :=
                ih (map_eq_error_iff.mp h)
              let written := Text.completeLine (Text.lineEnding line) line :: block ++ output
              refine ⟨.directive line d old :: above, part, below, written, inner, rfl, ?_, hpart, ?_,
                hinner, ?_⟩
              · simp [refreshParts, he, Outcome.after, hr, Except.map, written]
              · have hnumber : number + 1 + old.length + (above.flatMap Part.source).length =
                    number + ((line :: old).length + (above.flatMap Part.source).length) := by
                  rw [List.length_cons]
                  omega
                rw [List.flatMap_cons, List.length_append, Part.source, hnumber]
              · simp [refreshParts, he, Outcome.after, hcalls]

/-! ## The line where it fails -/

/-- Where a run fails, the first line holds a command. If this writes a directive and the block below it
comes to its end, the directive is asked for, and else nothing is. A directive is that of its line. -/
theorem exists_of_partsFrom_failing (sources : Sources) (h : partsFrom bare fence lines = part :: parts)
    (hpart : ∀ line, part ≠ .copied line) :
    ∃ line rest, lines = line :: rest ∧ (Directive.commandOf? line).isSome = true ∧
      (∀ line' d old, part = .directive line' d old → Directive.ofLine line = .ok (some d)) ∧
      (∀ d, Directive.ofLine line = .ok (some d) → Block.Terminated bare rest →
        part.calls sources = [⟨sources.base, d.reference⟩]) ∧
      ((∀ d, Directive.ofLine line = .ok (some d) → ¬ Block.Terminated bare rest) →
        part.calls sources = []) := by
  rcases step_or_broken_of_partsFrom h with ⟨fence', lines', hs, -⟩ | ⟨line, rest, cause, rfl, rfl, hbroken⟩
  · cases hs with
    | inside | opens | plain => exact absurd rfl (hpart _)
    | @directive line rest block below d hd hb =>
        obtain ⟨command, hc, -⟩ := Directive.exists_of_ofLine hd
        refine ⟨line, rest, rfl, by rw [hc]; rfl, ?_, ?_, ?_⟩
        · rintro _ _ _ ⟨⟩
          exact hd
        · intro d' hd' _
          obtain rfl : d = d' := by simpa [hd] using hd'
          exact sources.callsOf_of_ofLine hd
        · intro hnone
          exact absurd (Block.terminated_iff.mpr ⟨_, hb⟩) (hnone d hd)
  · refine ⟨line, rest, rfl, ?_, nofun, ?_, fun _ => rfl⟩
    · rcases hbroken with ⟨fault, hd⟩ | ⟨d, hd, -⟩
      · cases hc : Directive.commandOf? line with
        | none => simp [Directive.ofLine, hc] at hd
        | some command => rfl
      · obtain ⟨command, hc, -⟩ := Directive.exists_of_ofLine hd
        rw [hc]
        rfl
    · intro d hd hterminated
      obtain ⟨parts, hb⟩ := Block.terminated_iff.mp hterminated
      rcases hbroken with ⟨fault, hd'⟩ | ⟨d', -, hb'⟩
      · rw [hd] at hd'
        cases hd'
      · rw [hb] at hb'
        cases hb'

/-- The lines above are read as they were, without those that follow. -/
theorem parts_flatten_above {document : Text} (h : Reads bare none (Text.lines document) above fence lines)
    (hne : lines ≠ []) : Document.parts bare (above.flatMap Part.source).flatten = above := by
  have hlined : Text.Lined (above.flatMap Part.source ++ lines) :=
    h.source_append ▸ Text.lined_lines document
  -- A line follows, so those above are whole and make a document of their own.
  have hfull : Text.Lined (above.flatMap Part.source ++ []) := .append (hlined.isFull_of_ne_nil hne) .nil
  have habove : Reads bare none (above.flatMap Part.source ++ []) above fence [] :=
    h.append fun _ => rfl
  rw [List.append_nil] at hfull habove
  rw [Document.parts, Text.lines_flatten hfull, habove.partsFrom_eq_of_nil]

/-- Line numbers count from one, behind the lines above. -/
theorem numbered_line {number : Nat} {front later : List Text} (h : front ++ line :: later = lines)
    (hnumber : number = 1 + front.length) :
    number ≤ lines.length ∧ lines[number - 1]? = some line ∧ lines.take (number - 1) = front ∧
      lines.drop number = later := by
  subst h hnumber
  rw [Nat.add_sub_cancel_left]
  refine ⟨?_, by simp, List.take_left, ?_⟩
  · rw [List.length_append, List.length_cons]
    omega
  · rw [Nat.add_comm, ← List.drop_drop, List.drop_left, List.drop_one, List.tail_cons]

/-! ## Runs -/

/-- A run that fails names a line of the document that holds a command. It names no other line, unless the
source of contents names some where it fails. The lines above succeed on their own, and the calls are
theirs, with that of the directive behind them if the command writes one and the block below it comes to its
end. -/
theorem refresh_fails_at_first {fetch : Fetcher} {base document : Text} {options : Options}
    {failure : Failure} (h : (refresh fetch base options document).result = .error failure) :
    ∃ number inner line, failure = Failure.atLine number inner ∧
      (fetch.IsPlain → inner.lines = []) ∧
      (inner.lines = [] ∨ ∃ d, Directive.ofLine line = .ok (some d) ∧
        fetch base d.reference = .error inner) ∧
      1 ≤ number ∧ number ≤ (Text.lines document).length ∧
      (Text.lines document)[number - 1]? = some line ∧ (Directive.commandOf? line).isSome = true ∧
      let above := ((Text.lines document).take (number - 1)).flatten
      let below := (Text.lines document).drop number
      (∃ output, (refresh fetch base options above).result = .ok output) ∧
        (∀ d, Directive.ofLine line = .ok (some d) → Block.Terminated options.bareFences below →
          (refresh fetch base options document).calls =
            (refresh fetch base options above).calls ++ [⟨base, d.reference⟩]) ∧
        ((∀ d, Directive.ofLine line = .ok (some d) → ¬ Block.Terminated options.bareFences below) →
          (refresh fetch base options document).calls = (refresh fetch base options above).calls) := by
  obtain ⟨above, part, below, output, inner, hcut, hr, hpart, rfl, hinner, hcalls⟩ :=
    exists_of_refreshParts_eq_error (map_eq_error_iff.mp h)
  obtain ⟨fresh, hfresh, -, -⟩ := exists_of_refreshParts hr
  obtain ⟨fence, rest, hreads, hrest⟩ :=
    exists_reads_of_partsFrom hcut (isBroken_eq_false_of_refreshed hfresh)
  obtain ⟨line, later, rfl, hcommand, hdirective, hasked, hnot⟩ :=
    exists_of_partsFrom_failing ⟨fetch, base, options.languages⟩ hrest hpart
  have hlines : above.flatMap Part.source ++ line :: later = Text.lines document := hreads.source_append
  have habove : refresh fetch base options (above.flatMap Part.source).flatten =
      (refreshParts ⟨fetch, base, options.languages⟩ 1 above).after [] List.flatten := by
    rw [refresh, parts_flatten_above hreads (by simp)]
  have hcalls : (refresh fetch base options document).calls =
      (refresh fetch base options (above.flatMap Part.source).flatten).calls ++
        part.calls ⟨fetch, base, options.languages⟩ := by
    rw [habove]
    exact hcalls
  obtain ⟨hle, hline, htake, hdrop⟩ := numbered_line hlines rfl
  have hinner' : inner.lines = [] ∨ ∃ d, Directive.ofLine line = .ok (some d) ∧
      fetch base d.reference = .error inner := by
    rcases hinner with hplain | ⟨_, d, _, hd, hf⟩
    · exact Or.inl hplain
    · exact Or.inr ⟨d, hdirective _ _ _ hd, hf⟩
  refine ⟨1 + (above.flatMap Part.source).length, inner, line, rfl, fun hplain => ?_, hinner',
    Nat.le_add_right .., hle, hline, hcommand, ?_⟩
  · rcases hinner' with hlines | ⟨d, -, hf⟩
    · exact hlines
    · exact hplain _ _ _ hf
  dsimp only
  rw [htake, hdrop, hcalls]
  refine ⟨⟨output.flatten, ?_⟩, ?_, ?_⟩
  · rw [habove, Outcome.after, hr]
    rfl
  · intro d hd hterminated
    rw [hasked d hd hterminated]
  · intro hnone
    rw [hnot hnone, List.append_nil]

theorem refresh_fails_at_first_unfetched :
    let fetch : Fetcher := fun _ reference =>
      if reference = "b.txt".toList then .error (.ofCause (.fetch reference .unknown))
      else .ok (Text.encode (reference ++ ['\n']))
    let above := Text.ofLines ["~~~", "[embedmd]:#", "~~~", "[embedmd]:# (a.go)",
      "<!-- embedmd:begin -->", "<!-- embedmd:end -->"]
    let unfetched := above ++ Text.ofLines ["[embedmd]:# (b.txt)", "hand"]
    let unterminated := above ++ Text.ofLines ["[embedmd]:# (b.txt)", "<!-- embedmd:begin -->"]
    (fetch.IsPlain ∧
        (refresh fetch [] {} unfetched).result = .error ⟨[7], .fetch "b.txt".toList .unknown⟩ ∧
        (refresh fetch [] {} unterminated).result = .error ⟨[7], .unterminated Block.endMark⟩) ∧
      (∃ output, (refresh fetch [] {} above).result = .ok output) ∧
      (refresh fetch [] {} unfetched).calls =
        (refresh fetch [] {} above).calls ++ [⟨[], "b.txt".toList⟩] ∧
      (refresh fetch [] {} unterminated).calls = (refresh fetch [] {} above).calls := by
  intro fetch above unfetched unterminated
  have hfetch : fetch.IsPlain := by
    intro base reference failure h
    simp only [fetch] at h
    split at h <;> cases h
    rfl
  have h : (refresh fetch [] {} unfetched).result = .error ⟨[7], .fetch "b.txt".toList .unknown⟩ := by
    decide +kernel
  have h' : (refresh fetch [] {} unterminated).result = .error ⟨[7], .unterminated Block.endMark⟩ := by
    decide +kernel
  obtain ⟨number, ⟨_, _⟩, line, he, hplain, -, -, -, hline, -, hsucceeds, hasked, -⟩ :=
    refresh_fails_at_first h
  obtain ⟨number', ⟨_, _⟩, line', he', hplain', -, -, -, -, -, -, -, hnot⟩ := refresh_fails_at_first h'
  obtain rfl := hplain hfetch
  obtain rfl := hplain' hfetch
  cases he
  cases he'
  have habove : ((Text.lines unfetched).take (7 - 1)).flatten = above := by decide +kernel
  have habove' : ((Text.lines unterminated).take (7 - 1)).flatten = above := by decide +kernel
  rw [habove] at hsucceeds hasked
  rw [habove'] at hnot
  have hseventh : (Text.lines unfetched)[7 - 1]? = some (Text.ofLines ["[embedmd]:# (b.txt)"]) := by
    decide +kernel
  obtain rfl := Option.some.inj (hline.symm.trans hseventh)
  refine ⟨⟨hfetch, h, h'⟩, hsucceeds, ?_, ?_⟩
  · exact hasked ⟨"b.txt".toList, none, .whole⟩ (by decide +kernel) (by decide +kernel)
  · exact hnot fun _ _ => by decide +kernel

end Document

end Transclude
