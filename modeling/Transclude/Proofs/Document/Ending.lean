import Transclude.Proofs.Document.Run

/-!
# Documents that are read to their end

A document is refreshed to the end unless one of its lines holds a command that is never read to its end,
be it the command of a directive or the one that a block below it repeats (`exists_of_refresh_endless`). So
every document is whose blanks all separate arguments (`isEndless_eq_false_of_refresh`).
-/

namespace Transclude

/-- The line holds a command that is never read to its end. -/
def HoldsEndless (line : Text) : Prop :=
  ∃ command, (Directive.commandOf? line = some command ∨ Block.echo? line = some command) ∧
    ¬ Command.Halts command

theorem Command.OnlySeparators.not_holdsEndless {line : Text} (h : OnlySeparators line) :
    ¬ HoldsEndless line := by
  rintro ⟨command, hc, hendless⟩
  refine hendless (OnlySeparators.halts fun c hm => h c ((Text.isInfix_trim line).subset ?_))
  rcases hc with hc | hc
  · have hline := List.isPrefixOf?_eq_some_iff_append_eq.mp hc
    exact hline ▸ List.mem_append_right _ hm
  · unfold Block.echo? at hc
    split at hc
    · cases hc
    next rest hrest =>
      obtain ⟨echo, hecho, rfl⟩ := Option.map_eq_some_iff.mp hc
      have hline := List.isPrefixOf?_eq_some_iff_append_eq.mp hrest
      have hrest' := List.isSuffixOf?_eq_some_iff_append_eq.mp hecho
      rw [← hline, ← hrest']
      exact List.mem_append_right _ (List.mem_append_left _ (Block.unguardEnds_subset echo hm))

/-- The source never fails for a reading that has no end. -/
def Fetcher.Ends (fetch : Fetcher) : Prop :=
  ∀ base reference failure, fetch base reference = .error failure → failure.isEndless = false

theorem Sources.isEndless_eq_false_of_embed {sources : Sources} (hfetch : sources.fetch.Ends)
    {directive : Directive} {eol : Text} {failure : Failure}
    (h : sources.embed directive eol = .error failure) : failure.isEndless = false := by
  rcases fetch_eq_error_or_of_embed h with hf | ⟨cause, rfl, hcause⟩
  · exact hfetch _ _ _ hf
  · exact beq_false_of_ne hcause

namespace Block

theorem exists_of_splitEnd_eq_error {lines : List Text} {cause : Cause}
    (h : splitEnd lines = .error cause) : ∃ marker, cause = .unterminated marker := by
  unfold splitEnd at h
  split at h <;> cases h
  exact ⟨_, rfl⟩

theorem exists_of_splitFence_eq_error {fence : Fence} {lines : List Text} {cause : Cause}
    (h : splitFence fence lines = .error cause) : ∃ marker, cause = .unterminated marker := by
  unfold splitFence at h
  split at h <;> cases h
  exact ⟨_, rfl⟩

theorem exists_of_splitFenceOf_eq_error {first : Text} {lines : List Text} {cause : Cause}
    (h : splitFenceOf first lines = .error cause) : ∃ marker, cause = .unterminated marker := by
  unfold splitFenceOf at h
  split at h
  · cases h
  split at h
  · exact exists_of_splitFence_eq_error (map_eq_error_iff.mp h)
  · cases h

/-- A block is removed to its end unless its end is missing or it begins with a line that repeats a command
without end. -/
theorem exists_of_split_endless {bare : Bool} {lines : List Text}
    (h : split bare lines = .error (.malformed .endless)) : ∃ line ∈ lines, HoldsEndless line := by
  unfold split at h
  split at h
  · cases h
  next first below =>
  split at h
  · unfold splitMarked at h
    split at h
    · next hendless =>
      obtain ⟨command, hecho, hc⟩ := isEndless_eq_true_iff.mp hendless
      exact ⟨first, List.mem_cons_self, command, Or.inr hecho, hc⟩
    split at h
    · next cause hf =>
      cases h
      obtain ⟨marker, hmarker⟩ := exists_of_splitFenceOf_eq_error hf
      cases hmarker
    · obtain ⟨marker, hmarker⟩ := exists_of_splitEnd_eq_error (map_eq_error_iff.mp h)
      cases hmarker
  split at h
  · obtain ⟨marker, hmarker⟩ := exists_of_splitFence_eq_error (map_eq_error_iff.mp h)
    cases hmarker
  · cases h

end Block

namespace Document

variable {bare : Bool} {fence : Option Fence} {lines : List Text} {parts : List Part} {sources : Sources}
  {failure : Failure} {fetch : Fetcher} {base document : Text} {options : Options}

theorem exists_of_broken_endless {line : Text}
    (h : .broken line (.malformed .endless) ∈ partsFrom bare fence lines) :
    ∃ endless ∈ lines, HoldsEndless endless := by
  fun_induction partsFrom bare fence lines with
  | case1 => simp at h
  | case2 fence first rest ih =>
      obtain ⟨endless, hm, hl⟩ := ih (by simpa using h)
      exact ⟨endless, List.mem_cons_of_mem _ hm, hl⟩
  | case3 first rest fence hf ih =>
      obtain ⟨endless, hm, hl⟩ := ih (by simpa using h)
      exact ⟨endless, List.mem_cons_of_mem _ hm, hl⟩
  | case4 first rest hf fault hd =>
      obtain ⟨-, rfl⟩ : line = first ∧ .endless = fault := by simpa using h
      unfold Directive.ofLine at hd
      split at hd
      · cases hd
      next command hcommand =>
        have hc := Directive.ofCommand_eq_endless_iff.mp (map_eq_error_iff.mp hd)
        exact ⟨first, List.mem_cons_self, command, Or.inl hcommand, hc⟩
  | case5 first rest hf hd ih =>
      obtain ⟨endless, hm, hl⟩ := ih (by simpa using h)
      exact ⟨endless, List.mem_cons_of_mem _ hm, hl⟩
  | case6 first rest hf directive hd cause hb =>
      obtain ⟨-, rfl⟩ : line = first ∧ .malformed .endless = cause := by simpa using h
      obtain ⟨endless, hm, hl⟩ := Block.exists_of_split_endless hb
      exact ⟨endless, List.mem_cons_of_mem _ hm, hl⟩
  | case7 first rest hf directive hd block below hb _ ih =>
      obtain ⟨endless, hm, hl⟩ := ih (by simpa using h)
      have hrest : endless ∈ rest := Block.append_of_split hb ▸ List.mem_append_right block hm
      exact ⟨endless, List.mem_cons_of_mem _ hrest, hl⟩

theorem exists_of_refreshParts_endless (hfetch : sources.fetch.Ends) {number : Nat}
    (h : (refreshParts sources number parts).result = .error failure) (he : failure.isEndless = true) :
    ∃ line, .broken line (.malformed .endless) ∈ parts := by
  induction parts generalizing number failure with
  | nil => cases h
  | cons part parts ih =>
      cases part with
      | copied line =>
          obtain ⟨broken, hm⟩ := ih (map_eq_error_iff.mp h) he
          exact ⟨broken, List.mem_cons_of_mem _ hm⟩
      | broken line cause =>
          cases h
          have hcause : cause = .malformed .endless := by
            simpa [Failure.isEndless, Failure.atLine, Failure.ofCause] using he
          exact ⟨line, hcause ▸ List.mem_cons_self⟩
      | directive line directive old =>
          simp only [refreshParts] at h
          split at h
          · next inner hembed =>
            cases h
            have hends : inner.isEndless = false := Sources.isEndless_eq_false_of_embed hfetch hembed
            exact absurd he (Bool.eq_false_iff.mp hends)
          · obtain ⟨broken, hm⟩ := ih (map_eq_error_iff.mp h) he
            exact ⟨broken, List.mem_cons_of_mem _ hm⟩

/-- A document that is not refreshed to its end has a line that holds a command without end. -/
theorem exists_of_refresh_endless (hfetch : fetch.Ends)
    (h : (refresh fetch base options document).result = .error failure) (he : failure.isEndless = true) :
    ∃ line ∈ Text.lines document, HoldsEndless line := by
  obtain ⟨line, hm⟩ := exists_of_refreshParts_endless hfetch (map_eq_error_iff.mp h) he
  exact exists_of_broken_endless hm

/-- A document all of whose blanks separate arguments is refreshed to its end. -/
theorem isEndless_eq_false_of_refresh (hfetch : fetch.Ends) (hblanks : Command.OnlySeparators document)
    (h : (refresh fetch base options document).result = .error failure) : failure.isEndless = false := by
  by_contra he
  obtain ⟨line, hm, hl⟩ := exists_of_refresh_endless hfetch h (by simpa using he)
  refine Command.OnlySeparators.not_holdsEndless (fun c hc => hblanks c ?_) hl
  rw [← Text.flatten_lines document]
  exact List.mem_flatten_of_mem hm hc

end Document

end Transclude
