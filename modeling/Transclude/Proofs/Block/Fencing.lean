import Transclude.Proofs.Block.Echo

/-!
# Fences of written blocks

Whether a block has a fence is decided twice. Its writer goes by the language of the snippet, which
may follow from the extension of the reference; its reader goes by the language that the echoed
directive names. The two differ where an extension stands for snippets without a fence, and nowhere
else (`isFenced_beginLine_iff_wraps`).
-/

namespace Transclude

/-! ## Languages -/

theorem Languages.resolve_of_language (languages : Languages) {directive : Directive} {language : Text}
    (h : directive.language = some language) : languages.resolve directive = .ok language := by
  simp [resolve, h]

theorem Languages.exists_resolve (languages : Languages) {directive : Directive}
    (h : directive.HasLanguage) : ∃ language, languages.resolve directive = .ok language := by
  rcases h with h | h
  · obtain ⟨language, hl⟩ := Option.isSome_iff_exists.mp h
    exact ⟨language, languages.resolve_of_language hl⟩
  · obtain ⟨extension, he⟩ := Option.isSome_iff_exists.mp h
    cases hl : directive.language with
    | some language => exact ⟨language, languages.resolve_of_language hl⟩
    | none => exact ⟨languages.ofExtension extension, by simp [resolve, hl, he]⟩

theorem Reference.subset_of_extension? {reference extension : Text}
    (h : extension? reference = some extension) : extension ⊆ reference := by
  have hname : ∀ t, fileName t ⊆ t := by
    intro t
    unfold fileName
    split
    · next before name hc =>
        rw [(Text.eq_of_cutLast? hc).1]
        exact fun c hm => List.mem_append_right before (List.mem_cons_of_mem _ hm)
    · exact List.Subset.refl t
  have hpath : path reference ⊆ reference := (List.takeWhile_prefix _).subset
  unfold extension? at h
  split at h
  · next stem after hc =>
      split at h
      · cases h
      cases h
      have he := (Text.eq_of_cutLast? hc).1
      intro c hm
      exact hpath (hname _ (he ▸ List.mem_append_right stem (List.mem_cons_of_mem _ hm)))
  · cases h

theorem Directive.newline_mem_referenceText {reference : Text} (h : '\n' ∈ reference) :
    '\n' ∈ referenceText reference := by
  unfold referenceText
  split
  · have hencode : '\n' ∈ Quoted.encode reference :=
      List.mem_flatMap.mpr ⟨'\n', h, by simp⟩
    simp [hencode]
  · exact h

theorem Languages.newline_not_mem_known {extension language : Text}
    (h : known? extension = some language) : '\n' ∉ language := by
  obtain ⟨entry, hfind, rfl⟩ := Option.map_eq_some_iff.mp h
  have hall : ∀ entry ∈ known, '\n' ∉ entry.2.toList := by decide +kernel
  exact hall entry (List.mem_of_find?_eq_some hfind)

theorem Languages.newline_not_mem_of_resolve {directive : Directive} {language : Text}
    (hd : '\n' ∉ directive.text) (h : resolve {} directive = .ok language) : '\n' ∉ language := by
  unfold resolve at h
  split at h
  · next written hl =>
      cases h
      exact fun hm => hd (by simp [Directive.text, Directive.languageText, hl, hm])
  · next extension _ he =>
      cases h
      have hext : '\n' ∉ extension := by
        intro hm
        have hreference := Directive.newline_mem_referenceText (Reference.subset_of_extension? he hm)
        exact hd (by simp [Directive.text, hreference])
      unfold ofExtension
      simp only
      cases hk : known? (Text.toAsciiLower extension) with
      | none => exact hext
      | some language => exact newline_not_mem_known hk
  · cases h

namespace Block

/-! ## Writers and readers -/

theorem body_eq_iff {language eol : Text} {lines : List Text} :
    body ⟨lines, language⟩ eol = lines.map (Text.completeLine eol) ↔ language = unfencedLanguage := by
  by_cases h : language = unfencedLanguage
  · simp [body, h]
  · refine iff_of_false (fun hb => ?_) h
    have hlen := congrArg List.length hb
    simp only [body, if_neg h, List.cons_append, List.length_cons, List.length_append,
      List.length_nil] at hlen
    omega

theorem splitFenceOf_iff_isFenced {first : Text} :
    (∀ below, splitFenceOf first below = .ok ([], below)) ↔ isFenced first = false := by
  constructor
  · intro h
    rw [Bool.eq_false_iff]
    intro hf
    have hopen : Fence.ofLine? ['\x60', '\x60', '\x60'] = some ⟨'\x60', 3⟩ := by decide
    have hsplit := h [['\x60', '\x60', '\x60']]
    simp [splitFenceOf, hf, hopen, splitFence, throughFirst?, Except.map] at hsplit
  · intro hf below
    cases below with
    | nil => rfl
    | cons line below => simp [splitFenceOf, hf]

theorem isFenced_iff_wraps {languages : Languages} {directive : Directive} {language first : Text}
    (hfirst : isFenced first = true ↔ directive.language ≠ some unfencedLanguage)
    (hr : languages.resolve directive = .ok language) :
    (isFenced first = true ↔ language ≠ unfencedLanguage) ↔
      ¬ (directive.language = none ∧ language = unfencedLanguage) := by
  cases hl : directive.language with
  | some written =>
      obtain rfl : written = language :=
        Except.ok.inj ((languages.resolve_of_language hl).symm.trans hr)
      simp [hfirst, hl]
  | none => simp [hfirst, hl]

/-- For an accepted command without quotes and guarded ends, the reader of the block expects a fence
exactly where the writer put one, if and only if the block's language is not that of unfenced
snippets by the extension of the reference alone. A block without a fence is searched for one in
just this case. -/
theorem isFenced_beginLine_iff_wraps {command : Text} {directive : Directive}
    (h : Directive.ofCommand command = .ok directive)
    (hq : Directive.quotesReference command = false) (hg : ¬ guardedEnd <:+: command)
    (languages : Languages) {eol : Text} (he : Text.IsEol eol) :
    ∃ language, languages.resolve directive = .ok language ∧
      ((∀ lines, isFenced (beginLine directive eol) = true ↔
          body ⟨lines, language⟩ eol ≠ lines.map (Text.completeLine eol)) ↔
        ¬ (directive.language = none ∧ language = unfencedLanguage)) ∧
      (language = unfencedLanguage →
        ((∀ below, splitFenceOf (beginLine directive eol) below = .ok ([], below)) ↔
          directive.language ≠ none)) := by
  have hd := (Directive.isReadable_of_ofCommand h hq).1
  have hfirst : isFenced (beginLine directive eol) = true ↔
      directive.language ≠ some unfencedLanguage := by
    rw [beginLine_eq, isFenced_append_of_blank he.isBlank]
    exact isFenced_beginLine hd (not_guardedEnd_infix_text h hq hg)
  obtain ⟨language, hr⟩ := languages.exists_resolve hd.hasLanguage
  have hwraps := isFenced_iff_wraps hfirst hr
  refine ⟨language, hr, ?_, ?_⟩
  · simp only [ne_eq, body_eq_iff, forall_const]
    exact hwraps
  · rintro rfl
    rw [splitFenceOf_iff_isFenced, Bool.eq_false_iff]
    cases hl : directive.language with
    | none => simp [hfirst, hl]
    | some written =>
        obtain rfl : written = unfencedLanguage :=
          Except.ok.inj ((languages.resolve_of_language hl).symm.trans hr)
        simp [hfirst, hl]

theorem isFenced_beginLine_iff_wraps_notes :
    let directive : Directive := ⟨"notes.none".toList, none, .whole⟩
    Directive.ofCommand "(notes.none)".toList = .ok directive ∧
      Directive.quotesReference "(notes.none)".toList = false ∧
      ¬ guardedEnd <:+: "(notes.none)".toList ∧ Text.IsEol ['\n'] ∧
      ∃ language, Languages.resolve {} directive = .ok language ∧
        ((∀ lines, isFenced (beginLine directive ['\n']) = true ↔
            body ⟨lines, language⟩ ['\n'] ≠ lines.map (Text.completeLine ['\n'])) ↔
          ¬ (directive.language = none ∧ language = unfencedLanguage)) ∧
        (language = unfencedLanguage →
          ((∀ below, splitFenceOf (beginLine directive ['\n']) below = .ok ([], below)) ↔
            directive.language ≠ none)) := by
  have h : Directive.ofCommand "(notes.none)".toList =
      .ok ⟨"notes.none".toList, none, .whole⟩ := by decide +kernel
  have hq : Directive.quotesReference "(notes.none)".toList = false := by decide +kernel
  have hg : ¬ guardedEnd <:+: "(notes.none)".toList := by decide +kernel
  exact ⟨h, hq, hg, Or.inl rfl, isFenced_beginLine_iff_wraps h hq hg {} (Or.inl rfl)⟩

end Block

end Transclude
