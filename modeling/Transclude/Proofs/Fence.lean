import Transclude.Fence
import Transclude.Proofs.Text.Lines

/-!
# Fences around lines

The fence that is put around lines opens with the line written for it, and closes with the line
written for it and with none of the lines inside (`closes_around_eq_false`): a line that closes a
fence of backticks begins with as many of them.
-/

namespace Transclude.Fence

/-! ## Backticks -/

theorem trimStart_eq_dropWhile_space {line u : Text} {c : Char}
    (h : line.dropWhile (· == ' ') = c :: u) (hc : Text.isBlank c = false) :
    Text.trimStart line = c :: u := by
  have hspace : ∀ d ∈ line.takeWhile (· == ' '), Text.isBlank d = true := by
    intro d hd
    obtain rfl : d = ' ' := by simpa using List.mem_takeWhile_imp hd
    decide
  unfold Text.trimStart
  rw [← List.takeWhile_append_dropWhile (p := (· == ' ')) (l := line), h,
    List.dropWhile_append_of_pos hspace, List.dropWhile_cons_of_neg (by simp [hc])]

theorem le_leadingBackticks_of_closes {fence : Fence} {line : Text} (h : fence.closes line = true)
    (hm : fence.marker = '\x60') : fence.length ≤ leadingBackticks line := by
  unfold closes unindent? at h
  split at h
  · cases h
  next u hu =>
    obtain ⟨-, rfl⟩ := by simpa using hu
    simp only [Bool.and_eq_true, decide_eq_true_eq, hm] at h
    obtain ⟨hlen, hall⟩ := h
    obtain ⟨blanks, hb⟩ := Text.isPrefix_trimEnd (line.dropWhile (· == ' '))
    generalize Text.trimEnd (line.dropWhile (· == ' ')) = marks at *
    cases marks with
    | nil =>
        obtain hz : fence.length = 0 := by simpa using hlen
        omega
    | cons c marks =>
        obtain ⟨rfl, hmarks⟩ : c = '\x60' ∧ ∀ d ∈ marks, d = '\x60' := by simpa using hall
        have hstart : Text.trimStart line = ('\x60' :: marks) ++ blanks :=
          trimStart_eq_dropWhile_space hb.symm (by decide)
        have hmarks' : ∀ d ∈ '\x60' :: marks, (d == '\x60') = true := by simpa using hmarks
        rw [leadingBackticks, hstart, List.takeWhile_append_of_pos hmarks',
          List.length_append]
        omega

theorem takeWhile_eq_nil_of_not_mem {t : Text} (h : '\x60' ∉ t) : t.takeWhile (· == '\x60') = [] := by
  cases t with
  | nil => rfl
  | cons c t =>
      have hc : c ≠ '\x60' := fun e => h (by simp [e])
      exact List.takeWhile_cons_of_neg (by simpa using hc)

theorem ignoresEnding_leadingBackticks : Text.IgnoresEnding leadingBackticks := by
  intro eol he line
  have htake : eol.takeWhile (· == '\x60') = [] :=
    takeWhile_eq_nil_of_not_mem (by rcases he with rfl | rfl <;> decide)
  unfold leadingBackticks Text.trimStart
  rw [List.dropWhile_append]
  split
  · next h =>
      rw [List.isEmpty_iff.mp h, List.dropWhile_eq_nil_iff.mpr he.isBlank]
  · rw [List.takeWhile_append, htake]
    split <;> simp_all

theorem exists_of_ofLine? {line : Text} {fence : Fence} (h : ofLine? line = some fence) :
    ∃ rest, Text.trimStart line = fence.marker :: rest ∧ (fence.marker = '\x60' ∨ fence.marker = '~') := by
  obtain ⟨u, hu, hopen⟩ := Option.bind_eq_some_iff.mp h
  obtain ⟨-, hdrop⟩ : _ ∧ line.dropWhile (· == ' ') = u := by simpa [unindent?] using hu
  cases u with
  | nil => cases hopen
  | cons marker rest =>
      simp only [ofUnindented?] at hopen
      split at hopen
      · cases hopen
      next hmarker =>
        have hm : marker = '\x60' ∨ marker = '~' := by
          by_contra hne
          exact hmarker (not_or.mp hne)
        have hblank : Text.isBlank marker = false := by
          rcases hm with rfl | rfl <;> decide
        split at hopen
        · cases hopen
        split at hopen
        · cases hopen
        cases hopen
        exact ⟨rest, trimStart_eq_dropWhile_space hdrop hblank, hm⟩

/-- Only a line that begins with one of its marks, blanks apart, opens a fence. -/
theorem ofLine?_eq_none_of_trim {line t : Text} {c : Char} (h : Text.trim line = c :: t)
    (hc : c ≠ '\x60' ∧ c ≠ '~') : ofLine? line = none := by
  rw [Option.eq_none_iff_forall_ne_some]
  intro fence hf
  obtain ⟨rest, hstart, hmarker⟩ := exists_of_ofLine? hf
  have hblank : Text.isBlank fence.marker = false := by
    rcases hmarker with hm | hm <;> rw [hm] <;> decide
  have hend := Text.trimEnd_append_cons hblank [] rest
  rw [List.nil_append, List.nil_append] at hend
  rw [Text.trim, hstart, hend] at h
  obtain ⟨rfl, -⟩ := List.cons.inj h
  exact hmarker.elim hc.1 hc.2

/-! ## The fence around lines -/

theorem leadingBackticks_lt_around {lines : List Text} {line : Text} (h : line ∈ lines) :
    leadingBackticks line < (around lines).length := by
  have hmem : leadingBackticks line ∈ lines.map leadingBackticks := List.mem_map_of_mem h
  have hle := List.le_max_of_mem hmem
  simp only [around]
  rw [List.foldl_max_eq_max (List.ne_nil_of_mem hmem)]
  omega

/-- No line closes the fence around it. -/
theorem closes_around_eq_false {lines : List Text} {line eol : Text} (he : Text.IsEol eol)
    (h : line ∈ lines) : (around lines).closes (Text.completeLine eol line) = false := by
  rw [Bool.eq_false_iff]
  intro hc
  have hle := le_leadingBackticks_of_closes hc rfl
  rw [ignoresEnding_leadingBackticks.completeLine he] at hle
  exact absurd (leadingBackticks_lt_around h) (Nat.not_lt.mpr hle)

theorem exists_around_eq (lines : List Text) : ∃ n, around lines = ⟨'\x60', n + 3⟩ := by
  refine ⟨(lines.map leadingBackticks).foldl max 0 + 1 - 3, ?_⟩
  simp only [around, Fence.mk.injEq, true_and]
  omega

theorem marks_backticks (n : Nat) :
    marks ⟨'\x60', n + 3⟩ = '\x60' :: List.replicate (n + 2) '\x60' := rfl

theorem newline_not_mem_marks_around (lines : List Text) : '\n' ∉ (around lines).marks := by
  obtain ⟨n, hn⟩ := exists_around_eq lines
  simp [hn, marks]

theorem unindent?_backtick (t : Text) : unindent? ('\x60' :: t) = some ('\x60' :: t) := by
  simp [unindent?]

theorem closes_marks {fence : Fence} (hm : fence.marker = '\x60' ∨ fence.marker = '~') {eol : Text}
    (he : Text.IsEol eol) : fence.closes (fence.marks ++ eol) = true := by
  obtain ⟨marker, length⟩ := fence
  have hblank : Text.isBlank marker = false := by rcases hm with rfl | rfl <;> decide
  have hspace : marker ≠ ' ' := by rcases hm with rfl | rfl <;> decide
  have htrim : Text.trimEnd (List.replicate length marker ++ eol) = List.replicate length marker := by
    rw [Text.trimEnd_append_of_blank he.isBlank]
    cases length with
    | zero => rfl
    | succ n =>
        rw [List.replicate_succ']
        exact Text.trimEnd_append_cons hblank _ []
  have hunindent : unindent? (List.replicate length marker ++ eol) =
      some (List.replicate length marker ++ eol) := by
    cases length with
    | zero => rcases he with rfl | rfl <;> rfl
    | succ n => simp [unindent?, List.replicate_succ, hspace]
  simp [closes, marks, hunindent, htrim]

theorem closes_marks_around {eol : Text} (he : Text.IsEol eol) (lines : List Text) :
    (around lines).closes ((around lines).marks ++ eol) = true :=
  closes_marks (Or.inl rfl) he

/-- The line written to open the fence opens it, unless the language holds a backtick. -/
theorem ofLine?_marks_around {language eol : Text} (he : Text.IsEol eol) (hl : '\x60' ∉ language)
    (lines : List Text) :
    ofLine? ((around lines).marks ++ language ++ eol) = some (around lines) := by
  obtain ⟨n, hn⟩ := exists_around_eq lines
  have hrest : '\x60' ∉ language ++ eol := by
    rcases he with rfl | rfl <;> simp [hl]
  have hmarks : ∀ c ∈ List.replicate (n + 2) '\x60', (c == '\x60') = true := by simp
  have htake : (List.replicate (n + 2) '\x60' ++ (language ++ eol)).takeWhile (· == '\x60') =
      List.replicate (n + 2) '\x60' := by
    rw [List.takeWhile_append_of_pos hmarks, takeWhile_eq_nil_of_not_mem hrest, List.append_nil]
  have hdrop : '\x60' ∉ (List.replicate (n + 2) '\x60' ++ (language ++ eol)).dropWhile (· == '\x60') := by
    rw [List.dropWhile_append_of_pos hmarks]
    exact fun hd => hrest ((List.dropWhile_suffix _).subset hd)
  have hlen : ¬ n + 3 < 3 := by omega
  rw [hn, marks_backticks, List.append_assoc, List.cons_append, ofLine?, unindent?_backtick,
    Option.bind_some]
  simp only [ofUnindented?, htake, hdrop, List.length_replicate, hlen]
  simp

/-- A fence that is opened by a line written with a backtick in the language is longer than the one it
was written for, and is of backticks. -/
theorem lt_length_of_ofLine? {language eol : Text} (hl : '\x60' ∈ language) {lines : List Text}
    {fence : Fence} (h : ofLine? ((around lines).marks ++ language ++ eol) = some fence) :
    fence.marker = '\x60' ∧ (around lines).length < fence.length := by
  obtain ⟨n, hn⟩ := exists_around_eq lines
  have hmarks : ∀ c ∈ List.replicate (n + 2) '\x60', (c == '\x60') = true := by simp
  rw [hn, marks_backticks, List.append_assoc, List.cons_append, ofLine?, unindent?_backtick,
    Option.bind_some] at h
  simp only [ofUnindented?, List.takeWhile_append_of_pos hmarks,
    List.dropWhile_append_of_pos hmarks] at h
  -- The language begins with a backtick: else it would be left behind the marks with the one it holds.
  cases language with
  | nil => cases hl
  | cons c language =>
      by_cases hc : c = '\x60'
      · subst hc
        split at h
        · cases h
        split at h
        · cases h
        split at h
        · cases h
        cases h
        refine ⟨rfl, ?_⟩
        have htake : ('\x60' :: language ++ eol).takeWhile (· == '\x60') =
            '\x60' :: (language ++ eol).takeWhile (· == '\x60') := List.takeWhile_cons_of_pos (by simp)
        simp only [hn, htake, List.length_append, List.length_replicate, List.length_cons]
        omega
      · have hdrop : (c :: language ++ eol).dropWhile (· == '\x60') = c :: language ++ eol :=
          List.dropWhile_cons_of_neg (by simpa using hc)
        have hmem : '\x60' ∈ c :: language ++ eol := List.mem_append_left eol hl
        rw [hdrop] at h
        split at h
        · cases h
        split at h
        · cases h
        rw [if_pos ⟨trivial, hmem⟩] at h
        cases h

end Transclude.Fence
