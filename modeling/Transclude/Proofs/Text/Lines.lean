import Mathlib.Data.List.Basic
import Mathlib.Data.List.TakeWhile
import Transclude.Text.Basic

/-!
# Trimmed texts and whole lines

A line ending is blank, so what is read off a trimmed line does not depend on it. A list of lines that
are all whole, the last one perhaps without its line feed, is what the text made of them splits into
(`lines_flatten`).
-/

namespace Transclude.Text

/-! ## Line endings -/

/-- A line feed, alone or behind a carriage return. -/
def IsEol (eol : Text) : Prop := eol = ['\n'] ∨ eol = ['\r', '\n']

theorem IsEol.isBlank {eol : Text} (h : IsEol eol) : ∀ c ∈ eol, isBlank c = true := by
  rcases h with rfl | rfl <;> simp [Text.isBlank]

theorem IsEol.exists_eq {eol : Text} (h : IsEol eol) : ∃ front, '\n' ∉ front ∧ eol = front ++ ['\n'] := by
  rcases h with rfl | rfl
  · exact ⟨[], by simp, rfl⟩
  · exact ⟨['\r'], by simp, rfl⟩

theorem IsEol.endsLine_append {eol : Text} (h : IsEol eol) (t : Text) : endsLine (t ++ eol) = true := by
  rcases h with rfl | rfl <;> simp [endsLine]

theorem isEol_lineEnding (line : Text) : IsEol (lineEnding line) := by
  unfold lineEnding
  split
  · exact Or.inr rfl
  · exact Or.inl rfl

/-! ## Trimming -/

theorem trimEnd_append_of_blank {t b : Text} (hb : ∀ c ∈ b, isBlank c = true) :
    trimEnd (t ++ b) = trimEnd t := by
  unfold trimEnd
  rw [List.reverse_append, List.dropWhile_append_of_pos (by simpa using hb)]

theorem trim_append_of_blank {t b : Text} (hb : ∀ c ∈ b, isBlank c = true) :
    trim (t ++ b) = trim t := by
  unfold trim trimStart
  rw [List.dropWhile_append]
  split
  · next h =>
      have hd : b.dropWhile isBlank = [] := List.dropWhile_eq_nil_iff.mpr hb
      rw [hd, List.isEmpty_iff.mp h]
  · exact trimEnd_append_of_blank hb

theorem trimStart_append_cons {a : Char} (ha : isBlank a = false) (s t : Text) :
    trimStart (s ++ a :: t) = trimStart s ++ a :: t := by
  unfold trimStart
  rw [List.dropWhile_append]
  split
  · next h => rw [List.isEmpty_iff.mp h, List.dropWhile_cons_of_neg (by simp [ha]), List.nil_append]
  · rfl

theorem trimStart_blanks_append {blanks : Text} (h : ∀ c ∈ blanks, isBlank c = true) {a : Char}
    (ha : isBlank a = false) (t : Text) : trimStart (blanks ++ a :: t) = a :: t := by
  have hblanks : trimStart blanks = [] := List.dropWhile_eq_nil_iff.mpr h
  rw [trimStart_append_cons ha, hblanks, List.nil_append]

theorem trimEnd_append_cons {z : Char} (hz : isBlank z = false) (s t : Text) :
    trimEnd (s ++ z :: t) = s ++ z :: trimEnd t := by
  have h := trimStart_append_cons hz t.reverse s.reverse
  unfold trimStart at h
  unfold trimEnd
  rw [List.reverse_append, List.reverse_cons, List.append_assoc, List.singleton_append, h]
  simp

theorem trim_of_ends {a z : Char} {t : Text} (ha : isBlank a = false) (hz : isBlank z = false) :
    trim (a :: (t ++ [z])) = a :: (t ++ [z]) := by
  have hs : trimStart (a :: (t ++ [z])) = a :: (t ++ [z]) :=
    trimStart_append_cons ha [] (t ++ [z])
  unfold trim
  rw [hs]
  exact trimEnd_append_cons hz (a :: t) []

theorem isPrefix_trimEnd (t : Text) : trimEnd t <+: t := by
  rw [← List.reverse_suffix, trimEnd, List.reverse_reverse]
  exact List.dropWhile_suffix _

theorem isInfix_trim (t : Text) : trim t <:+: t :=
  (isPrefix_trimEnd _).isInfix.trans (List.dropWhile_suffix _).isInfix

/-! ## What is read off a line -/

/-- What `f` gives for a line does not depend on the line's ending. -/
def IgnoresEnding {α : Type} (f : Text → α) : Prop := ∀ eol, IsEol eol → ∀ t, f (t ++ eol) = f t

theorem IgnoresEnding.completeLine {α : Type} {f : Text → α} (hf : IgnoresEnding f) {eol : Text}
    (he : IsEol eol) (line : Text) : f (completeLine eol line) = f line := by
  unfold Text.completeLine
  split
  · rfl
  · exact hf eol he line

theorem ignoresEnding_trim : IgnoresEnding trim := fun _ he _ => trim_append_of_blank he.isBlank

/-! ## Whole lines -/

/-- A line with a line feed at its end and nowhere else. -/
def IsFull (line : Text) : Prop := ∃ front, '\n' ∉ front ∧ line = front ++ ['\n']

/-- A line with no line feed but perhaps one at its end. -/
def IsLine (line : Text) : Prop := IsFull line ∨ '\n' ∉ line

theorem IsFull.endsLine {line : Text} (h : IsFull line) : endsLine line = true := by
  obtain ⟨front, _, rfl⟩ := h
  simp [Text.endsLine]

theorem IsFull.append_eol {t eol : Text} (ht : '\n' ∉ t) (h : IsEol eol) : IsFull (t ++ eol) := by
  obtain ⟨front, hf, rfl⟩ := h.exists_eq
  exact ⟨t ++ front, by simp [ht, hf], by simp⟩

theorem endsLine_eq_false {line : Text} (h : '\n' ∉ line) : endsLine line = false := by
  have hn : line.getLast? ≠ some '\n' := fun e => h (List.mem_of_getLast? e)
  simpa [endsLine] using hn

theorem IsLine.completeLine {eol line : Text} (he : IsEol eol) (h : IsLine line) :
    IsFull (completeLine eol line) := by
  unfold Text.completeLine
  rcases h with hf | hn
  · rw [if_pos hf.endsLine]; exact hf
  · rw [endsLine_eq_false hn]; exact IsFull.append_eol hn he

theorem completeLine_of_isFull {eol line : Text} (h : IsFull line) : completeLine eol line = line := by
  unfold completeLine
  rw [if_pos h.endsLine]

theorem completeLine_completeLine {eol : Text} (h : IsEol eol) (line : Text) :
    completeLine eol (completeLine eol line) = completeLine eol line := by
  have he : endsLine (completeLine eol line) = true := by
    unfold completeLine
    split
    · assumption
    · exact h.endsLine_append line
  exact if_pos he

theorem lineEnding_of_not_endsLine {line : Text} (h : endsLine line = false) : lineEnding line = ['\n'] := by
  have hcrlf : endsCrlf line = false := by
    rw [Bool.eq_false_iff]
    intro hs
    obtain ⟨front, rfl⟩ := List.isSuffixOf_iff_suffix.mp hs
    simp [endsLine] at h
  simp [lineEnding, hcrlf]

/-- Behind a text that ends with a carriage return, a line feed alone is read as part of another ending. -/
theorem lineEnding_append_iff {eol : Text} (h : IsEol eol) (t : Text) :
    lineEnding (t ++ eol) = eol ↔ eol = ['\r', '\n'] ∨ t.getLast? ≠ some '\r' := by
  have hcrlf : ∀ front, endsCrlf (front ++ ['\r', '\n']) = true := fun front =>
    List.isSuffixOf_iff_suffix.mpr (List.suffix_append front _)
  rcases h with rfl | rfl
  · have hreturn : t.getLast? = some '\r' ↔ endsCrlf (t ++ ['\n']) = true := by
      constructor
      · intro ht
        obtain ⟨front, rfl⟩ := List.getLast?_eq_some_iff.mp ht
        simpa using hcrlf front
      · intro ht
        obtain ⟨front, hf⟩ := List.isSuffixOf_iff_suffix.mp ht
        have : t = front ++ ['\r'] :=
          List.append_cancel_right (show t ++ ['\n'] = (front ++ ['\r']) ++ ['\n'] by simp [← hf])
        simp [this]
    simp [lineEnding, hreturn]
  · simp [lineEnding, hcrlf]

/-- A completed line ends as the line did, unless a carriage return was left at its end. -/
theorem lineEnding_completeLine_iff (line : Text) :
    lineEnding (completeLine (lineEnding line) line) = lineEnding line ↔ line.getLast? ≠ some '\r' := by
  cases he : endsLine line with
  | true =>
      have hlast : line.getLast? = some '\n' := by simpa [endsLine] using he
      simp [completeLine, he, hlast]
  | false =>
      rw [completeLine, if_neg (by simp [he]), lineEnding_append_iff (isEol_lineEnding line),
        lineEnding_of_not_endsLine he]
      simp

/-- The line ends with `eol`, and not just with its line feed. -/
def EndsIn (eol line : Text) : Prop := endsLine line = true ∧ lineEnding line = eol

theorem endsIn_append_iff {eol eol' : Text} (h : IsEol eol) (t : Text) :
    EndsIn eol' (t ++ eol) ↔ lineEnding (t ++ eol) = eol' := by
  simp [EndsIn, h.endsLine_append]

theorem endsIn_append_iff_of_getLast? {eol eol' t : Text} (h : IsEol eol) (ht : t.getLast? ≠ some '\r') :
    EndsIn eol' (t ++ eol) ↔ eol = eol' := by
  rw [endsIn_append_iff h, (lineEnding_append_iff h t).mpr (Or.inr ht)]

/-! ## Lists of lines -/

/-- Lines that are all full, except that the last may lack its line feed. -/
inductive Lined : List Text → Prop
  | nil : Lined []
  | last {line : Text} (hne : line ≠ []) (h : '\n' ∉ line) : Lined [line]
  | cons {line : Text} {rest : List Text} (h : IsFull line) (hr : Lined rest) : Lined (line :: rest)

theorem Lined.append {ls rest : List Text} (h : ∀ line ∈ ls, IsFull line) (hr : Lined rest) :
    Lined (ls ++ rest) := by
  induction ls with
  | nil => exact hr
  | cons line ls ih => exact .cons (h line (by simp)) (ih fun l hl => h l (by simp [hl]))

theorem Lined.tail {line : Text} {rest : List Text} (h : Lined (line :: rest)) : Lined rest := by
  cases h with
  | last _ _ => exact .nil
  | cons _ hr => exact hr

theorem Lined.head_isFull {line : Text} {rest : List Text} (h : Lined (line :: rest))
    (hne : rest ≠ []) : IsFull line := by
  cases h with
  | last _ _ => exact absurd rfl hne
  | cons hf _ => exact hf

theorem Lined.of_append {ls rest : List Text} (h : Lined (ls ++ rest)) : Lined rest := by
  induction ls with
  | nil => exact h
  | cons line ls ih => exact ih h.tail

theorem Lined.isFull_of_ne_nil {ls rest : List Text} (h : Lined (ls ++ rest)) (hne : rest ≠ []) :
    ∀ line ∈ ls, IsFull line := by
  induction ls with
  | nil => simp
  | cons line ls ih =>
      intro l hl
      rcases List.mem_cons.mp hl with rfl | hl
      · exact Lined.head_isFull h (by simp [hne])
      · exact ih h.tail l hl

theorem Lined.isLine {ls : List Text} (h : Lined ls) : ∀ line ∈ ls, IsLine line := by
  induction h with
  | nil => simp
  | last _ hn =>
      intro line hl
      obtain rfl := List.mem_singleton.mp hl
      exact Or.inr hn
  | cons hf _ ih =>
      intro line hl
      rcases List.mem_cons.mp hl with rfl | hl
      · exact Or.inl hf
      · exact ih line hl

/-- The text of lines that are given without their line feeds. -/
def ofLines (lines : List String) : Text := lines.flatMap fun line => line.toList ++ ['\n']

theorem lines_append {front : Text} (h : '\n' ∉ front) (t : Text) :
    lines (front ++ '\n' :: t) = (front ++ ['\n']) :: lines t := by
  induction front with
  | nil => simp [lines]
  | cons c front ih =>
      have hc : c ≠ '\n' := fun e => h (by simp [e])
      simp [lines, hc, ih fun hm => h (List.mem_cons_of_mem _ hm)]

theorem lines_of_not_mem {t : Text} (hne : t ≠ []) (h : '\n' ∉ t) : lines t = [t] := by
  induction t with
  | nil => exact absurd rfl hne
  | cons c t ih =>
      have hc : c ≠ '\n' := fun e => h (by simp [e])
      have ht : '\n' ∉ t := fun hm => h (List.mem_cons_of_mem _ hm)
      cases t with
      | nil => simp [lines, hc]
      | cons d t =>
          rw [lines, if_neg hc, ih (by simp) ht]

theorem lines_flatten {ls : List Text} (h : Lined ls) : lines ls.flatten = ls := by
  induction h with
  | nil => rfl
  | last hne hn => simpa using lines_of_not_mem hne hn
  | cons hf _ ih =>
      obtain ⟨front, hn, rfl⟩ := hf
      rw [List.flatten_cons, List.append_assoc, List.singleton_append, lines_append hn, ih]

theorem IsFull.lines {line : Text} (h : IsFull line) : lines line = [line] := by
  simpa using lines_flatten (.cons h .nil)

theorem lined_lines (t : Text) : Lined (lines t) := by
  induction t with
  | nil => exact .nil
  | cons c t ih =>
      unfold lines
      split
      · next hc => exact .cons ⟨[], by simp, by simp [hc]⟩ ih
      · next hc =>
          split
          · exact .last (by simp) (by simpa using Ne.symm hc)
          · next line more he =>
              rw [he] at ih
              cases ih with
              | last _ hn => exact .last (by simp) (by simp [Ne.symm hc, hn])
              | cons hf hr =>
                  obtain ⟨front, hn, rfl⟩ := hf
                  exact .cons ⟨c :: front, by simp [Ne.symm hc, hn], rfl⟩ hr

theorem isLine_of_mem_lines {t line : Text} (h : line ∈ lines t) : IsLine line :=
  (lined_lines t).isLine line h

theorem endsLine_or_getLast?_of_mem_lines {t line : Text} (h : line ∈ lines t) :
    endsLine line = true ∨ line.getLast? = t.getLast? := by
  obtain ⟨above, below, he⟩ := List.append_of_mem h
  have hl : Lined (above ++ line :: below) := he ▸ lined_lines t
  cases below with
  | nil =>
      right
      have hne : line ≠ [] := ne_nil_of_mem_lines h
      have ht : t = above.flatten ++ line := by
        rw [← flatten_lines t, he]; simp
      rw [ht, List.getLast?_append_of_ne_nil _ hne]
  | cons next below =>
      left
      have hl' : Lined ((above ++ [line]) ++ next :: below) := by simpa using hl
      exact (hl'.isFull_of_ne_nil (by simp) line (by simp)).endsLine

theorem getLast?_ne_return_of_mem_lines {t line : Text} (ht : t.getLast? ≠ some '\r')
    (h : line ∈ lines t) : line.getLast? ≠ some '\r' := by
  rcases endsLine_or_getLast?_of_mem_lines h with he | he
  · have hlast : line.getLast? = some '\n' := by simpa [endsLine] using he
    simp [hlast]
  · exact he ▸ ht

theorem isFull_of_mem_lines {t line : Text} (ht : endsLine t = true) (h : line ∈ lines t) :
    IsFull line := by
  rcases isLine_of_mem_lines h with hf | hn
  · exact hf
  · have he : endsLine line = true := by
      rcases endsLine_or_getLast?_of_mem_lines h with he | he
      · exact he
      · simpa [endsLine, he] using ht
    rw [endsLine_eq_false hn] at he
    cases he

/-- A text splits at a line feed into the lines before it and those after it. -/
theorem lines_append_of_endsLine {s : Text} (hs : endsLine s = true) (t : Text) :
    lines (s ++ t) = lines s ++ lines t := by
  have hl : Lined (lines s ++ lines t) :=
    Lined.append (fun _ h => isFull_of_mem_lines hs h) (lined_lines t)
  have h := lines_flatten hl
  rwa [List.flatten_append, flatten_lines, flatten_lines] at h

end Transclude.Text
