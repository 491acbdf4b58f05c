import Mathlib.Data.List.Basic
import Transclude.Cli.Paint
import Transclude.Proofs.Text.Lines

/-!
# What painted text shows

A diff is written in spans, each painted in one way: its lines up to a line feed, by how they begin. What it
shows are characters, each in one way. From within a line on the rest of the line is shown in the same way
(`shownIn`), so that a diff can be followed piece by piece.
-/

namespace Transclude

namespace Paint

/-! ## What is shown -/

/-- Text in one way to show it, or plain. -/
structure Span where
  paint? : Option Paint
  text : Text
  deriving DecidableEq, Repr

/-- The span as it is written. -/
def Span.written (span : Span) : Text :=
  match span.paint? with
  | some paint => paint.apply true span.text
  | none => span.text

/-- The characters of the span, each with the way in which it is shown. -/
def Span.shown (span : Span) : List (Char × Option Paint) := span.text.map (·, span.paint?)

/-- The spans that a diff is written in: its lines. -/
def spans (t : Text) : List Span := (Text.lines t).map fun line => ⟨ofDiffLine? line, line⟩

theorem diff_true_eq (t : Text) : diff true t = (spans t).flatMap Span.written := by
  simp only [diff, spans, List.flatMap_map]
  rfl

/-- What a written diff shows. -/
def shown (t : Text) : List (Char × Option Paint) := (spans t).flatMap Span.shown

/-- What a written diff shows from within a line on, that is shown in the given way. -/
def shownIn (paint? : Option Paint) : Text → List (Char × Option Paint)
  | [] => []
  | c :: t => (c, paint?) :: if c = '\n' then shown t else shownIn paint? t

variable {paint? : Option Paint} {front : Text}

theorem shownIn_append (h : '\n' ∉ front) (t : Text) :
    shownIn paint? (front ++ t) = front.map (·, paint?) ++ shownIn paint? t := by
  induction front with
  | nil => rfl
  | cons c front ih =>
      rw [List.mem_cons, not_or] at h
      simp [shownIn, Ne.symm h.1, ih h.2]

theorem shownIn_append_of_isFull {line : Text} (h : Text.IsFull line) (t : Text) :
    shownIn paint? (line ++ t) = line.map (·, paint?) ++ shown t := by
  obtain ⟨front, hfront, rfl⟩ := h
  simp [shownIn_append hfront, shownIn]

/-- What is shown tells in which way. -/
theorem shownIn_eq_iff (paint? paint?' : Option Paint) (h : front ≠ []) (t : Text)
    (s : List (Char × Option Paint)) :
    shownIn paint? (front ++ t) = front.map (·, paint?') ++ s ↔
      paint? = paint?' ∧ shownIn paint?' (front ++ t) = front.map (·, paint?') ++ s := by
  constructor
  · intro he
    have hp : paint? = paint?' := by
      obtain ⟨c, rest, rfl⟩ := List.exists_cons_of_ne_nil h
      exact (Prod.mk.inj (List.cons.inj he).1).2
    exact ⟨hp, hp ▸ he⟩
  · rintro ⟨rfl, he⟩
    exact he

/-! ## How lines begin -/

theorem isPrefix_append_cons_iff {start : Text} {c : Char} (h : c ∉ start) (t : Text) :
    start <+: front ++ c :: t ↔ start <+: front := by
  induction start generalizing front with
  | nil => simp
  | cons d start ih =>
      rw [List.mem_cons, not_or] at h
      cases front with
      | nil => simp [List.cons_prefix_cons, Ne.symm h.1]
      | cons e front => simp [List.cons_prefix_cons, ih h.2]

/-- A line is painted like a name first, then like the heading of a hunk, and then by its mark. -/
theorem ofDiffLine?_eq (t : Text) :
    ofDiffLine? t =
      if "+++".toList <+: t ∨ "---".toList <+: t then some .bold
      else if "@@".toList <+: t then some .cyan
      else if "+".toList <+: t then some .green
      else if "-".toList <+: t then some .red
      else none := by
  fun_cases ofDiffLine? t with
  | case1 => simp
  | case2 => simp
  | case3 => simp
  | case4 t h =>
      have hplus : ¬"++".toList <+: t := by
        rintro ⟨rest, rfl⟩
        exact h _ rfl
      simp_all
  | case5 t h =>
      have hdash : ¬"--".toList <+: t := by
        rintro ⟨rest, rfl⟩
        exact h _ rfl
      simp_all
  | case6 t _ _ hat hplus hdash =>
      have hmark : ∀ c start, (∀ tail, t ≠ c :: tail) → ¬(c :: start <+: t) := by
        rintro c start hc ⟨rest, rfl⟩
        exact hc _ rfl
      have hhunk : ¬['@', '@'] <+: t := by
        rintro ⟨rest, rfl⟩
        exact hat _ rfl
      simp [hmark _ _ hplus, hmark _ _ hdash, hhunk]

theorem ofDiffLine?_eq_bold_iff (t : Text) :
    ofDiffLine? t = some .bold ↔ "+++".toList <+: t ∨ "---".toList <+: t := by
  rw [ofDiffLine?_eq]
  split
  · next h => exact iff_of_true rfl h
  · next h =>
    refine iff_of_false ?_ h
    split_ifs <;> simp

/-- How a line begins does not depend on what follows the first line feed or carriage return. -/
theorem ofDiffLine?_append_cons {c : Char} (h : c = '\n' ∨ c = '\r') (front t : Text) :
    ofDiffLine? (front ++ c :: t) = ofDiffLine? front := by
  have hstart : ∀ start ∈ ["+++", "---", "@@", "+", "-"],
      start.toList <+: front ++ c :: t ↔ start.toList <+: front := by
    intro start hs
    refine isPrefix_append_cons_iff ?_ t
    revert start
    rcases h with rfl | rfl <;> decide
  simp only [ofDiffLine?_eq, hstart, List.mem_cons, true_or, or_true]

/-- A diff is shown from its start as from within a line that begins as the diff does. -/
theorem shown_eq_shownIn (t : Text) : shown t = shownIn (ofDiffLine? t) t := by
  by_cases h : '\n' ∈ t
  · obtain ⟨front, rest, rfl, hfront⟩ := List.eq_append_cons_of_mem h
    simp [shown, spans, Text.lines_append hfront, ofDiffLine?_append_cons, shownIn_append hfront, shownIn,
      Span.shown]
  · by_cases hnil : t = []
    · subst hnil
      rfl
    · have hplain := @shownIn_append (ofDiffLine? t) t h []
      simp only [List.append_nil] at hplain
      simp [shown, spans, Text.lines_of_not_mem hnil h, hplain, shownIn, Span.shown]

end Paint

end Transclude
