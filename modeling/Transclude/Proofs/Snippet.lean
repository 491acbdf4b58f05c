import Transclude.Proofs.Text.Crlf
import Transclude.Snippet

/-!
# Snippets are least slices

The lines that a selection takes from a content run from the least index of a line that its start matches
to the least later index of one that its end matches (`Selects`), and a selection fails just where there
is no such line (`extract_eq_iff_selects`). So a snippet is a run of lines of the content, and it does not
depend on lines above it that its start does not match (`extract_least`). A line is matched without its
ending; a carriage return at the end of a last line without a line feed is left out as well.
-/

namespace Transclude

section Matching

variable {i j k : Nat}

theorem throughFirst?_eq_map_findIdx? {α : Type} (p : α → Bool) (list : List α) :
    throughFirst? p list =
      (list.findIdx? p).map fun k => (list.take (k + 1), list.drop (k + 1)) := by
  induction list with
  | nil => rfl
  | cons a list ih =>
      cases ha : p a with
      | true => simp [throughFirst?, List.findIdx?_cons, ha]
      | false => simp [throughFirst?, List.findIdx?_cons, ha, ih, Function.comp_def]

theorem drop_take_eq_cons {α : Type} {list : List α} {a : α} (h : list.drop i = a :: list.drop (i + 1))
    (hj : i < j) : (list.take (j + 1)).drop i = a :: (list.take (j + 1)).drop (i + 1) := by
  have htake : j + 1 - i = (j + 1 - (i + 1)) + 1 := by omega
  rw [List.drop_take, List.drop_take, h, htake, List.take_succ_cons]

variable [Matcher] {lines : List Text} {pattern : Pattern} {start : Nat}

namespace Pattern

/-! ## What a line is matched on -/

theorem matchesLine_append_crlf (pattern : Pattern) (front : Text) :
    pattern.matchesLine (front ++ ['\r', '\n']) = pattern.isMatch front := by
  rw [matchesLine, Text.stripLineEnding_append_crlf]

theorem matchesLine_append_newline (pattern : Pattern) {front : Text}
    (hcr : front.getLast? ≠ some '\r') :
    pattern.matchesLine (front ++ ['\n']) = pattern.isMatch front := by
  rw [matchesLine, Text.stripLineEnding_append_newline hcr]

theorem matchesLine_of_not_mem (pattern : Pattern) {front : Text} (hlf : '\n' ∉ front)
    (hcr : front.getLast? ≠ some '\r') : pattern.matchesLine front = pattern.isMatch front := by
  have hlast : front.getLast? ≠ some '\n' := fun hn => hlf (List.mem_of_getLast? hn)
  simp [matchesLine, Text.stripLineEnding, hlast, hcr]

theorem matchesLine_append_return (pattern : Pattern) (front : Text) :
    pattern.matchesLine (front ++ ['\r']) = pattern.isMatch front := by
  simp [matchesLine, Text.stripLineEnding]

/-! ## The first line that a pattern matches -/

/-- The least index from `start` on of a line that the pattern matches. -/
structure FirstFrom (pattern : Pattern) (lines : List Text) (start i : Nat) : Prop where
  le : start ≤ i
  lt : i < lines.length
  matchesLine : pattern.matchesLine lines[i] = true
  least : ∀ j, start ≤ j → (h : j < i) → pattern.matchesLine lines[j] = false

theorem firstFrom_add_iff :
    pattern.FirstFrom lines start (start + k) ↔
      (lines.drop start).findIdx? pattern.matchesLine = some k := by
  rw [List.findIdx?_eq_some_iff_getElem]
  constructor
  · rintro ⟨-, hlt, hmatch, hleast⟩
    refine ⟨by rw [List.length_drop]; omega, by simpa using hmatch, fun j hj => ?_⟩
    simpa using hleast (start + j) (by omega) (by omega)
  · rintro ⟨hlt, hmatch, hleast⟩
    rw [List.length_drop] at hlt
    refine ⟨by omega, by omega, by simpa using hmatch, fun j hs hj => ?_⟩
    obtain ⟨d, rfl⟩ := Nat.exists_eq_add_of_le hs
    simpa using hleast d (by omega)

theorem FirstFrom.unique (hi : pattern.FirstFrom lines start i) (hj : pattern.FirstFrom lines start j) :
    i = j := by
  rcases Nat.lt_trichotomy i j with h | h | h
  · exact absurd (hi.matchesLine.symm.trans (hj.least i hi.le h)) (by decide)
  · exact h
  · exact absurd (hj.matchesLine.symm.trans (hi.least j hj.le h)) (by decide)

theorem FirstFrom.not_forall (h : pattern.FirstFrom lines start i) :
    ¬ ∀ line ∈ lines.drop start, pattern.matchesLine line = false := by
  intro hall
  obtain ⟨d, rfl⟩ := Nat.exists_eq_add_of_le h.le
  obtain ⟨hlt, hmatch, -⟩ := List.findIdx?_eq_some_iff_getElem.mp (firstFrom_add_iff.mp h)
  exact absurd (hmatch.symm.trans (hall _ (List.getElem_mem hlt))) (by decide)

theorem FirstFrom.drop_eq (h : pattern.FirstFrom lines start i) :
    ∃ line, lines[i]? = some line ∧ lines.drop i = line :: lines.drop (i + 1) := by
  have hlt := h.lt
  exact ⟨lines[i], List.getElem?_eq_getElem hlt, List.drop_eq_getElem_cons hlt⟩

theorem fromFirst_cases (pattern : Pattern) (lines : List Text) :
    (pattern.fromFirst lines = [] ∧ ∀ line ∈ lines, pattern.matchesLine line = false) ∨
      ∃ i, pattern.FirstFrom lines 0 i ∧ pattern.fromFirst lines = lines.drop i := by
  have hdrop : pattern.fromFirst lines = lines.drop (lines.findIdx pattern.matchesLine) := by
    simp [fromFirst, List.dropWhile_eq_drop_findIdx_not]
  cases hfind : lines.findIdx? pattern.matchesLine with
  | none =>
      have hall := List.findIdx?_eq_none_iff.mp hfind
      exact Or.inl ⟨List.dropWhile_eq_nil_iff.mpr (by simpa using hall), by simpa using hall⟩
  | some i =>
      have hi := (List.findIdx?_eq_some_iff_findIdx_eq.mp hfind).2
      have hfirst : pattern.FirstFrom lines 0 (0 + i) := firstFrom_add_iff.mpr hfind
      exact Or.inr ⟨i, by simpa using hfirst, by rw [hdrop, hi]⟩

theorem throughFirst?_cases (pattern : Pattern) (lines : List Text) (start : Nat) :
    (throughFirst? pattern.matchesLine (lines.drop start) = none ∧
        ∀ line ∈ lines.drop start, pattern.matchesLine line = false) ∨
      ∃ j, pattern.FirstFrom lines start j ∧
        throughFirst? pattern.matchesLine (lines.drop start) =
          some ((lines.take (j + 1)).drop start, lines.drop (j + 1)) := by
  rw [throughFirst?_eq_map_findIdx?]
  cases hfind : (lines.drop start).findIdx? pattern.matchesLine with
  | none => exact Or.inl ⟨rfl, List.findIdx?_eq_none_iff.mp hfind⟩
  | some k =>
      refine Or.inr ⟨start + k, firstFrom_add_iff.mpr hfind, ?_⟩
      simp [List.drop_take, Nat.add_assoc]

theorem fromFirst_append {above : List Text} (h : ∀ line ∈ above, pattern.matchesLine line = false)
    (lines : List Text) : pattern.fromFirst (above ++ lines) = pattern.fromFirst lines :=
  List.dropWhile_append_of_pos (by simpa using h)

end Pattern

/-! ## Selections -/

/-- The pattern that the first line of a selection matches. -/
def Selection.start? : Selection → Option Pattern
  | .whole => none
  | .line pattern => some pattern
  | .range start _ => some start

/-- What a selection takes from lines, or why it takes nothing. -/
inductive Selects (lines : List Text) : Selection → Except Cause (List Text) → Prop
  | whole : Selects lines .whole (.ok lines)
  | line {pattern : Pattern} {i : Nat} {line : Text} (hfirst : pattern.FirstFrom lines 0 i)
      (hline : lines[i]? = some line) : Selects lines (.line pattern) (.ok [line])
  | rest {start : Pattern} {i : Nat} (hfirst : start.FirstFrom lines 0 i) :
      Selects lines (.range start .endOfContent) (.ok (lines.drop i))
  | through {start stop : Pattern} {i j : Nat} (hfirst : start.FirstFrom lines 0 i)
      (hlast : stop.FirstFrom lines (i + 1) j) :
      Selects lines (.range start (.through stop)) (.ok ((lines.take (j + 1)).drop i))
  | noStart {selection : Selection} {start : Pattern} (hstart : selection.start? = some start)
      (hnone : ∀ line ∈ lines, start.matchesLine line = false) :
      Selects lines selection (.error (.noMatch start.literal .start))
  | noStop {start stop : Pattern} {i : Nat} (hfirst : start.FirstFrom lines 0 i)
      (hnone : ∀ line ∈ lines.drop (i + 1), stop.matchesLine line = false) :
      Selects lines (.range start (.through stop)) (.error (.noMatch stop.literal .stop))

namespace Selects

variable {selection : Selection} {result : Except Cause (List Text)} {taken : List Text}

theorem infix_of_ok (h : Selects lines selection (.ok taken)) : taken <:+: lines := by
  cases h with
  | whole => exact List.infix_rfl
  | @line pattern i line hfirst hline =>
      obtain ⟨line', hline', hdrop⟩ := hfirst.drop_eq
      obtain rfl : line' = line := Option.some.inj (hline'.symm.trans hline)
      refine ⟨lines.take i, lines.drop (i + 1), ?_⟩
      rw [List.append_assoc, List.singleton_append, ← hdrop, List.take_append_drop]
  | rest hfirst => exact (List.drop_suffix _ _).isInfix
  | through hfirst hlast => exact (List.drop_suffix _ _).isInfix.trans (List.take_prefix _ _).isInfix

theorem eq_of_noStart {start : Pattern} (hstart : selection.start? = some start)
    (hnone : ∀ line ∈ lines, start.matchesLine line = false) (h : Selects lines selection result) :
    result = .error (.noMatch start.literal .start) := by
  cases h with
  | whole => cases hstart
  | line hfirst => cases hstart; exact absurd hnone hfirst.not_forall
  | rest hfirst => cases hstart; exact absurd hnone hfirst.not_forall
  | through hfirst _ => cases hstart; exact absurd hnone hfirst.not_forall
  | noStart hstart' _ => cases hstart.symm.trans hstart'; rfl
  | noStop hfirst _ => cases hstart; exact absurd hnone hfirst.not_forall

theorem unique {result' : Except Cause (List Text)} (h : Selects lines selection result)
    (h' : Selects lines selection result') : result = result' := by
  cases h with
  | whole =>
      cases h' with
      | whole => rfl
      | noStart hstart _ => cases hstart
  | line hfirst hline =>
      cases h' with
      | line hfirst' hline' =>
          cases hfirst.unique hfirst'
          cases hline.symm.trans hline'
          rfl
      | noStart hstart hnone => cases hstart; exact absurd hnone hfirst.not_forall
  | rest hfirst =>
      cases h' with
      | rest hfirst' => cases hfirst.unique hfirst'; rfl
      | noStart hstart hnone => cases hstart; exact absurd hnone hfirst.not_forall
  | through hfirst hlast =>
      cases h' with
      | through hfirst' hlast' =>
          cases hfirst.unique hfirst'
          cases hlast.unique hlast'
          rfl
      | noStart hstart hnone => cases hstart; exact absurd hnone hfirst.not_forall
      | noStop hfirst' hnone =>
          cases hfirst.unique hfirst'
          exact absurd hnone hlast.not_forall
  | noStart hstart hnone => exact (eq_of_noStart hstart hnone h').symm
  | noStop hfirst hnone =>
      cases h' with
      | through hfirst' hlast =>
          cases hfirst.unique hfirst'
          exact absurd hnone hlast.not_forall
      | noStart hstart hnone' => cases hstart; exact absurd hnone' hfirst.not_forall
      | noStop hfirst' _ => rfl

end Selects

namespace Selection

variable {selection : Selection} {content : Text} {result : Except Cause (List Text)}
  {taken : List Text}

theorem selects_extract (selection : Selection) (content : Text) :
    Selects (Text.lines content) selection (selection.extract content) := by
  cases selection with
  | whole => exact .whole
  | line pattern =>
      rcases pattern.fromFirst_cases (Text.lines content) with ⟨hfrom, hnone⟩ | ⟨i, hfirst, hfrom⟩
      · simp only [extract, hfrom]
        exact .noStart rfl hnone
      · obtain ⟨line, hline, hdrop⟩ := hfirst.drop_eq
        simp only [extract, hfrom, hdrop]
        exact .line hfirst hline
  | range start stop =>
      rcases start.fromFirst_cases (Text.lines content) with ⟨hfrom, hnone⟩ | ⟨i, hfirst, hfrom⟩
      · simp only [extract, hfrom]
        exact .noStart rfl hnone
      · obtain ⟨line, -, hdrop⟩ := hfirst.drop_eq
        cases stop with
        | endOfContent =>
            simp only [extract, hfrom, hdrop]
            exact hdrop ▸ .rest hfirst
        | through stop =>
            simp only [extract, hfrom, hdrop]
            rcases stop.throughFirst?_cases (Text.lines content) (i + 1) with
              ⟨hthrough, hnone⟩ | ⟨j, hlast, hthrough⟩
            · simp only [hthrough]
              exact .noStop hfirst hnone
            · simp only [hthrough]
              exact drop_take_eq_cons hdrop hlast.le ▸ .through hfirst hlast

theorem extract_eq_iff_selects :
    selection.extract content = result ↔ Selects (Text.lines content) selection result :=
  ⟨fun h => h ▸ selects_extract selection content, fun h => (selects_extract selection content).unique h⟩

theorem infix_of_extract (h : selection.extract content = .ok taken) : taken <:+: Text.lines content :=
  (extract_eq_iff_selects.mp h).infix_of_ok

/-- Only a pattern that no line matches keeps a selection from its lines. -/
theorem exists_of_extract_eq_error {cause : Cause} (h : selection.extract content = .error cause) :
    ∃ literal boundary, cause = .noMatch literal boundary := by
  have hselects := extract_eq_iff_selects.mp h
  cases hselects with
  | noStart => exact ⟨_, _, rfl⟩
  | noStop => exact ⟨_, _, rfl⟩

theorem exists_of_extract_range {start : Pattern} {stop : RangeEnd}
    (h : (Selection.range start stop).extract content = .ok taken) :
    ∃ line rest, (Selection.line start).extract content = .ok [line] ∧
      (Selection.range start .endOfContent).extract content = .ok (line :: rest) ∧
      taken.head? = some line ∧ taken <+: line :: rest := by
  simp only [extract_eq_iff_selects] at h ⊢
  cases h with
  | rest hfirst =>
      obtain ⟨line, hline, hdrop⟩ := hfirst.drop_eq
      have hrest := Selects.rest hfirst
      rw [hdrop] at hrest ⊢
      exact ⟨line, _, .line hfirst hline, hrest, rfl, List.prefix_rfl⟩
  | @through _ _ i j hfirst hlast =>
      obtain ⟨line, hline, hdrop⟩ := hfirst.drop_eq
      have hcons := drop_take_eq_cons hdrop hlast.le
      have hrest := Selects.rest hfirst
      rw [hdrop] at hrest
      refine ⟨line, _, .line hfirst hline, hrest, by rw [hcons]; rfl, ?_⟩
      rw [← hdrop, List.drop_take]
      exact List.take_prefix _ _

theorem extract_append {start : Pattern} {above : List Text} (hstart : selection.start? = some start)
    (habove : ∀ line ∈ above, Text.IsFull line ∧ start.matchesLine line = false) (content : Text) :
    selection.extract (above.flatten ++ content) = selection.extract content := by
  have hlines : Text.lines (above.flatten ++ content) = above ++ Text.lines content := by
    have hlined := Text.Lined.append (fun line hm => (habove line hm).1) (Text.lined_lines content)
    rw [← Text.lines_flatten hlined, List.flatten_append, Text.flatten_lines]
  have hfrom := Pattern.fromFirst_append (fun line hm => (habove line hm).2) (Text.lines content)
  cases selection with
  | whole => cases hstart
  | line pattern => cases hstart; simp only [extract, hlines, hfrom]
  | range start stop => cases hstart; simp only [extract, hlines, hfrom]

/-- A selection takes the least slice of the content that it asks for, and fails just where there is none.
Lines are matched without their endings, and without a carriage return at the end of the last one. So a
selection takes a run of the content's lines, a range begins with the line that its start alone takes and
is cut from the range to the end of the content, and lines above that its start does not match change
nothing. -/
theorem extract_least (content : Text) :
    (Text.lines content).flatten = content ∧ Text.Lined (Text.lines content) ∧
      (∀ (pattern : Pattern) (front : Text),
        pattern.matchesLine (front ++ ['\r', '\n']) = pattern.isMatch front ∧
        (front.getLast? ≠ some '\r' →
          pattern.matchesLine (front ++ ['\n']) = pattern.isMatch front) ∧
        ('\n' ∉ front → front.getLast? ≠ some '\r' →
          pattern.matchesLine front = pattern.isMatch front) ∧
        pattern.matchesLine (front ++ ['\r']) = pattern.isMatch front) ∧
      (∀ (selection : Selection) result,
        selection.extract content = result ↔ Selects (Text.lines content) selection result) ∧
      (∀ (selection : Selection) taken,
        selection.extract content = .ok taken → taken <:+: Text.lines content) ∧
      (∀ start stop taken, (Selection.range start stop).extract content = .ok taken →
        ∃ line rest, (Selection.line start).extract content = .ok [line] ∧
          (Selection.range start .endOfContent).extract content = .ok (line :: rest) ∧
          taken.head? = some line ∧ taken <+: line :: rest) ∧
      ∀ (selection : Selection) start (above : List Text), selection.start? = some start →
        (∀ line ∈ above, Text.IsFull line ∧ start.matchesLine line = false) →
        selection.extract (above.flatten ++ content) = selection.extract content :=
  ⟨Text.flatten_lines content, Text.lined_lines content,
    fun pattern front => ⟨pattern.matchesLine_append_crlf front, pattern.matchesLine_append_newline,
      pattern.matchesLine_of_not_mem, pattern.matchesLine_append_return front⟩,
    fun _ _ => extract_eq_iff_selects,
    fun _ _ => infix_of_extract, fun _ _ _ => exists_of_extract_range,
    fun _ _ _ hstart habove => extract_append hstart habove content⟩

end Selection

end Matching

/-- A carriage return before that of an ending is matched, but one that ends the content is not. -/
theorem Selection.extract_least_return :
    let content := "y\r\r\nz\r".toList
    ∃ p : Pattern, Pattern.ofLiteral? "\\r".toList = some p ∧
      (p.isMatch ['x'] = false ∧ p.isMatch ['y', '\r'] = true ∧ p.isMatch ['z', '\r'] = true) ∧
      (p.matchesLine ['x', '\n'] = false ∧ p.matchesLine ['x'] = false ∧
        p.matchesLine "y\r\r\n".toList = true ∧ p.matchesLine ['z', '\r'] = false) ∧
      (Selection.line p).extract ['z', '\r'] = .error (.noMatch "\\r".toList .start) ∧
      (Selection.range p .endOfContent).extract content = .ok (Text.lines content) ∧
      (∃ line rest, (Selection.line p).extract content = .ok [line] ∧
        Text.lines content = line :: rest) ∧
      (Selection.line p).extract ("x\n".toList ++ content) = (Selection.line p).extract content := by
  intro content
  have hmatches : (Pattern.ofLiteral? "\\r".toList).map (fun p =>
      (p.isMatch ['x'], p.isMatch ['y', '\r'], p.isMatch ['z'], p.isMatch ['z', '\r'])) =
      some (false, true, false, true) := by decide +kernel
  obtain ⟨p, hp, he⟩ := Option.map_eq_some_iff.mp hmatches
  obtain ⟨hx, hy, hz, hzr⟩ : p.isMatch ['x'] = false ∧ p.isMatch ['y', '\r'] = true ∧
      p.isMatch ['z'] = false ∧ p.isMatch ['z', '\r'] = true := by simpa using he
  obtain ⟨-, -, hline, hselects, -, hrange, habove⟩ := extract_least content
  have hxline : p.matchesLine ['x', '\n'] = false := ((hline p ['x']).2.1 (by decide)).trans hx
  have hyline : p.matchesLine "y\r\r\n".toList = true := (hline p ['y', '\r']).1.trans hy
  have hzline : p.matchesLine ['z', '\r'] = false := (hline p ['z']).2.2.2.trans hz
  have hliteral : "\\r".toList = p.literal := (Pattern.literal_of_ofLiteral? hp).symm
  have hrest : (Selection.range p .endOfContent).extract content = .ok (Text.lines content) :=
    (hselects (.range p .endOfContent) _).mpr <| .rest (i := 0)
      ⟨Nat.le_refl 0, by decide, hyline, fun j _ hj => absurd hj (Nat.not_lt_zero j)⟩
  have hlast : Text.lines ['z', '\r'] = [['z', '\r']] := by decide
  have hnone : (Selection.line p).extract ['z', '\r'] = .error (.noMatch p.literal .start) :=
    ((extract_least ['z', '\r']).2.2.2.1 (.line p) _).mpr
      (.noStart rfl (hlast ▸ List.forall_mem_singleton.mpr hzline))
  obtain ⟨line, rest, hfirst, hwhole, -, -⟩ := hrange p .endOfContent _ hrest
  refine ⟨p, hp, ⟨hx, hy, hzr⟩, ⟨hxline, ((hline p ['x']).2.2.1 (by decide) (by decide)).trans hx, hyline,
    hzline⟩, hliteral ▸ hnone, hrest, ⟨line, rest, hfirst, Except.ok.inj (hrest.symm.trans hwhole)⟩, ?_⟩
  exact habove (.line p) p [['x', '\n']] rfl (by
    simpa using ⟨Text.IsFull.append_eol (t := ['x']) (by decide) (Or.inl rfl), hxline⟩)

end Transclude
