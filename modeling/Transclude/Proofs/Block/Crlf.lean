import Transclude.Proofs.Block.Skip
import Transclude.Proofs.Text.Crlf

/-!
# Blocks and line endings

Fences, directives and the marks of a block are found alike whichever ending the lines have, so a block
is split off lines with carriage returns where it is split off lines without (`split_map_crlf`). The
block that is written with one ending is the block written with the other, line by line
(`render_map_crlf`).
-/

namespace Transclude

open Text (IgnoresEnding IsEol IsLine crlf)

/-! ## Lists up to an element -/

/-- Lists are split in the same place if the same elements satisfy the property. -/
theorem throughFirst?_map {α β : Type} {f : α → β} {p : α → Bool} {q : β → Bool} {list : List α}
    (h : ∀ a ∈ list, q (f a) = p a) :
    throughFirst? q (list.map f) =
      (throughFirst? p list).map (Prod.map (List.map f) (List.map f)) := by
  induction list with
  | nil => rfl
  | cons a rest ih =>
      have ih := ih fun b hb => h b (List.mem_cons_of_mem a hb)
      simp only [List.map_cons, throughFirst?, h a List.mem_cons_self]
      split
      · rfl
      · rw [ih, Option.map_map, Option.map_map]
        rfl

/-! ## Lines -/

namespace Fence

theorem unindent?_append_eol {eol : Text} (he : IsEol eol) (line : Text) :
    unindent? (line ++ eol) = (unindent? line).map (· ++ eol) := by
  unfold unindent?
  rw [he.takeWhile_append (by decide) (by decide), he.dropWhile_append (by decide) (by decide)]
  split <;> rfl

theorem ofUnindented?_append_eol {eol : Text} (he : IsEol eol) (t : Text) :
    ofUnindented? (t ++ eol) = ofUnindented? t := by
  cases t with
  | nil => rcases he with rfl | rfl <;> rfl
  | cons marker rest =>
      rw [List.cons_append, ofUnindented?, ofUnindented?]
      by_cases hm : marker ≠ '\x60' ∧ marker ≠ '~'
      · simp only [if_pos hm]
      have hmarker : marker = '\x60' ∨ marker = '~' := by
        by_contra hne
        exact hm (not_or.mp hne)
      have hn : ('\n' == marker) = false := by rcases hmarker with rfl | rfl <;> rfl
      have hr : ('\r' == marker) = false := by rcases hmarker with rfl | rfl <;> rfl
      have hbacktick : '\x60' ∉ eol := by rcases he with rfl | rfl <;> decide
      rw [he.takeWhile_append hn hr, he.dropWhile_append hn hr]
      simp only [List.mem_append, hbacktick, or_false]

theorem ignoresEnding_ofLine? : IgnoresEnding ofLine? := by
  intro eol he line
  unfold ofLine?
  rw [unindent?_append_eol he, Option.bind_map]
  exact congrArg _ (funext (ofUnindented?_append_eol he))

theorem ignoresEnding_closes (fence : Fence) : IgnoresEnding fence.closes := by
  intro eol he line
  unfold closes
  rw [unindent?_append_eol he]
  cases unindent? line with
  | none => rfl
  | some unindented => simp only [Option.map_some, Text.trimEnd_append_of_blank he.isBlank]

theorem around_map_crlf {lines : List Text} (h : ∀ line ∈ lines, IsLine line) :
    around (lines.map crlf) = around lines := by
  have hsame : lines.map (leadingBackticks ∘ crlf) = lines.map leadingBackticks :=
    List.map_congr_left fun line hl => ignoresEnding_leadingBackticks.crlf (h line hl)
  rw [around, List.map_map, hsame, around]

end Fence

namespace Block

theorem ignoresEnding_isBegin : IgnoresEnding isBegin := fun eol he line => by
  simp only [isBegin, Text.ignoresEnding_trim eol he]

theorem ignoresEnding_isFenced : IgnoresEnding isFenced := fun _ he _ =>
  isFenced_append_of_blank he.isBlank

theorem ignoresEnding_isEndless : IgnoresEnding isEndless := fun _ he _ =>
  isEndless_append_of_blank he.isBlank

/-! ## Removing blocks -/

/-- Lines of a block and what follows them, each with the other ending. -/
def crlfBoth : List Text × List Text → List Text × List Text :=
  Prod.map (List.map crlf) (List.map crlf)

variable {lines : List Text}

theorem splitFence_map_crlf (fence : Fence) (h : ∀ line ∈ lines, IsLine line) :
    splitFence fence (lines.map crlf) = (splitFence fence lines).map crlfBoth := by
  have hsplit := throughFirst?_map fun line hl => fence.ignoresEnding_closes.crlf (h line hl)
  unfold splitFence
  rw [hsplit]
  cases throughFirst? fence.closes lines <;> rfl

theorem splitEnd_map_crlf (h : ∀ line ∈ lines, IsLine line) :
    splitEnd (lines.map crlf) = (splitEnd lines).map crlfBoth := by
  have hsplit := throughFirst?_map fun line hl => ignoresEnding_isEnd.crlf (h line hl)
  unfold splitEnd
  rw [hsplit]
  cases throughFirst? isEnd lines <;> rfl

theorem splitFenceOf_map_crlf {first : Text} (hfirst : IsLine first)
    (h : ∀ line ∈ lines, IsLine line) :
    splitFenceOf (crlf first) (lines.map crlf) = (splitFenceOf first lines).map crlfBoth := by
  cases lines with
  | nil => rfl
  | cons line below =>
      have hfenced : isFenced (crlf first) = isFenced first :=
        ignoresEnding_isFenced.crlf hfirst
      have hopens : Fence.ofLine? (crlf line) = Fence.ofLine? line :=
        Fence.ignoresEnding_ofLine?.crlf (h line List.mem_cons_self)
      have hbelow := fun fence => splitFence_map_crlf fence fun l hl => h l (List.mem_cons_of_mem line hl)
      simp only [List.map_cons, splitFenceOf, hfenced, hopens, hbelow]
      split
      · next fence _ => cases splitFence fence below <;> rfl
      · rfl

theorem splitMarked_map_crlf {first : Text} (hfirst : IsLine first)
    (h : ∀ line ∈ lines, IsLine line) :
    splitMarked (crlf first) (lines.map crlf) = (splitMarked first lines).map crlfBoth := by
  simp only [splitMarked, ignoresEnding_isEndless.crlf hfirst, splitFenceOf_map_crlf hfirst h]
  split
  · rfl
  · cases hf : splitFenceOf first lines with
    | error cause => rfl
    | ok parts =>
        have hrest : ∀ line ∈ parts.2, IsLine line := fun l hl =>
          h l (append_of_splitFenceOf hf ▸ List.mem_append_right parts.1 hl)
        simp only [Except.map, crlfBoth, Prod.map, splitEnd_map_crlf hrest]
        cases splitEnd parts.2 with
        | error cause => rfl
        | ok tail => simp

/-- A block is split off lines with carriage returns where it is split off lines without. -/
theorem split_map_crlf (bare : Bool) (h : ∀ line ∈ lines, IsLine line) :
    split bare (lines.map crlf) = (split bare lines).map crlfBoth := by
  cases lines with
  | nil => rfl
  | cons first below =>
      have hfirst := h first List.mem_cons_self
      have hlines : ∀ line ∈ below, IsLine line := fun l hl => h l (List.mem_cons_of_mem first hl)
      have hbegin : isBegin (crlf first) = isBegin first :=
        ignoresEnding_isBegin.crlf hfirst
      have hopens : Fence.ofLine? (crlf first) = Fence.ofLine? first :=
        Fence.ignoresEnding_ofLine?.crlf hfirst
      simp only [List.map_cons, split, hbegin, hopens, splitMarked_map_crlf hfirst hlines,
        splitFence_map_crlf _ hlines]
      split
      · rfl
      · split
        · next fence _ => cases splitFence fence below <;> rfl
        · rfl

/-! ## Writing blocks -/

variable {directive : Directive} {language : Text}

theorem beginLine_crlf (h : '\n' ∉ directive.text) :
    beginLine directive ['\r', '\n'] = crlf (beginLine directive ['\n']) := by
  have hmark : '\n' ∉ beginMark ++ ' ' :: guardEnds directive.text ++ ' ' :: commentEnd := by
    have hbegin : '\n' ∉ beginMark := by decide
    have hend : '\n' ∉ commentEnd := by decide
    simp [h, hbegin, hend]
  exact (Text.crlf_append_newline hmark).symm

theorem body_map_crlf (hl : '\n' ∉ language) (h : ∀ line ∈ lines, IsLine line) :
    body ⟨lines.map crlf, language⟩ ['\r', '\n'] = (body ⟨lines, language⟩ ['\n']).map crlf := by
  have hlines : (lines.map crlf).map (Text.completeLine ['\r', '\n']) =
      (lines.map (Text.completeLine ['\n'])).map crlf := by
    rw [List.map_map, List.map_map]
    exact List.map_congr_left fun line hm => (h line hm).completeLine_crlf
  have hmarks := Fence.newline_not_mem_marks_around lines
  have hopening : '\n' ∉ (Fence.around lines).marks ++ language := by simp [hmarks, hl]
  unfold body
  simp only [hlines, Fence.around_map_crlf h]
  split
  · rfl
  · simp only [List.map_append, List.map_cons, List.map_nil, Text.crlf_append_newline hopening,
      Text.crlf_append_newline hmarks]

/-- A block with carriage returns is refused where the block without them is, and else it has the lines of
that block. -/
theorem render_map_crlf (h : ∀ line ∈ lines, IsLine line)
    (hplain : ∀ block, render directive ⟨lines, language⟩ ['\n'] = .ok block →
      '\n' ∉ directive.text ∧ '\n' ∉ language) :
    render directive ⟨lines.map crlf, language⟩ ['\r', '\n'] =
      (render directive ⟨lines, language⟩ ['\n']).map (List.map crlf) := by
  have hany : (lines.map crlf).any isEnd = lines.any isEnd := by
    rw [List.any_map, Bool.eq_iff_iff, List.any_eq_true, List.any_eq_true]
    exact ⟨fun ⟨line, hm, he⟩ => ⟨line, hm, (ignoresEnding_isEnd.crlf (h line hm)).symm.trans he⟩,
      fun ⟨line, hm, he⟩ => ⟨line, hm, (ignoresEnding_isEnd.crlf (h line hm)).trans he⟩⟩
  have hendMark : endMark ++ ['\r', '\n'] = crlf (endMark ++ ['\n']) :=
    (Text.crlf_append_newline (by decide)).symm
  unfold render at hplain ⊢
  simp only [hany]
  split
  · rfl
  · next hrefused =>
      rw [if_neg hrefused] at hplain
      obtain ⟨htext, hlanguage⟩ := hplain _ rfl
      simp only [Except.map, beginLine_crlf htext, body_map_crlf hlanguage h, hendMark, List.map_append,
        List.map_cons, List.map_nil]

end Block

end Transclude
