import Mathlib.Data.List.Basic
import Transclude.Diff.Settle
import Transclude.Diff.Shortest

/-!
# What edits make of lines

Shortest edits turn the first list of lines into the second (`turns_editsFrom`), whatever place the search
takes for the middle. Settled edits find and leave the same lines as before (`equivalent_settle`), as each
move of an edit over its neighbour does. So the edits of a diff are right (`turns_settle_shortest`).
-/

namespace Transclude

namespace Edit

/-! ## Lines found and left -/

@[simp] theorem oldLines_nil : oldLines [] = [] := rfl

@[simp] theorem newLines_nil : newLines [] = [] := rfl

theorem oldLines_cons (edit : Edit) (edits : List Edit) :
    oldLines (edit :: edits) = (if edit.kind = .add then [] else edit.lines) ++ oldLines edits := by
  unfold oldLines
  split
  · next h => simp [h]
  · next h => simp [h]

theorem newLines_cons (edit : Edit) (edits : List Edit) :
    newLines (edit :: edits) = (if edit.kind = .remove then [] else edit.lines) ++ newLines edits := by
  unfold newLines
  split
  · next h => simp [h]
  · next h => simp [h]

theorem oldLines_append (edits edits' : List Edit) :
    oldLines (edits ++ edits') = oldLines edits ++ oldLines edits' := by
  simp [oldLines]

theorem newLines_append (edits edits' : List Edit) :
    newLines (edits ++ edits') = newLines edits ++ newLines edits' := by
  simp [newLines]

end Edit

namespace Diff

/-! ## Edits that make the same of the same lines -/

/-- Edits that find the same lines and leave the same lines. -/
structure Equivalent (edits edits' : List Edit) : Prop where
  oldLines : Edit.oldLines edits = Edit.oldLines edits'
  newLines : Edit.newLines edits = Edit.newLines edits'

namespace Equivalent

variable {edits edits' edits'' : List Edit} {first second kept edit : Edit}

theorem refl (edits : List Edit) : Equivalent edits edits := ⟨rfl, rfl⟩

theorem trans (h : Equivalent edits edits') (h' : Equivalent edits' edits'') : Equivalent edits edits'' :=
  ⟨h.1.trans h'.1, h.2.trans h'.2⟩

theorem between (h : Equivalent edits edits') (front back : List Edit) :
    Equivalent (front ++ (edits ++ back)) (front ++ (edits' ++ back)) := by
  constructor
  · simp only [Edit.oldLines_append, h.oldLines]
  · simp only [Edit.newLines_append, h.newLines]

/-- Lines that are removed and lines that are added do not get in each other's way. -/
theorem swap (hf : first.kind ≠ .keep) (hs : second.kind ≠ .keep) (hne : first.kind ≠ second.kind) :
    Equivalent [first, second] [second, first] := by
  cases hfk : first.kind <;> cases hsk : second.kind <;> simp_all
  all_goals exact ⟨by simp [Edit.oldLines_cons, hfk, hsk], by simp [Edit.newLines_cons, hfk, hsk]⟩

theorem merge {kind : EditKind} (hf : first.kind = kind) (hs : second.kind = kind) (old new : Nat) :
    Equivalent [⟨kind, first.lines ++ second.lines, old, new⟩] [first, second] := by
  constructor
  · simp only [Edit.oldLines_cons, hf, hs]
    split <;> simp
  · simp only [Edit.newLines_cons, hf, hs]
    split <;> simp

theorem empty (h : edit.lines = []) : Equivalent [] [edit] := by
  constructor
  · simp [Edit.oldLines_cons, h]
  · simp [Edit.newLines_cons, h]

/-- Added lines that end as the kept ones above them may as well be added further up. -/
theorem slideUp {above added shared : List Text} (hk : kept.kind = .keep) (he : edit.kind = .add)
    (hkept : above ++ shared = kept.lines) (hedit : added ++ shared = edit.lines)
    (old old' old'' new new' new'' : Nat) :
    Equivalent
      [⟨.keep, above, old, new⟩, ⟨.add, shared ++ added, old', new'⟩, ⟨.keep, shared, old'', new''⟩]
      [kept, edit] := by
  constructor
  · simp [Edit.oldLines_cons, hk, he, ← hkept]
  · simp [Edit.newLines_cons, hk, he, ← hkept, ← hedit]

/-- Added lines that begin as the kept ones below them may as well be added further down. -/
theorem slideDown {shared added below : List Text} (he : edit.kind = .add) (hk : kept.kind = .keep)
    (hedit : shared ++ added = edit.lines) (hkept : shared ++ below = kept.lines)
    (old old' old'' new new' new'' : Nat) :
    Equivalent
      [⟨.keep, shared, old, new⟩, ⟨.add, added ++ shared, old', new'⟩, ⟨.keep, below, old'', new''⟩]
      [edit, kept] := by
  constructor
  · simp [Edit.oldLines_cons, hk, he, ← hkept]
  · simp [Edit.newLines_cons, hk, he, ← hkept, ← hedit]

end Equivalent

/-! ## Moves -/

theorem commonSuffix_isSuffix_left [DecidableEq α] (as bs : List α) : commonSuffix as bs <:+ as := by
  rw [← List.reverse_prefix, commonSuffix, List.reverse_reverse]
  exact commonPrefix_isPrefix_left as.reverse bs.reverse

theorem commonSuffix_isSuffix_right [DecidableEq α] (as bs : List α) : commonSuffix as bs <:+ bs := by
  rw [← List.reverse_prefix, commonSuffix, List.reverse_reverse]
  exact commonPrefix_isPrefix_right as.reverse bs.reverse

/-- The edits at a focus, those before it and those after it, in order. -/
def Focus.edits (focus : Focus) : List Edit := focus.before.reverse ++ focus.edit :: focus.after

theorem equivalent_keepBelow (lines : List Text) (old new : Nat) (after : List Edit) :
    Equivalent (keepBelow lines old new after) (⟨.keep, lines, old, new⟩ :: after) := by
  unfold keepBelow
  split
  · next e rest =>
    split
    · next hk =>
      have hmerge := @Equivalent.merge ⟨.keep, lines, old, new⟩ e _ rfl hk (e.old - lines.length) (e.new - lines.length)
      simpa [hk] using hmerge.between [] rest
    · exact .refl _
  · exact .refl _

theorem equivalent_keepAbove (lines : List Text) (old new : Nat) (before : List Edit) :
    Equivalent (keepAbove lines old new before).reverse (before.reverse ++ [⟨.keep, lines, old, new⟩]) := by
  unfold keepAbove
  split
  · next e rest =>
    split
    · next hk =>
      have hmerge := @Equivalent.merge e ⟨.keep, lines, old, new⟩ _ hk rfl e.old e.new
      simpa [hk] using hmerge.between rest.reverse []
    · simpa using .refl _
  · exact .refl _

variable {edit kept : Edit}

theorem of_upOverlap (h : ¬(upOverlap edit kept).isEmpty = true) :
    edit.kind = .add ∧ upOverlap edit kept <:+ kept.lines ∧ upOverlap edit kept <:+ edit.lines := by
  unfold upOverlap at h ⊢
  split
  · next he => exact ⟨he, commonSuffix_isSuffix_left _ _, commonSuffix_isSuffix_right _ _⟩
  · next he => simp [he] at h

theorem of_downOverlap (h : ¬(downOverlap edit kept).isEmpty = true) :
    edit.kind = .add ∧ downOverlap edit kept <+: kept.lines ∧ downOverlap edit kept <+: edit.lines := by
  unfold downOverlap at h ⊢
  split
  · next he => exact ⟨he, commonPrefix_isPrefix_left _ _, commonPrefix_isPrefix_right _ _⟩
  · next he => simp [he] at h

theorem equivalent_moveUp_overlap (hk : kept.kind = .keep) (h : ¬(upOverlap edit kept).isEmpty = true)
    (old new : Nat) (after : List Edit) :
    Equivalent
      ({ kept with lines := kept.lines.take (kept.lines.length - (upOverlap edit kept).length) } ::
        Edit.moveUp edit (upOverlap edit kept) :: keepBelow (upOverlap edit kept) old new after)
      (kept :: edit :: after) := by
  obtain ⟨he, hkept, hedit⟩ := of_upOverlap h
  have hslide := Equivalent.slideUp hk he (List.suffix_iff_eq_append.mp hkept)
    (List.suffix_iff_eq_append.mp hedit) kept.old
    (edit.old - (upOverlap edit kept).length) old kept.new (edit.new - (upOverlap edit kept).length) new
  refine .trans ?_ (hslide.between [] after)
  have hbelow := (equivalent_keepBelow (upOverlap edit kept) old new after).between
    [{ kept with lines := kept.lines.take (kept.lines.length - (upOverlap edit kept).length) },
      Edit.moveUp edit (upOverlap edit kept)] []
  simpa [Edit.moveUp, he, hk] using hbelow

theorem equivalent_moveDown_overlap (hk : kept.kind = .keep) (h : ¬(downOverlap edit kept).isEmpty = true)
    (old new old' new' : Nat) (before : List Edit) :
    Equivalent
      ((keepAbove (downOverlap edit kept) old new before).reverse ++
        [Edit.moveDown edit (downOverlap edit kept),
          { kept with lines := kept.lines.drop (downOverlap edit kept).length, old := old', new := new' }])
      (before.reverse ++ [edit, kept]) := by
  obtain ⟨he, hkept, hedit⟩ := of_downOverlap h
  have hslide := Equivalent.slideDown he hk (List.prefix_iff_eq_append.mp hedit)
    (List.prefix_iff_eq_append.mp hkept) old
    (edit.old + (downOverlap edit kept).length) old' new (edit.new + (downOverlap edit kept).length) new'
  refine .trans ?_ (hslide.between before.reverse [])
  have habove := (equivalent_keepAbove (downOverlap edit kept) old new before).between []
    [Edit.moveDown edit (downOverlap edit kept),
      { kept with lines := kept.lines.drop (downOverlap edit kept).length, old := old', new := new' }]
  simpa [Edit.moveDown, he, hk] using habove

theorem kind_moveUp (before : List Edit) (edit : Edit) (after : List Edit) :
    (moveUp before edit after).edit.kind = edit.kind := by
  fun_induction moveUp before edit after with
  | case1 => rfl
  | case2 _ _ _ _ _ _ _ _ ih => exact ih
  | case3 => rfl
  | case4 _ _ _ _ _ _ _ _ _ _ _ _ ih => exact ih
  | case5 _ _ _ _ _ _ _ _ _ _ _ _ ih => exact ih
  | case6 _ _ _ _ _ hkind ih => exact ih.trans hkind
  | case7 _ _ _ _ _ _ ih => exact ih

/-- An edit that moves up leaves what the edits make of the lines as it is. -/
theorem equivalent_moveUp (before : List Edit) (edit : Edit) (after : List Edit) (h : edit.kind ≠ .keep) :
    Equivalent (moveUp before edit after).edits (before.reverse ++ edit :: after) := by
  fun_induction moveUp before edit after with
  | case1 edit after => exact .refl _
  | case2 edit after prev rest hprev overlap _ hlines ih =>
      have hempty := (Equivalent.empty (List.isEmpty_iff.mp hlines)).between rest.reverse (edit :: after)
      simpa using (ih h).trans hempty
  | case3 edit after prev rest => exact .refl _
  | case4 edit after prev rest hprev overlap hoverlap oldStop newStop after' edit' _ ih =>
      have hedit : edit'.kind ≠ .keep := h
      have hmove := (equivalent_moveUp_overlap hprev hoverlap (oldStop - overlap.length)
        (newStop - overlap.length) after).between rest.reverse []
      simpa using (ih hedit).trans (by simpa using hmove)
  | case5 edit after prev rest hprev overlap hoverlap oldStop newStop after' edit' hall ih =>
      have hedit : edit'.kind ≠ .keep := h
      have hmove := (equivalent_moveUp_overlap hprev hoverlap (oldStop - overlap.length)
        (newStop - overlap.length) after).between rest.reverse []
      -- Nothing is left of the kept lines above.
      have hempty : prev.lines.take (prev.lines.length - overlap.length) = [] := by
        have hpos : 0 < overlap.length := by simpa [List.length_pos_iff] using hoverlap
        rw [Nat.sub_eq_zero_of_le (by omega), List.take_zero]
      have hnone := (@Equivalent.empty { prev with lines := _ } hempty).between rest.reverse (edit' :: after')
      simpa using (ih hedit).trans (.trans (by simpa using hnone) (by simpa using hmove))
  | case6 edit after prev rest hprev hkind ih =>
      have hmerge := (Equivalent.merge hkind rfl prev.old prev.new).between rest.reverse after
      simpa using (ih hprev).trans (by simpa [hkind] using hmerge)
  | case7 edit after prev rest hprev hkind ih =>
      have hswap := (Equivalent.swap h hprev (Ne.symm hkind)).between rest.reverse after
      simpa using (ih h).trans (by simpa using hswap)

/-- An edit that moves down leaves what the edits make of the lines as it is. -/
theorem equivalent_moveDown (before : List Edit) (edit : Edit) (after : List Edit) (h : edit.kind ≠ .keep) :
    Equivalent (moveDown before edit after).edits (before.reverse ++ edit :: after) := by
  fun_induction moveDown before edit after with
  | case1 before edit => exact .refl _
  | case2 before edit next rest hnext overlap _ hlines ih =>
      have hempty := (Equivalent.empty (List.isEmpty_iff.mp hlines)).between (before.reverse ++ [edit]) rest
      simpa using (ih h).trans (by simpa using hempty)
  | case3 before edit next rest => exact .refl _
  | case4 before edit next rest hnext overlap hoverlap before' edit' _ ih =>
      have hedit : edit'.kind ≠ .keep := h
      have hmove := (equivalent_moveDown_overlap hnext hoverlap next.old edit.new (next.old + overlap.length)
        (next.new + overlap.length) before).between [] rest
      simpa using (ih hedit).trans (by simpa using hmove)
  | case5 before edit next rest hnext overlap hoverlap before' edit' hall ih =>
      have hedit : edit'.kind ≠ .keep := h
      have hmove := (equivalent_moveDown_overlap hnext hoverlap next.old edit.new next.old next.new
        before).between [] rest
      -- Nothing is left of the kept lines below.
      have hempty : next.lines.drop overlap.length = [] := by
        have hpos : 0 < overlap.length := by simpa [List.length_pos_iff] using hoverlap
        exact List.drop_eq_nil_of_le (by omega)
      have hnone := (@Equivalent.empty { next with lines := _ } hempty).between (before'.reverse ++ [edit'])
        rest
      simpa using (ih hedit).trans (.trans (by simpa using hnone) (by simpa using hmove))
  | case6 before edit next rest hnext hkind ih =>
      have hmerge := (Equivalent.merge rfl hkind edit.old edit.new).between before.reverse rest
      simpa using (ih h).trans (by simpa using hmerge)
  | case7 before edit next rest hnext hkind ih =>
      have hswap := (Equivalent.swap hnext h hkind).between before.reverse rest
      simpa using (ih h).trans (by simpa using hswap)

/-! ## Settled edits -/

theorem equivalent_settleKind {kind : EditKind} (hk : kind ≠ .keep) (fuel : Nat) (before after : List Edit) :
    Equivalent (settleKind kind fuel before after) (before.reverse ++ after) := by
  fun_induction settleKind kind fuel before after with
  | case1 fuel before => simpa using .refl _
  | case2 before after => exact .refl _
  | case3 before fuel edit rest hkind up down ih =>
      have hedit : edit.kind ≠ .keep := hkind ▸ hk
      have hup := equivalent_moveUp before edit rest hedit
      have hdown := equivalent_moveDown up.before up.edit up.after (kind_moveUp before edit rest ▸ hedit)
      simpa [Focus.edits] using ih.trans (by simpa [Focus.edits] using hdown.trans hup)
  | case4 before fuel edit rest hkind ih => simpa using ih

theorem equivalent_settle (edits : List Edit) : Equivalent (settle edits) edits :=
  (equivalent_settleKind (by decide) _ [] _).trans (equivalent_settleKind (by decide) _ [] edits)

/-! ## Shortest edits -/

theorem oldLines_nonempty (kind : EditKind) (lines : List Text) (old new : Nat) :
    Edit.oldLines (nonempty kind lines old new) = if kind = .add then [] else lines := by
  unfold nonempty
  split
  · next h => simp [List.isEmpty_iff.mp h]
  · simp [Edit.oldLines_cons]

theorem newLines_nonempty (kind : EditKind) (lines : List Text) (old new : Nat) :
    Edit.newLines (nonempty kind lines old new) = if kind = .remove then [] else lines := by
  unfold nonempty
  split
  · next h => simp [List.isEmpty_iff.mp h]
  · simp [Edit.newLines_cons]

/-- Edits that find the lines `xs` and leave the lines `ys`. -/
structure Turns (edits : List Edit) (xs ys : List Text) : Prop where
  oldLines : Edit.oldLines edits = xs
  newLines : Edit.newLines edits = ys

theorem Turns.append {edits edits' : List Edit} {xs ys xs' ys' : List Text} (h : Turns edits xs ys)
    (h' : Turns edits' xs' ys') : Turns (edits ++ edits') (xs ++ xs') (ys ++ ys') := by
  constructor
  · rw [Edit.oldLines_append, h.oldLines, h'.oldLines]
  · rw [Edit.newLines_append, h.newLines, h'.newLines]

/-- The lists can be cut anywhere. -/
theorem Turns.cut {edits edits' : List Edit} {xs ys : List Text} {x y : Nat}
    (h : Turns edits (xs.take x) (ys.take y)) (h' : Turns edits' (xs.drop x) (ys.drop y)) :
    Turns (edits ++ edits') xs ys := by
  simpa using h.append h'

theorem turns_replace (xs ys : List Text) (old new old' new' : Nat) :
    Turns (nonempty .remove xs old new ++ nonempty .add ys old' new') xs ys := by
  constructor
  · simp [Edit.oldLines_append, oldLines_nonempty]
  · simp [Edit.newLines_append, newLines_nonempty]

theorem turns_keep (lines : List Text) (old new : Nat) :
    Turns (nonempty .keep lines old new) lines lines := by
  constructor
  · simp [oldLines_nonempty]
  · simp [newLines_nonempty]

/-- Lines that both lists begin and end with are kept around edits of the lines between them. -/
theorem turns_between {edits : List Edit} {start tail middle middle' xs ys : List Text}
    (h : Turns edits middle middle') (hxs : start ++ middle ++ tail = xs)
    (hys : start ++ middle' ++ tail = ys) (old new old' new' : Nat) :
    Turns (nonempty .keep start old new ++ edits ++ nonempty .keep tail old' new') xs ys := by
  subst hxs hys
  exact ((turns_keep start old new).append h).append (turns_keep tail old' new')

theorem append_between {start tail lines : List Text} (hs : start <+: lines)
    (ht : tail <:+ lines.drop start.length) :
    start ++ (lines.drop start.length).take ((lines.drop start.length).length - tail.length) ++ tail =
      lines := by
  rw [List.append_assoc, List.suffix_iff_eq_append.mp ht, List.prefix_iff_eq_append.mp hs]

/-- The edits turn one list into the other wherever the lists are cut: the place that is found for the cut
matters for their number alone. -/
theorem turns_editsFrom (fuel : Nat) (xs ys : List Text) (old new : Nat) :
    Turns (editsFrom fuel xs ys old new) xs ys := by
  induction fuel generalizing xs ys old new with
  | zero => exact turns_replace xs ys old new _ new
  | succ fuel ih =>
      unfold editsFrom
      -- What is between the common lines is replaced, or cut in two at any place.
      refine turns_between ?_
        (append_between (commonPrefix_isPrefix_left xs ys) (commonSuffix_isSuffix_left _ _))
        (append_between (commonPrefix_isPrefix_right xs ys) (commonSuffix_isSuffix_right _ _)) _ _ _ _
      split
      · exact turns_replace _ _ _ _ _ _
      · split
        · next x y _ => exact .cut (ih _ _ _ _) (ih _ _ _ _)
        · exact turns_replace _ _ _ _ _ _

/-- The edits of a diff turn the one list of lines into the other. -/
theorem turns_settle_shortest (xs ys : List Text) : Turns (settle (shortest xs ys)) xs ys := by
  obtain ⟨hold, hnew⟩ := turns_editsFrom (xs.length + ys.length + 1) xs ys 0 0
  exact ⟨(equivalent_settle _).oldLines.trans hold, (equivalent_settle _).newLines.trans hnew⟩

end Diff

end Transclude
