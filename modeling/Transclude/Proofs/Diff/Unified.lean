import Mathlib.Data.List.Forall2
import Transclude.Diff.Unified
import Transclude.Proofs.Diff.Edits
import Transclude.Proofs.Text.Lines

/-!
# The shape of unified diffs

Between texts that differ a unified diff has two lines with names and then at least one hunk. Each hunk is
a heading and lines of the two texts: a line that it removes is one of the first text, and a line that it
adds is one of the second (`unifiedLines_eq`).
-/

namespace Transclude.Diff

/-! ## Lines -/

theorem flatten_lines (t : Text) : (lines t).flatten = t := by
  fun_induction lines t with
  | case1 => rfl
  | case2 rest ih => simp [ih]
  | case3 c rest _ _ ih => simp [ih]
  | case4 c rest _ _ hnil ih => simpa [hnil] using ih
  | case5 c rest _ _ line more hlines ih => simpa [hlines] using ih

theorem isLine_of_mem_lines {t line : Text} (h : line ∈ lines t) : Text.IsLine line := by
  fun_induction lines t generalizing line with
  | case1 => cases h
  | case2 rest ih =>
      rcases List.mem_cons.mp h with rfl | h
      · exact Or.inl ⟨['\r'], by simp, rfl⟩
      · exact ih h
  | case3 c rest _ hc ih =>
      rcases List.mem_cons.mp h with rfl | h
      · rcases hc with rfl | rfl
        · exact Or.inl ⟨[], by simp, rfl⟩
        · exact Or.inr (by simp)
      · exact ih h
  | case4 c rest _ hc _ ih =>
      obtain rfl := List.mem_singleton.mp h
      exact Or.inr (by simpa [eq_comm] using (not_or.mp hc).1)
  | case5 c rest _ hc first more hlines ih =>
      have hne : c ≠ '\n' := (not_or.mp hc).1
      rcases List.mem_cons.mp h with rfl | h
      · rcases ih (hlines ▸ List.mem_cons_self) with ⟨front, hfront, rfl⟩ | hn
        · exact Or.inl ⟨c :: front, by simp [hne.symm, hfront], rfl⟩
        · exact Or.inr (by simp [hne.symm, hn])
      · exact ih (hlines ▸ List.mem_cons_of_mem _ h)

/-! ## Pieces -/

namespace Piece

/-- The lines of the first list that the piece shows. -/
def oldLines : Piece → List Text
  | .same lines _ _ => lines
  | .change removed _ _ _ => removed

/-- The lines of the second list that the piece shows. -/
def newLines : Piece → List Text
  | .same lines _ _ => lines
  | .change _ added _ _ => added

/-- Whether the piece is one of changed lines. -/
def IsChange : Piece → Prop
  | .same _ _ _ => False
  | .change _ _ _ _ => True

theorem newLines_eq_oldLines {piece : Piece} (h : ¬piece.IsChange) : piece.newLines = piece.oldLines := by
  cases piece with
  | same => rfl
  | change => exact absurd trivial h

theorem oldLines_ofEdit (edit : Edit) :
    (ofEdit edit).oldLines = if edit.kind = .add then [] else edit.lines := by
  unfold ofEdit
  cases edit.kind <;> rfl

theorem newLines_ofEdit (edit : Edit) :
    (ofEdit edit).newLines = if edit.kind = .remove then [] else edit.lines := by
  unfold ofEdit
  cases edit.kind <;> rfl

theorem lines_of_extend? {piece extended : Piece} {edit : Edit} (h : piece.extend? edit = some extended) :
    extended.oldLines = piece.oldLines ++ (if edit.kind = .add then [] else edit.lines) ∧
      extended.newLines = piece.newLines ++ if edit.kind = .remove then [] else edit.lines := by
  unfold extend? at h
  split at h
  all_goals cases h
  all_goals rename_i hkind
  all_goals simp [oldLines, newLines, hkind]

theorem flatMap_lines_ofEditsAfter (piece : Piece) (edits : List Edit) :
    (ofEditsAfter piece edits).flatMap oldLines = piece.oldLines ++ Edit.oldLines edits ∧
      (ofEditsAfter piece edits).flatMap newLines = piece.newLines ++ Edit.newLines edits := by
  fun_induction ofEditsAfter piece edits with
  | case1 piece => simp
  | case2 piece edit rest extended h ih =>
      obtain ⟨hold, hnew⟩ := lines_of_extend? h
      simp [ih, hold, hnew, Edit.oldLines_cons, Edit.newLines_cons]
  | case3 piece edit rest h ih =>
      simp [ih, oldLines_ofEdit, newLines_ofEdit, Edit.oldLines_cons, Edit.newLines_cons]

theorem flatMap_lines_ofEdits (edits : List Edit) :
    (ofEdits edits).flatMap oldLines = Edit.oldLines edits ∧
      (ofEdits edits).flatMap newLines = Edit.newLines edits := by
  cases edits with
  | nil => exact ⟨rfl, rfl⟩
  | cons edit rest =>
      obtain ⟨hold, hnew⟩ := flatMap_lines_ofEditsAfter (ofEdit edit) rest
      simp [ofEdits, hold, hnew, oldLines_ofEdit, newLines_ofEdit, Edit.oldLines_cons, Edit.newLines_cons]

/-- Edits between lists that differ make up a change. -/
theorem exists_isChange_ofEdits {edits : List Edit} {xs ys : List Text} (h : Turns edits xs ys)
    (hne : xs ≠ ys) : ∃ piece ∈ ofEdits edits, piece.IsChange := by
  by_contra hnone
  simp only [not_exists, not_and] at hnone
  obtain ⟨hold, hnew⟩ := flatMap_lines_ofEdits edits
  have hsame : (ofEdits edits).flatMap newLines = (ofEdits edits).flatMap oldLines :=
    List.flatMap_congr fun piece hp => newLines_eq_oldLines (hnone piece hp)
  rw [hold, hnew, h.oldLines, h.newLines] at hsame
  exact hne hsame.symm

/-- A piece with some of the lines of another, or all if it is one of changed lines. -/
structure Trims (trimmed piece : Piece) : Prop where
  oldLines : trimmed.oldLines ⊆ piece.oldLines
  newLines : trimmed.newLines ⊆ piece.newLines
  isChange : trimmed.IsChange ↔ piece.IsChange

theorem Trims.refl (piece : Piece) : piece.Trims piece := ⟨fun _ h => h, fun _ h => h, Iff.rfl⟩

theorem Trims.trans {a b c : Piece} (h : a.Trims b) (h' : b.Trims c) : a.Trims c :=
  ⟨fun _ hl => h'.1 (h.1 hl), fun _ hl => h'.2 (h.2 hl), h.3.trans h'.3⟩

theorem trims_lastLines (count : Nat) (piece : Piece) : (piece.lastLines count).Trims piece := by
  cases piece with
  | same lines => exact ⟨List.drop_subset _ lines, List.drop_subset _ lines, Iff.rfl⟩
  | change => exact .refl _

theorem trims_firstLines (count : Nat) (piece : Piece) : (piece.firstLines count).Trims piece := by
  cases piece with
  | same lines => exact ⟨List.take_subset _ lines, List.take_subset _ lines, Iff.rfl⟩
  | change => exact .refl _

end Piece

/-! ## Groups -/

/-- The context is cut at the ends alone, and of kept lines alone. -/
theorem forall₂_trims_trimContext (pieces : List Piece) :
    List.Forall₂ Piece.Trims (trimContext pieces) pieces := by
  have hrefl : ∀ pieces, List.Forall₂ Piece.Trims pieces pieces := fun pieces =>
    List.forall₂_same.mpr fun piece _ => .refl piece
  cases pieces with
  | nil => exact .nil
  | cons first rest =>
      simp only [trimContext]
      split
      · next h => simp at h
      · next last before h =>
        have hbefore : List.Forall₂ Piece.Trims (last :: before) (first :: rest).reverse := by
          rw [← h, List.forall₂_reverse_iff]
          exact .cons (Piece.trims_lastLines context first) (hrefl rest)
        -- The second cut is made at the end, so the pieces are compared from there.
        rw [← List.reverse_reverse (first :: rest), List.forall₂_reverse_iff]
        generalize (first :: rest).reverse = reversed at hbefore ⊢
        cases hbefore with
        | cons hlast hrest => exact .cons ((Piece.trims_firstLines context last).trans hlast) hrest

theorem exists_mem_of_forall₂ {r : α → β → Prop} {as : List α} {bs : List β} (h : List.Forall₂ r as bs) {a : α}
    (ha : a ∈ as) : ∃ b ∈ bs, r a b := by
  induction h with
  | nil => cases ha
  | cons hab _ ih =>
      rcases List.mem_cons.mp ha with rfl | ha
      · exact ⟨_, List.mem_cons_self, hab⟩
      · obtain ⟨b, hb, hab⟩ := ih ha
        exact ⟨b, List.mem_cons_of_mem _ hb, hab⟩

/-- Groups are not empty, and consist of pieces that are there. -/
theorem of_mem_groupsFrom {pending pieces group : List Piece} (h : group ∈ groupsFrom pending pieces) :
    group ≠ [] ∧ ∀ trimmed ∈ group, ∃ piece ∈ pending ++ pieces, trimmed.Trims piece := by
  fun_induction groupsFrom pending pieces with
  | case1 => cases h
  | case2 => cases h
  | case3 pending hnil _ =>
      obtain rfl := List.mem_singleton.mp h
      exact ⟨by simpa using hnil, fun piece hp => ⟨piece, by simpa using hp, .refl piece⟩⟩
  | case4 pending rest lines old new hlong ih =>
      rcases List.mem_cons.mp h with rfl | h
      · refine ⟨by simp, fun trimmed ht => ?_⟩
        rcases List.mem_cons.mp (List.mem_reverse.mp ht) with rfl | ht
        · exact ⟨.same lines old new, by simp, Piece.trims_firstLines context _⟩
        · exact ⟨trimmed, by simp [ht], .refl trimmed⟩
      · -- The later groups begin with the end of the same kept lines.
        obtain ⟨hne, hall⟩ := ih h
        refine ⟨hne, fun trimmed ht => ?_⟩
        obtain ⟨piece, hp, htrims⟩ := hall trimmed ht
        rcases List.mem_cons.mp hp with rfl | hp
        · exact ⟨.same lines old new, by simp, htrims.trans (Piece.trims_lastLines context _)⟩
        · exact ⟨piece, by simp [show piece ∈ rest from hp], htrims⟩
  | case5 pending rest lines old new hlong ih =>
      obtain ⟨hne, hall⟩ := ih h
      exact ⟨hne, fun trimmed ht => by simpa [or_assoc, or_left_comm] using hall trimmed ht⟩
  | case6 pending rest removed added old new ih =>
      obtain ⟨hne, hall⟩ := ih h
      exact ⟨hne, fun trimmed ht => by simpa [or_assoc, or_left_comm] using hall trimmed ht⟩

/-- A change is shown in a group. -/
theorem groupsFrom_ne_nil {pending pieces : List Piece} (h : ∃ piece ∈ pending ++ pieces, piece.IsChange) :
    groupsFrom pending pieces ≠ [] := by
  fun_induction groupsFrom pending pieces with
  | case1 => simp at h
  | case2 => simp [Piece.IsChange] at h
  | case3 => simp
  | case4 => simp
  | case5 pending rest lines old new hlong ih =>
      obtain ⟨piece, hp, hc⟩ := h
      exact ih ⟨piece, by simpa [or_left_comm] using hp, hc⟩
  | case6 pending rest removed added old new ih =>
      obtain ⟨piece, hp, hc⟩ := h
      exact ih ⟨piece, by simpa [or_left_comm] using hp, hc⟩

section Shown

variable {edits : List Edit} {xs ys : List Text} {group : List Piece}

/-- What is shown of edits is part of the lists that they turn into each other. -/
theorem of_mem_groupsFrom_ofEdits (h : Turns edits xs ys)
    (hg : group ∈ groupsFrom [] (trimContext (Piece.ofEdits edits))) :
    group ≠ [] ∧ ∀ piece ∈ group, piece.oldLines ⊆ xs ∧ piece.newLines ⊆ ys := by
  obtain ⟨hold, hnew⟩ := Piece.flatMap_lines_ofEdits edits
  rw [h.oldLines] at hold
  rw [h.newLines] at hnew
  obtain ⟨hne, hall⟩ := of_mem_groupsFrom hg
  refine ⟨hne, fun piece hp => ?_⟩
  obtain ⟨cut, hcut, hpc⟩ := hall piece hp
  obtain ⟨whole, hwhole, hcw⟩ := exists_mem_of_forall₂ (forall₂_trims_trimContext _) hcut
  have htrims := hpc.trans hcw
  exact ⟨fun line hl => hold ▸ List.mem_flatMap.mpr ⟨whole, hwhole, htrims.oldLines hl⟩,
    fun line hl => hnew ▸ List.mem_flatMap.mpr ⟨whole, hwhole, htrims.newLines hl⟩⟩

theorem groupsFrom_ofEdits_ne_nil (h : Turns edits xs ys) (hne : xs ≠ ys) :
    groupsFrom [] (trimContext (Piece.ofEdits edits)) ≠ [] := by
  obtain ⟨change, hchange, hc⟩ := Piece.exists_isChange_ofEdits h hne
  have hwhole : List.Forall₂ (flip Piece.Trims) (Piece.ofEdits edits) (trimContext (Piece.ofEdits edits)) :=
    .flip (forall₂_trims_trimContext _)
  obtain ⟨trimmed, ht, htrims⟩ := exists_mem_of_forall₂ hwhole hchange
  exact groupsFrom_ne_nil ⟨trimmed, ht, htrims.isChange.mpr hc⟩

end Shown

/-! ## Hunks -/

/-- Whether a hunk between the texts can show the line: lines that it keeps are lines of both texts, lines
that it removes are lines of the first, and lines that it adds are lines of the second. -/
def Line.StandsIn (before after : Text) : Line → Prop
  | .kept line => line ∈ lines before ∧ line ∈ lines after
  | .removed line => line ∈ lines before
  | .added line => line ∈ lines after
  | .oldName _ | .newName _ | .hunk _ _ => False

/-- Hunks between two texts: each is a heading with kept, removed and added lines behind it. -/
inductive Hunks (before after : Text) : List Line → Prop
  | nil : Hunks before after []
  | cons {shown rest : List Line} (old new : Nat × Nat) (h : ∀ line ∈ shown, line.StandsIn before after)
      (hr : Hunks before after rest) : Hunks before after (.hunk old new :: (shown ++ rest))

variable {before after : Text}

theorem standsIn_of_mem_toLines {piece : Piece} {line : Line} (hold : piece.oldLines ⊆ lines before)
    (hnew : piece.newLines ⊆ lines after) (h : line ∈ piece.toLines) : line.StandsIn before after := by
  cases piece with
  | same =>
      obtain ⟨kept, hk, rfl⟩ := List.mem_map.mp h
      exact ⟨hold hk, hnew hk⟩
  | change =>
      rcases List.mem_append.mp h with h | h
      · obtain ⟨removed, hr, rfl⟩ := List.mem_map.mp h
        exact hold hr
      · obtain ⟨added, ha, rfl⟩ := List.mem_map.mp h
        exact hnew ha

theorem exists_hunkLines_eq {group : List Piece} (h : group ≠ []) :
    ∃ old new, hunkLines group = .hunk old new :: group.flatMap Piece.toLines := by
  cases group with
  | nil => exact absurd rfl h
  | cons first rest =>
      have hlast := List.getLast?_eq_some_getLast (List.cons_ne_nil first rest)
      exact ⟨_, _, by simp only [hunkLines, hlast]; rfl⟩

theorem hunks_flatMap {groups : List (List Piece)}
    (h : ∀ group ∈ groups, group ≠ [] ∧
      ∀ piece ∈ group, piece.oldLines ⊆ lines before ∧ piece.newLines ⊆ lines after) :
    Hunks before after (groups.flatMap hunkLines) := by
  induction groups with
  | nil => exact .nil
  | cons group rest ih =>
      obtain ⟨hne, hpieces⟩ := h group List.mem_cons_self
      obtain ⟨old, new, hgroup⟩ := exists_hunkLines_eq hne
      rw [List.flatMap_cons, hgroup, List.cons_append]
      refine .cons old new (fun line hl => ?_) (ih fun group hg => h group (List.mem_cons_of_mem _ hg))
      obtain ⟨piece, hp, hl⟩ := List.mem_flatMap.mp hl
      exact standsIn_of_mem_toLines (hpieces piece hp).1 (hpieces piece hp).2 hl

/-- Between texts that differ there are two lines with names and then hunks, at least one. -/
theorem unifiedLines_eq (oldName newName : Text) (h : before ≠ after) :
    ∃ hunks, hunks ≠ [] ∧ Hunks before after hunks ∧
      unifiedLines oldName newName before after = .oldName oldName :: .newName newName :: hunks := by
  have hlines : lines before ≠ lines after := fun he => h (by rw [← flatten_lines before, he, flatten_lines])
  have hturns := turns_settle_shortest (lines before) (lines after)
  have hgroups := groupsFrom_ofEdits_ne_nil hturns hlines
  have hshown := fun group => @of_mem_groupsFrom_ofEdits _ _ _ group hturns
  refine ⟨_, ?_, hunks_flatMap hshown, ?_⟩
  · obtain ⟨group, rest, heq⟩ := List.exists_cons_of_ne_nil hgroups
    obtain ⟨old, new, hgroup⟩ := exists_hunkLines_eq (hshown group (heq ▸ List.mem_cons_self)).1
    rw [heq, List.flatMap_cons, hgroup]
    exact List.cons_ne_nil _ _
  · simp only [unifiedLines, List.isEmpty_iff]
    exact if_neg hgroups

end Transclude.Diff
