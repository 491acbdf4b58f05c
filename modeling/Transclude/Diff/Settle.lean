import Transclude.Diff.Edit

/-!
# Settling edits

Shortest edits can often be moved: lines that are added after kept ones may as well be added before
them if both end the same. Edits are settled by moving each as far up as it goes, over edits of the
other kind and merging with those of its own, and then as far down. Removed lines move over no kept
ones. The edits make the same of the same lines all the while.
-/

namespace Transclude.Diff

/-- The number of edits and lines in a list, which bounds how far an edit moves through it. -/
def weight : List Edit → Nat
  | [] => 0
  | e :: rest => e.lines.length + 1 + weight rest

@[simp] theorem weight_nil : weight [] = 0 := rfl

@[simp] theorem weight_cons (e : Edit) (edits : List Edit) :
    weight (e :: edits) = e.lines.length + 1 + weight edits := rfl

/-- An edit with those before it, the last first, and those after it. -/
structure Focus where
  before : List Edit
  edit : Edit
  after : List Edit

/-- The lines by which an added edit moves up over a kept one. -/
def upOverlap (edit kept : Edit) : List Text :=
  if edit.kind = .add then commonSuffix kept.lines edit.lines else []

/-- The lines by which an added edit moves down over a kept one. -/
def downOverlap (edit kept : Edit) : List Text :=
  if edit.kind = .add then commonPrefix kept.lines edit.lines else []

/-- The edit moved up by lines that it ends with. -/
def Edit.moveUp (edit : Edit) (lines : List Text) : Edit :=
  { edit with
    lines := lines ++ edit.lines.take (edit.lines.length - lines.length)
    old := edit.old - lines.length
    new := edit.new - lines.length }

/-- The edit moved down by lines that it begins with. -/
def Edit.moveDown (edit : Edit) (lines : List Text) : Edit :=
  { edit with
    lines := edit.lines.drop lines.length ++ lines
    old := edit.old + lines.length
    new := edit.new + lines.length }

/-- The edits after one that leaves kept lines below it. -/
def keepBelow (lines : List Text) (old new : Nat) (after : List Edit) : List Edit :=
  match after with
  | e :: rest =>
    if e.kind = .keep then
      { e with
        lines := lines ++ e.lines
        old := e.old - lines.length
        new := e.new - lines.length } :: rest
    else ⟨.keep, lines, old, new⟩ :: after
  | [] => [⟨.keep, lines, old, new⟩]

/-- The edits before one that leaves kept lines above it. -/
def keepAbove (lines : List Text) (old new : Nat) (before : List Edit) : List Edit :=
  match before with
  | e :: rest =>
    if e.kind = .keep then { e with lines := e.lines ++ lines } :: rest
    else ⟨.keep, lines, old, new⟩ :: before
  | [] => [⟨.keep, lines, old, new⟩]

/-- Moves an edit up as far as it goes. -/
def moveUp (before : List Edit) (edit : Edit) (after : List Edit) : Focus :=
  match before with
  | [] => ⟨[], edit, after⟩
  | prev :: rest =>
    if prev.kind = .keep then
      let overlap := upOverlap edit prev
      if overlap.isEmpty then
        if prev.lines.isEmpty then moveUp rest edit after else ⟨before, edit, after⟩
      else
        let oldStop := prev.old + prev.lines.length
        let newStop := edit.new + edit.lines.length
        let after := keepBelow overlap (oldStop - overlap.length) (newStop - overlap.length) after
        let edit := Edit.moveUp edit overlap
        if overlap.length < prev.lines.length ∧ 0 < overlap.length then
          moveUp ({ prev with lines := prev.lines.take (prev.lines.length - overlap.length) } ::
            rest) edit after
        else moveUp rest edit after
    else if prev.kind = edit.kind then
      moveUp rest { prev with lines := prev.lines ++ edit.lines } after
    else moveUp rest edit (prev :: after)
termination_by weight before
decreasing_by
  all_goals simp +zetaDelta only [weight_cons, List.length_take] at *
  all_goals omega

/-- Moves an edit down as far as it goes. -/
def moveDown (before : List Edit) (edit : Edit) (after : List Edit) : Focus :=
  match after with
  | [] => ⟨before, edit, []⟩
  | next :: rest =>
    if next.kind = .keep then
      let overlap := downOverlap edit next
      if overlap.isEmpty then
        if next.lines.isEmpty then moveDown before edit rest else ⟨before, edit, after⟩
      else
        let before := keepAbove overlap next.old edit.new before
        let edit := Edit.moveDown edit overlap
        if overlap.length < next.lines.length ∧ 0 < overlap.length then
          moveDown before edit
            ({ next with
              lines := next.lines.drop overlap.length
              old := next.old + overlap.length
              new := next.new + overlap.length } :: rest)
        else moveDown before edit rest
    else if next.kind = edit.kind then
      moveDown before { edit with lines := edit.lines ++ next.lines } rest
    else moveDown (next :: before) edit rest
termination_by weight after
decreasing_by
  all_goals simp +zetaDelta only [weight_cons, List.length_drop] at *
  all_goals omega

/-- Settles the edits of one kind. Each round goes at least one edit on, so `fuel` is the weight of
the edits. -/
def settleKind (kind : EditKind) (fuel : Nat) (before after : List Edit) : List Edit :=
  match fuel, after with
  | _, [] => before.reverse
  | 0, after => before.reverse ++ after
  | fuel + 1, edit :: rest =>
    if edit.kind = kind then
      let up := moveUp before edit rest
      let down := moveDown up.before up.edit up.after
      settleKind kind fuel (down.edit :: down.before) down.after
    else settleKind kind fuel (edit :: before) rest

/-- Settles removed lines, then added ones. -/
def settle (edits : List Edit) : List Edit :=
  let removed := settleKind .remove (weight edits) [] edits
  settleKind .add (weight removed) [] removed

end Transclude.Diff
