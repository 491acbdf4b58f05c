import Transclude.Text.Basic

/-!
# Edits

An edit keeps, removes or adds lines. A list of edits turns one list of lines into another: what it
keeps and removes is the first (`oldLines`), what it keeps and adds the second (`newLines`).
-/

namespace Transclude

/-- What an edit does with its lines. -/
inductive EditKind where
  | keep
  | remove
  | add
  deriving DecidableEq, Repr

/-- An edit of lines, found at place `old` of the first list and place `new` of the second. -/
structure Edit where
  kind : EditKind
  lines : List Text
  old : Nat
  new : Nat
  deriving DecidableEq, Repr

namespace Edit

/-- The lines that edits find. -/
def oldLines (edits : List Edit) : List Text :=
  (edits.filter (·.kind ≠ .add)).flatMap lines

/-- The lines that edits leave. -/
def newLines (edits : List Edit) : List Text :=
  (edits.filter (·.kind ≠ .remove)).flatMap lines

end Edit

/-! ## Common ends -/

namespace Diff

/-- The longest list that both begin with. -/
def commonPrefix [DecidableEq α] : List α → List α → List α
  | a :: as, b :: bs => if a = b then a :: commonPrefix as bs else []
  | _, _ => []

/-- The longest list that both end with. -/
def commonSuffix [DecidableEq α] (as bs : List α) : List α :=
  (commonPrefix as.reverse bs.reverse).reverse

/-- The first list begins with the common beginning. -/
theorem commonPrefix_isPrefix_left [DecidableEq α] (as bs : List α) :
    commonPrefix as bs <+: as := by
  fun_induction commonPrefix as bs <;> simp_all

/-- The second list begins with the common beginning. -/
theorem commonPrefix_isPrefix_right [DecidableEq α] (as bs : List α) :
    commonPrefix as bs <+: bs := by
  fun_induction commonPrefix as bs <;> simp_all

end Diff

end Transclude
