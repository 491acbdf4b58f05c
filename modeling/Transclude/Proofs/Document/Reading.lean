import Transclude.Proofs.Block.Extent
import Transclude.Proofs.Document.Run

/-!
# Reading a document line by line

Every part of a document begins with one line and covers the old block below it, if it has one. Which
fence is open follows from the lines that parts begin with alone (`Reads.fence_eq`). The same lines are
read into the same parts whatever follows them (`Reads.append`), unless they end with a directive and what
follows starts with a block.
-/

namespace Transclude

namespace Part

/-- The line that the part begins with. -/
def line : Part → Text
  | .copied line | .directive line _ _ | .broken line _ => line

/-- The old block that the part covers. -/
def block : Part → List Text
  | .directive _ _ block => block
  | .copied _ | .broken _ _ => []

/-- The part with another block in place of its old one, if it is a directive. -/
def withBlock (block : List Text) : Part → Part
  | .directive line d _ => .directive line d block
  | .copied line => .copied line
  | .broken line cause => .broken line cause

theorem source_eq (part : Part) : part.source = part.line :: part.block := by
  cases part <;> rfl

@[simp] theorem withBlock_block (part : Part) : part.withBlock part.block = part := by
  cases part <;> rfl

end Part

namespace Document

/-! ## Fences -/

/-- The fence that is open below a line, if the line is not in an old block. -/
def fenceBelow (fence : Option Fence) (line : Text) : Option Fence :=
  match fence with
  | some fence => fenceAfter fence line
  | none => Fence.ofLine? line

/-- The fence that the lines leave open. -/
def openFence (lines : List Text) : Option Fence := lines.foldl fenceBelow none

variable {bare bare' : Bool} {fence fence' : Option Fence} {lines lines' : List Text}
  {part : Part} {parts : List Part}

theorem Step.fence_eq (h : Step bare fence lines part fence' lines') :
    fence' = fenceBelow fence part.line := by
  cases h with
  | inside | opens => simp [fenceBelow, Part.line, *]
  | plain hf => exact hf.symm
  | directive hd => exact (Directive.ofLine?_eq_none_of_ofLine hd).symm

theorem Reads.fence_eq (h : Reads bare fence lines parts fence' lines') :
    fence' = (parts.map Part.line).foldl fenceBelow fence := by
  induction h with
  | nil => rfl
  | cons h _ ih => rw [ih, h.fence_eq, List.map_cons, List.foldl_cons]

/-! ## Other lines below -/

theorem Step.withBlock (h : Step bare fence lines part fence' lines') {block tail : List Text}
    (hs : ∀ line d old, part = .directive line d old → Block.SplitsOff bare' (block ++ tail) block tail) :
    Step bare' fence ((part.withBlock block).source ++ tail) (part.withBlock block) fence' tail := by
  cases h with
  | inside fence line => exact .inside fence line tail
  | opens hf => exact .opens hf tail
  | plain hf hd => exact .plain hf hd tail
  | directive hd => exact .directive hd (hs _ _ _ rfl).split_eq

/-- Whether the last line of the parts holds a directive, with no block below it. -/
def endsInDirective (parts : List Part) : Bool :=
  match parts.getLast? with
  | some (.directive _ _ []) => true
  | _ => false

theorem leads_source_append (part : Part) (rest rest' : List Text) :
    Block.leads bare (part.source ++ rest) = Block.leads bare (part.source ++ rest') := by
  rw [part.source_eq]
  rfl

theorem Step.append (h : Step bare fence lines part fence' lines') {tail : List Text}
    (hb : ∀ line d, part = .directive line d [] → Block.leads bare lines' = false →
      Block.leads bare tail = false) : Step bare fence (part.source ++ tail) part fence' tail := by
  have hs : ∀ line d old, part = .directive line d old →
      Block.SplitsOff bare (part.block ++ tail) part.block tail := by
    rintro line d old rfl
    cases h with
    | directive hd hsplit =>
        have hsplit := Block.split_eq_ok_iff.mp hsplit
        refine hsplit.append fun hnil => ?_
        obtain rfl : old = [] := hnil
        obtain ⟨hleads, rfl⟩ := hsplit.leads_eq_false
        exact hb line d rfl hleads
  simpa using h.withBlock hs

/-- The same lines are read into the same parts, whatever follows them. -/
theorem Reads.append (h : Reads bare fence lines parts fence' lines') {tail : List Text}
    (ht : endsInDirective parts = true → Block.leads bare tail = false) :
    Reads bare fence (parts.flatMap Part.source ++ tail) parts fence' tail := by
  induction h with
  | nil fence => exact .nil fence tail
  | @cons _ _ _ _ _ _ part parts hstep hr ih =>
      rw [List.flatMap_cons, List.append_assoc]
      -- Below the last part the lines are other ones. Below the others the first line stays the same, and it
      -- alone decides whether a block starts there.
      cases parts with
      | nil =>
          refine .cons (hstep.append ?_) (ih fun h => by cases h)
          rintro line d rfl -
          exact ht rfl
      | cons next parts =>
          refine .cons (hstep.append fun _ _ _ hleads => ?_) (ih fun h => ht ?_)
          · rw [← hr.source_append, List.flatMap_cons, List.append_assoc] at hleads
            rw [List.flatMap_cons, List.append_assoc]
            exact (leads_source_append next _ _).trans hleads
          · simpa [endsInDirective] using h

end Document

end Transclude
