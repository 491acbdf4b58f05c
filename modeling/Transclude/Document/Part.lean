import Transclude.Block

/-!
# Parts of a document

A document is read into parts before anything is fetched: lines that are copied, and directives with
the block that the last run put below them. Lines inside a fence are copied, whatever they hold. The
reading ends at a directive that is malformed or whose block does not end. A part covers lines of
the document; unless the reading ends early the parts cover them all, in order
(`flatMap_source_partsFrom`).
-/

namespace Transclude

/-- A part of a document. -/
inductive Part where
  | copied (line : Text)
  /-- A directive, the line that holds it and the block below that. -/
  | directive (line : Text) (directive : Directive) (block : List Text)
  /-- A line at which the reading ends. -/
  | broken (line : Text) (cause : Cause)
  deriving DecidableEq

namespace Part

/-- The lines of the document that the part covers. -/
def source : Part → List Text
  | .copied line => [line]
  | .directive line _ block => line :: block
  | .broken line _ => [line]

/-- Whether the reading ends at the part. -/
def isBroken : Part → Bool
  | .broken _ _ => true
  | .copied _ | .directive _ _ _ => false

end Part

namespace Document

/-- The fence that is open after a line inside a fence. -/
def fenceAfter (fence : Fence) (line : Text) : Option Fence :=
  if fence.closes line then none else some fence

/-- The parts of the rest of a document below an open fence, if there is one. Fences without marks
are blocks only where `bare` allows it. -/
def partsFrom (bare : Bool) (fence : Option Fence) (lines : List Text) : List Part :=
  match fence, lines with
  | _, [] => []
  | some fence, line :: rest => .copied line :: partsFrom bare (fenceAfter fence line) rest
  | none, line :: rest =>
    match Fence.ofLine? line with
    | some fence => .copied line :: partsFrom bare (some fence) rest
    | none =>
      match Directive.ofLine line with
      | .error fault => [.broken line (.malformed fault)]
      | .ok none => .copied line :: partsFrom bare none rest
      | .ok (some directive) =>
        match h : Block.split bare rest with
        | .error cause => [.broken line cause]
        | .ok (block, below) =>
          have : below.length ≤ rest.length := by
            rw [← Block.append_of_split h, List.length_append]
            exact Nat.le_add_left ..
          .directive line directive block :: partsFrom bare none below
termination_by lines.length

/-- The parts of a document. -/
def parts (bare : Bool) (document : Text) : List Part :=
  partsFrom bare none (Text.lines document)

/-- The references of the directives of a document, in order, up to the first that is broken. -/
def references (bare : Bool) (document : Text) : List Text :=
  (parts bare document).filterMap fun part =>
    match part with
    | .directive _ directive _ => some directive.reference
    | .copied _ | .broken _ _ => none

/-- The parts cover all lines, unless the reading ends early. -/
theorem flatMap_source_partsFrom {bare : Bool} {fence : Option Fence} {lines : List Text}
    (h : ∀ part ∈ partsFrom bare fence lines, part.isBroken = false) :
    (partsFrom bare fence lines).flatMap Part.source = lines := by
  fun_induction partsFrom bare fence lines with
  | case1 => simp
  | case2 fence line rest ih => simp_all [Part.source]
  | case3 line rest fence hf ih => simp_all [Part.source]
  | case4 line rest hf fault hd => simp [Part.isBroken] at h
  | case5 line rest hf hd ih => simp_all [Part.source]
  | case6 line rest hf directive hd cause hb => simp [Part.isBroken] at h
  | case7 line rest hf directive hd block below hb _ ih =>
    simp only [List.mem_cons, forall_eq_or_imp] at h
    simp [Part.source, ih h.2, Block.append_of_split hb]

end Document

end Transclude
