/-!
# Sets of code points

A set of code points is a list of ranges in increasing order that neither overlap nor touch. Every
operation puts its result into this form, so membership may stop at the first range that lies
above the code point.
-/

namespace Transclude.Unicode

/-- The code points from `lo` to `hi`, both included. -/
structure CodeRange where
  lo : Nat
  hi : Nat
  deriving DecidableEq, Repr

/-- The greatest code point. -/
def maxCode : Nat := 0x10FFFF

/-- Ranges in increasing order that neither overlap nor touch. -/
abbrev CodeSet := List CodeRange

namespace CodeSet

/-- Whether the set holds `code`. -/
def contains (code : Nat) : CodeSet → Bool
  | [] => false
  | r :: rest => if code < r.lo then false else code ≤ r.hi || contains code rest

/-- Joins ranges in increasing order of their first code point, where they overlap or touch. -/
def join : List CodeRange → CodeSet
  | [] => []
  | r :: rest => go r rest
where
  /-- Extends `r` by the ranges that reach it. -/
  go (r : CodeRange) : List CodeRange → CodeSet
    | [] => [r]
    | s :: rest =>
      if s.lo ≤ r.hi + 1 then go ⟨r.lo, max r.hi s.hi⟩ rest else r :: go s rest

/-- The set that ranges in any order cover. -/
def ofRanges (ranges : List CodeRange) : CodeSet :=
  join (ranges.mergeSort fun r s => r.lo ≤ s.lo)

/-- The set of one code point. -/
def single (code : Nat) : CodeSet := [⟨code, code⟩]

/-- The code points from `lo` to `hi`. -/
def range (lo hi : Nat) : CodeSet := [⟨lo, hi⟩]

/-- All code points. -/
def all : CodeSet := range 0 maxCode

/-- The code points of either set. -/
def union (s t : CodeSet) : CodeSet := ofRanges (s ++ t)

/-- The code points of any of the sets. -/
def unions (sets : List CodeSet) : CodeSet := ofRanges sets.flatten

/-- The code points from `start` on that are not in the set. -/
def complementFrom (start : Nat) : CodeSet → CodeSet
  | [] => if start ≤ maxCode then [⟨start, maxCode⟩] else []
  | r :: rest =>
    if start < r.lo then ⟨start, r.lo - 1⟩ :: complementFrom (r.hi + 1) rest
    else complementFrom (r.hi + 1) rest

/-- The code points that are not in the set. -/
def complement (s : CodeSet) : CodeSet := complementFrom 0 s

/-- The code points of both sets. -/
def inter (s t : CodeSet) : CodeSet := complement (union (complement s) (complement t))

/-- The code points of the first set that are not in the second. -/
def diff (s t : CodeSet) : CodeSet := inter s (complement t)

/-- The code points of exactly one of the sets. -/
def symmDiff (s t : CodeSet) : CodeSet := diff (union s t) (inter s t)

end CodeSet

end Transclude.Unicode
