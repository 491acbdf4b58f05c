import Transclude.Diff.Edit

/-!
# Shortest edits

Shortest edits are found by searching from both ends at once for a place where the two searches
meet, and then on either side of that place. A search goes along diagonals: on the diagonal `k` it
stands at `x` in the first list and at `x - k` in the second. In each round it goes on by one edit
and then as far as the lines are the same.
-/

namespace Transclude.Diff

/-- How many lines are the same from `x` and `y` on. -/
def sameFrom (xs ys : Array Text) (x y : Nat) : Nat :=
  if h : x < xs.size ∧ y < ys.size then
    if xs[x] = ys[y] then sameFrom xs ys (x + 1) (y + 1) + 1 else 0
  else 0
termination_by xs.size - x

/-- Where a search was on a diagonal after an edit, and where it stopped. -/
structure Reach where
  start : Nat
  stop : Nat
  deriving Repr

/-- How far a search has come in its last round: after `d` edits on the diagonals `d`, `d - 2` and
so on to `-d`. -/
abbrev Front := Array Reach

namespace Front

/-- Where the search stopped on a diagonal. -/
def stopAt (front : Front) (i : Nat) : Nat := ((front[i]?).map Reach.stop).getD 0

/-- The diagonal of an entry. -/
def diagonal (front : Front) (i : Nat) : Int := front.size - 1 - 2 * i

/-- Where the search stopped on the diagonal `k`, if it has come to it. -/
def stopOn? (front : Front) (k : Int) : Option Nat :=
  if k.natAbs < front.size then
    (front[((front.size - 1 - k) / 2).toNat]?).map Reach.stop
  else none

/-- Where the next round begins on its entry `i`: one line on in the second list from the diagonal
above, or in the first list from the diagonal below, whichever is further. -/
def next (front : Front) (i : Nat) : Nat :=
  if front.size = 0 then 0
  else if i = front.size then front.stopAt (i - 1)
  else if i = 0 then front.stopAt 0 + 1
  else if front.stopAt i < front.stopAt (i - 1) then front.stopAt (i - 1)
  else front.stopAt i + 1

/-- The front after one more round. -/
def advance (xs ys : Array Text) (front : Front) : Front :=
  (Array.range (front.size + 1)).map fun i =>
    let x := front.next i
    let k : Int := front.size - 2 * i
    ⟨x, x + sameFrom xs ys x (x - k).toNat⟩

/-- The first entry of a front that has met the front of the search from the other end, on the same
diagonal. The first list has `size` lines, and `delta` more than the second. -/
def meeting? (front other : Front) (size : Nat) (delta : Int) : Option (Reach × Int) :=
  (List.range front.size).findSome? fun i =>
    let k := front.diagonal i
    match front[i]?, other.stopOn? (delta - k) with
    | some reach, some stop => if size ≤ reach.stop + stop then some (reach, k) else none
    | _, _ => none

end Front

/-- A place in both lists through which shortest edits pass, found in at most `rounds` rounds. -/
def middle? (xs ys : Array Text) (rounds : Nat) (forward backward : Front) : Option (Nat × Nat) :=
  match rounds with
  | 0 => none
  | rounds + 1 =>
    let delta : Int := xs.size - ys.size
    let forward := forward.advance xs ys
    match (if delta % 2 = 0 then none else forward.meeting? backward xs.size delta) with
    | some (reach, k) => some (reach.start, (reach.start - k).toNat)
    | none =>
      let backward := backward.advance xs.reverse ys.reverse
      match (if delta % 2 = 0 then backward.meeting? forward xs.size delta else none) with
      | some (reach, k) => some (xs.size - reach.stop, ys.size - (reach.stop - k).toNat)
      | none => middle? xs ys rounds forward backward

/-- An edit, unless it has no lines. -/
def nonempty (kind : EditKind) (lines : List Text) (old new : Nat) : List Edit :=
  if lines.isEmpty then [] else [⟨kind, lines, old, new⟩]

/-- Edits that turn the lines `xs`, from place `old` on, into the lines `ys`, from place `new` on.
Each search shortens the lists, so `fuel` is more than their length. -/
def editsFrom (fuel : Nat) (xs ys : List Text) (old new : Nat) : List Edit :=
  match fuel with
  | 0 => nonempty .remove xs old new ++ nonempty .add ys (old + xs.length) new
  | fuel + 1 =>
    let start := commonPrefix xs ys
    let xs := xs.drop start.length
    let ys := ys.drop start.length
    let tail := commonSuffix xs ys
    let xs := xs.take (xs.length - tail.length)
    let ys := ys.take (ys.length - tail.length)
    let old' := old + start.length
    let new' := new + start.length
    let between : List Edit :=
      if xs.isEmpty || ys.isEmpty then nonempty .remove xs old' new' ++ nonempty .add ys old' new'
      else
        match middle? xs.toArray ys.toArray ((xs.length + ys.length + 1) / 2 + 1) #[] #[] with
        | some (x, y) =>
          editsFrom fuel (xs.take x) (ys.take y) old' new' ++
            editsFrom fuel (xs.drop x) (ys.drop y) (old' + x) (new' + y)
        | none => nonempty .remove xs old' new' ++ nonempty .add ys old' new'
    nonempty .keep start old new ++ between ++
      nonempty .keep tail (old' + xs.length) (new' + ys.length)

/-- Shortest edits that turn the lines `xs` into the lines `ys`. -/
def shortest (xs ys : List Text) : List Edit := editsFrom (xs.length + ys.length + 1) xs ys 0 0

end Transclude.Diff
