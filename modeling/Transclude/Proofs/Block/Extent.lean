import Transclude.Proofs.Block.Skip

/-!
# The extent of old blocks

There are four ways to split an old block off the lines below a directive (`split_eq_ok_iff`). How far
the block reaches is decided by its own lines: whatever lines follow them, the same block is split off
(`SplitsOff.append`).
-/

namespace Transclude

theorem throughFirst?_append_left {α : Type} {p : α → Bool} {list taken left : List α}
    (h : throughFirst? p list = some (taken, left)) (below : List α) :
    throughFirst? p (taken ++ below) = some (taken, below) := by
  obtain ⟨before, a, rfl, ha, hbefore⟩ := exists_of_throughFirst? h
  rw [List.append_assoc, throughFirst?_append hbefore, List.singleton_append, throughFirst?_cons ha]
  rfl

theorem exists_cons_of_throughFirst? {α : Type} {p : α → Bool} {list taken left : List α}
    (h : throughFirst? p list = some (taken, left)) : ∃ a more, taken = a :: more := by
  obtain ⟨before, a, rfl, -, -⟩ := exists_of_throughFirst? h
  cases before with
  | nil => exact ⟨a, [], rfl⟩
  | cons b before => exact ⟨b, before ++ [a], rfl⟩

namespace Block

variable {bare : Bool} {first : Text} {lines block rest : List Text}

/-! ## Where a block stands -/

/-- Whether the lines start with a block. -/
def leads (bare : Bool) : List Text → Bool
  | [] => false
  | first :: _ => isBegin first || bare && (Fence.ofLine? first).isSome

/-- The fence that the lines below the begin of a block open. -/
def fenceBelow? (first : Text) (below : List Text) : Option Fence :=
  if isFenced first then below.head?.bind Fence.ofLine? else none

/-- A block is split off the lines, or nothing is where they do not start with one. A block runs through
the first line that ends it, which is looked for behind the fence if it has one, and what its first line
echoes is read to its end. -/
inductive SplitsOff (bare : Bool) : List Text → List Text → List Text → Prop
  | absent {lines : List Text} (h : leads bare lines = false) : SplitsOff bare lines [] lines
  | unfenced {first : Text} {below tail rest : List Text} (hbegin : isBegin first = true)
      (hends : isEndless first = false) (hfence : fenceBelow? first below = none)
      (hend : throughFirst? isEnd below = some (tail, rest)) :
      SplitsOff bare (first :: below) (first :: tail) rest
  | fenced {first opening : Text} {fence : Fence} {below inside left tail rest : List Text}
      (hbegin : isBegin first = true) (hends : isEndless first = false)
      (hfence : fenceBelow? first (opening :: below) = some fence)
      (hcloses : throughFirst? fence.closes below = some (inside, left))
      (hend : throughFirst? isEnd left = some (tail, rest)) :
      SplitsOff bare (first :: opening :: below) (first :: opening :: (inside ++ tail)) rest
  | bare {first : Text} {fence : Fence} {below inside rest : List Text} (hbare : bare = true)
      (hbegin : isBegin first = false) (hopens : Fence.ofLine? first = some fence)
      (hcloses : throughFirst? fence.closes below = some (inside, rest)) :
      SplitsOff bare (first :: below) (first :: inside) rest

theorem splitFenceOf_of_eq_none {below : List Text} (h : fenceBelow? first below = none) :
    splitFenceOf first below = .ok ([], below) := by
  cases below with
  | nil => rfl
  | cons opening below => simp_all [splitFenceOf, fenceBelow?]

theorem splitFenceOf_of_eq_some {opening : Text} {fence : Fence} {below inside left : List Text}
    (h : fenceBelow? first (opening :: below) = some fence)
    (hcloses : throughFirst? fence.closes below = some (inside, left)) :
    splitFenceOf first (opening :: below) = .ok (opening :: inside, left) := by
  unfold fenceBelow? at h
  simp only [List.head?_cons, Option.bind_some] at h
  simp only [splitFenceOf, h, splitFence, hcloses]
  rfl

theorem SplitsOff.split_eq (h : SplitsOff bare lines block rest) :
    split bare lines = .ok (block, rest) := by
  cases h with
  | absent h =>
      cases lines with
      | nil => rfl
      | cons first below =>
          obtain ⟨hbegin, hfence⟩ := Bool.or_eq_false_iff.mp h
          cases bare <;> simp_all [split]
  | unfenced hbegin hends hfence hend =>
      simp [split, hbegin, splitMarked, hends, splitFenceOf_of_eq_none hfence, splitEnd, hend,
        Except.map]
  | fenced hbegin hends hfence hcloses hend =>
      simp [split, hbegin, splitMarked, hends, splitFenceOf_of_eq_some hfence hcloses, splitEnd, hend,
        Except.map]
  | bare hbare hbegin hopens hcloses =>
      simp [split, hbegin, hbare, hopens, splitFence, hcloses, Except.map]

theorem throughFirst?_of_splitEnd {tail left : List Text} (h : splitEnd lines = .ok (tail, left)) :
    throughFirst? isEnd lines = some (tail, left) := by
  unfold splitEnd at h
  split at h
  · next heq => rw [heq, Except.ok.inj h]
  · cases h

theorem throughFirst?_of_splitFence {fence : Fence} {inside left : List Text}
    (h : splitFence fence lines = .ok (inside, left)) :
    throughFirst? fence.closes lines = some (inside, left) := by
  unfold splitFence at h
  split at h
  · next heq => rw [heq, Except.ok.inj h]
  · cases h

/-- A block whose begin stands on the first line. -/
theorem splitsOff_of_isBegin {below : List Text} (hbegin : isBegin first = true)
    (h : split bare (first :: below) = .ok (block, rest)) :
    SplitsOff bare (first :: below) block rest := by
  simp only [split, hbegin, if_true, splitMarked] at h
  split at h
  · cases h
  next hendless =>
  have hends : isEndless first = false := by simpa using hendless
  cases hfence : fenceBelow? first below with
  | none =>
      rw [splitFenceOf_of_eq_none hfence] at h
      obtain ⟨⟨tail, rest'⟩, hend, he⟩ := exists_of_map_eq_ok h
      cases he
      exact .unfenced hbegin hends hfence (throughFirst?_of_splitEnd hend)
  | some fence =>
      cases below with
      | nil => simp [fenceBelow?] at hfence
      | cons opening below =>
          cases hcloses : throughFirst? fence.closes below with
          | none =>
              have hf := hfence
              unfold fenceBelow? at hf
              simp only [List.head?_cons, Option.bind_some] at hf
              simp only [splitFenceOf, hf, splitFence, hcloses] at h
              cases h
          | some parts =>
              rw [splitFenceOf_of_eq_some hfence hcloses] at h
              obtain ⟨⟨tail, rest'⟩, hend, he⟩ := exists_of_map_eq_ok h
              cases he
              exact .fenced hbegin hends hfence hcloses (throughFirst?_of_splitEnd hend)

theorem splitsOff_of_split (h : split bare lines = .ok (block, rest)) :
    SplitsOff bare lines block rest := by
  cases lines with
  | nil =>
      cases h
      exact .absent rfl
  | cons first below =>
      cases hbegin : isBegin first with
      | true => exact splitsOff_of_isBegin hbegin h
      | false =>
          simp only [split, hbegin, Bool.false_eq_true, if_false] at h
          cases hopens : Fence.ofLine? first with
          | none =>
              simp only [hopens, ite_self] at h
              cases h
              exact .absent (by simp [leads, hbegin, hopens])
          | some fence =>
              cases bare with
              | false =>
                  cases h
                  exact .absent (by simp [leads, hbegin])
              | true =>
                  simp only [hopens, if_true] at h
                  obtain ⟨⟨inside, rest'⟩, hcloses, he⟩ := exists_of_map_eq_ok h
                  cases he
                  exact .bare rfl hbegin hopens (throughFirst?_of_splitFence hcloses)

theorem split_eq_ok_iff : split bare lines = .ok (block, rest) ↔ SplitsOff bare lines block rest :=
  ⟨splitsOff_of_split, SplitsOff.split_eq⟩

/-- The lines start with a block that comes to its end, or with none. -/
def Terminated (bare : Bool) (lines : List Text) : Prop :=
  ∃ block rest, SplitsOff bare lines block rest

theorem terminated_iff : Terminated bare lines ↔ ∃ parts, split bare lines = .ok parts := by
  constructor
  · rintro ⟨block, rest, h⟩
    exact ⟨(block, rest), h.split_eq⟩
  · rintro ⟨⟨block, rest⟩, h⟩
    exact ⟨block, rest, split_eq_ok_iff.mp h⟩

instance (bare : Bool) (lines : List Text) : Decidable (Terminated bare lines) :=
  match h : split bare lines with
  | .ok parts => isTrue (terminated_iff.mpr ⟨parts, h⟩)
  | .error cause => isFalse fun ht => by
      obtain ⟨parts, hp⟩ := terminated_iff.mp ht
      rw [h] at hp
      cases hp

/-! ## The lines behind a block -/

theorem SplitsOff.leads_eq_false (h : SplitsOff bare lines [] rest) :
    leads bare lines = false ∧ rest = lines := by
  cases h with
  | absent h => exact ⟨h, rfl⟩

/-- Whatever lines follow those of a block, it is split off. Where there is none, this takes lines that do
not start with one. -/
theorem SplitsOff.append (h : SplitsOff bare lines block rest) {below : List Text}
    (hb : block = [] → leads bare below = false) : SplitsOff bare (block ++ below) block below := by
  cases h with
  | absent h => exact .absent (hb rfl)
  | @unfenced first lines tail rest hbegin hends hfence hend =>
      obtain ⟨line, more, rfl⟩ := exists_cons_of_throughFirst? hend
      rw [← append_of_throughFirst? hend] at hfence
      exact .unfenced hbegin hends hfence (throughFirst?_append_left hend below)
  | fenced hbegin hends hfence hcloses hend =>
      have hcloses' := throughFirst?_append_left hcloses
      simp only [List.cons_append, List.append_assoc]
      exact .fenced hbegin hends hfence (hcloses' _) (throughFirst?_append_left hend below)
  | bare hbare hbegin hopens hcloses =>
      exact .bare hbare hbegin hopens (throughFirst?_append_left hcloses below)

end Block

end Transclude
