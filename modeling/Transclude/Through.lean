/-!
# Lists up to an element

A list is split after the first element that has a property. The two parts are the list
(`append_of_throughFirst?`), and the first is not empty, so the second is shorter.
-/

namespace Transclude

/-- The list up to and with the first element that satisfies `p`, and what follows it. -/
def throughFirst? (p : α → Bool) : List α → Option (List α × List α)
  | [] => none
  | a :: rest =>
    if p a then some ([a], rest)
    else (throughFirst? p rest).map fun (taken, left) => (a :: taken, left)

/-- The parts of a split list are the list. -/
theorem append_of_throughFirst? {p : α → Bool} {list taken left : List α}
    (h : throughFirst? p list = some (taken, left)) : taken ++ left = list := by
  induction list generalizing taken left with
  | nil => cases h
  | cons a rest ih =>
    unfold throughFirst? at h
    split at h
    · obtain ⟨rfl, rfl⟩ := by simpa using h
      rfl
    · obtain ⟨⟨t, l⟩, ht, he⟩ := Option.map_eq_some_iff.mp h
      cases he
      exact congrArg (a :: ·) (ih ht)

/-- What is taken ends with the only element in it that satisfies `p`. -/
theorem exists_of_throughFirst? {p : α → Bool} {list taken left : List α}
    (h : throughFirst? p list = some (taken, left)) :
    ∃ before a, taken = before ++ [a] ∧ p a = true ∧ ∀ b ∈ before, p b = false := by
  induction list generalizing taken left with
  | nil => cases h
  | cons a rest ih =>
    unfold throughFirst? at h
    split at h
    · next ha =>
      obtain ⟨rfl, rfl⟩ := by simpa using h
      exact ⟨[], a, rfl, ha, by simp⟩
    · next ha =>
      obtain ⟨⟨t, l⟩, ht, he⟩ := Option.map_eq_some_iff.mp h
      cases he
      obtain ⟨before, b, rfl, hb, hall⟩ := ih ht
      exact ⟨a :: before, b, rfl, hb, by simpa [ha] using hall⟩

/-- A list cannot be split where no element satisfies `p`. -/
theorem throughFirst?_eq_none_iff {p : α → Bool} {list : List α} :
    throughFirst? p list = none ↔ ∀ a ∈ list, p a = false := by
  induction list with
  | nil => simp [throughFirst?]
  | cons a rest ih =>
    unfold throughFirst?
    split
    · next ha => simp [ha]
    · next ha => simp [ih, ha]

end Transclude
