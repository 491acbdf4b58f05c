import Transclude.Proofs.Files.Source

/-!
# The current directory by two paths

A period leads to the current directory, and so does the full path of that directory. A reference stands
for one place from both, and for one content unless the path from the one is too long and the path from
the other is not (`fetcher_currentPath`).
-/

namespace Transclude

namespace Path

variable {base : Text} {c : Char}

theorem mem_join_iff (hc : c ≠ '/') (base name : Text) : c ∈ join base name ↔ c ∈ base ∨ c ∈ name := by
  unfold join
  split
  · exact List.mem_append
  · simp [hc]

/-- Apart from slashes a path has the characters of its names. -/
theorem mem_joinAll_iff (hc : c ≠ '/') (base : Text) (names : List Text) :
    c ∈ joinAll base names ↔ c ∈ base ∨ ∃ name ∈ names, c ∈ name := by
  induction names generalizing base with
  | nil => simp [joinAll]
  | cons name rest ih =>
      rw [joinAll, List.foldl_cons, ← joinAll, ih, mem_join_iff hc, or_assoc]
      simp

theorem joinAll_ne_nil (hb : base ≠ []) (names : List Text) : joinAll base names ≠ [] := by
  induction names generalizing base with
  | nil => exact hb
  | cons name rest ih => exact ih (join_ne_nil hb name)

end Path

namespace FileTree

variable {tree : FileTree} {path path' reference : Text} {place : Place}

/-! ## Where the current directory is -/

/-- The current directory is there, and its full path can be written: the names on the way are those of
entries. -/
structure HasCurrent (tree : FileTree) : Prop where
  rooted : tree.Rooted
  isName : ∀ name ∈ tree.current, IsName name
  slash_not_mem : ∀ name ∈ tree.current, '/' ∉ name
  nul_not_mem : ∀ name ∈ tree.current, '\x00' ∉ name

theorem Rooted.reach_period (h : tree.Rooted) : tree.reach ['.'] = .ok ⟨tree.current, maxLinks⟩ := by
  have hd := h tree.current (List.prefix_refl _)
  rw [reach, Path.names_of_not_mem (by decide)]
  exact walk_of_arrived (by simp [advance, step, start, Path.isAbsolute, hd])

/-- A walk along names of entries through directories gets to the end. -/
theorem advance_of_isName {names : List Text} (hn : ∀ name ∈ names, IsName name)
    (hd : ∀ front, front <+: names → tree.node? (place ++ front) = some .directory) :
    tree.advance place names = .ok (.arrived (place ++ names)) := by
  induction names generalizing place with
  | nil => rw [advance, List.append_nil]
  | cons name rest ih =>
      rw [List.forall_mem_cons] at hn
      have hbelow : ∀ front, front <+: rest →
          tree.node? (place ++ [name] ++ front) = some .directory := fun front hf => by
        rw [List.append_assoc, List.singleton_append]
        exact hd (name :: front) (List.cons_prefix_cons.mpr ⟨rfl, hf⟩)
      have hplace : tree.node? place = some .directory := by simpa using hd [] List.nil_prefix
      have hnext : tree.node? (place ++ [name]) = some .directory := by
        simpa using hbelow [] List.nil_prefix
      simp only [advance, step_of_isName hn.1 hplace, hnext, ih hn.2 hbelow, List.append_assoc,
        List.singleton_append]

theorem HasCurrent.reach_currentPath (h : tree.HasCurrent) :
    tree.reach tree.currentPath = .ok ⟨tree.current, maxLinks⟩ := by
  have hroot : tree.reach ['/'] = .ok ⟨[], maxLinks⟩ := rfl
  rw [currentPath, reach_joinAll (by simp) h.slash_not_mem, hroot]
  exact walk_of_arrived (advance_of_isName h.isName h.rooted)

theorem HasCurrent.nul_not_mem_currentPath (h : tree.HasCurrent) : '\x00' ∉ tree.currentPath := by
  rw [currentPath, Path.mem_joinAll_iff (by decide)]
  rintro (hm | ⟨name, hname, hm⟩)
  · exact absurd hm (by decide)
  · exact h.nul_not_mem name hname hm

theorem currentPath_ne_nil (tree : FileTree) : tree.currentPath ≠ [] :=
  Path.joinAll_ne_nil (by simp) tree.current

/-! ## Where references lead -/

/-- Paths that are followed to one place lead there, as far as both can be followed. -/
theorem locate_eq_of_reach (hr : tree.reach path = tree.reach path') (hne : path ≠ [])
    (hne' : path' ≠ []) (hnul : '\x00' ∈ path ↔ '\x00' ∈ path')
    (hsize : Text.utf8Size path ≤ maxPathSize ↔ Text.utf8Size path' ≤ maxPathSize) :
    tree.locate path = tree.locate path' := by
  have hlong : maxPathSize < Text.utf8Size path ↔ maxPathSize < Text.utf8Size path' := by
    simpa only [Nat.not_le] using not_congr hsize
  simp [locate, hne, hne', hnul, hlong, hr]

theorem read_eq_of_locate (h : tree.locate path = tree.locate path') : tree.read path = tree.read path' := by
  simp only [read, find, h]

/-- From the current directory's own path a reference can be followed just where it can be from a period:
the paths for it are both short enough or both too long. -/
def FitsAlike (tree : FileTree) (reference : Text) : Prop :=
  Text.utf8Size (Path.resolve tree.currentPath reference) ≤ maxPathSize ↔
    Text.utf8Size (Path.resolve ['.'] reference) ≤ maxPathSize

instance (tree : FileTree) : DecidablePred tree.FitsAlike := fun _ =>
  inferInstanceAs (Decidable (_ ↔ _))

theorem HasCurrent.locate_currentPath (h : tree.HasCurrent) (hfits : tree.FitsAlike reference) :
    tree.locate (Path.resolve tree.currentPath reference) =
      tree.locate (Path.resolve ['.'] reference) := by
  have hreach := h.reach_currentPath.trans h.rooted.reach_period.symm
  cases ha : Path.isAbsolute reference with
  | true => rw [Path.resolve_of_isAbsolute ha, Path.resolve_of_isAbsolute ha]
  | false =>
      have hresolve : tree.reach (Path.resolve tree.currentPath reference) = _ :=
        reach_resolve reference (currentPath_ne_nil tree) (by simp) hreach
      rw [FitsAlike] at hfits
      rw [Path.resolve_of_relative ha, Path.resolve_of_relative ha] at hresolve hfits ⊢
      refine locate_eq_of_reach hresolve (Path.joinAll_ne_nil (currentPath_ne_nil tree) _)
        (Path.joinAll_ne_nil (by simp) _) ?_ hfits
      rw [Path.mem_joinAll_iff (by decide), Path.mem_joinAll_iff (by decide)]
      exact or_congr_left (iff_of_false h.nul_not_mem_currentPath (by decide))

/-- From both paths of the current directory a reference to a file stands for one content. -/
theorem HasCurrent.fetcher_currentPath (h : tree.HasCurrent)
    (hremote : Reference.isRemote reference = false) (hfits : tree.FitsAlike reference)
    (network : Network) (options : FetchOptions) :
    tree.fetcher network options tree.currentPath reference =
      tree.fetcher network options ['.'] reference := by
  simp only [fetcher, contentAt_of_local _ _ _ _ hremote, read_eq_of_locate (h.locate_currentPath hfits)]

end FileTree

end Transclude
