import Transclude.Proofs.Files.Tree

/-!
# Walks along paths

Where a reference leads depends on where the directory of its document is, not on how the path of that
directory is written (`reach_resolve`, `LeadAlike.resolve`). In a tree without links in which every file has
one name, the directory of a document is the one around it, however its path is written
(`IsPlain.oneDirectory`).
-/

namespace Transclude

/-! ## Pieces -/

namespace Text

variable {p : Char → Bool} {t : Text}

theorem pieces_ne_nil (p : Char → Bool) (t : Text) : pieces p t ≠ [] := by
  cases t with
  | nil => simp [pieces]
  | cons c rest =>
      unfold pieces
      split
      · simp
      · split <;> simp

theorem pieces_append_cons {c : Char} (hc : p c = true) (s t : Text) :
    pieces p (s ++ c :: t) = pieces p s ++ pieces p t := by
  induction s with
  | nil =>
      obtain ⟨piece, more, ht⟩ := List.exists_cons_of_ne_nil (pieces_ne_nil p t)
      simp [pieces, ht, hc]
  | cons d rest ih =>
      obtain ⟨piece, more, hr⟩ := List.exists_cons_of_ne_nil (pieces_ne_nil p rest)
      simp only [List.cons_append, pieces, ih, hr]
      split <;> rfl

theorem pieces_of_forall (h : ∀ c ∈ t, p c = false) : pieces p t = [t] := by
  induction t with
  | nil => rfl
  | cons c rest ih =>
      rw [List.forall_mem_cons] at h
      simp [pieces, ih h.2, h.1]

theorem forall_of_mem_pieces {piece : Text} (h : piece ∈ pieces p t) : ∀ c ∈ piece, p c = false := by
  induction t generalizing piece with
  | nil =>
      obtain rfl := List.mem_singleton.mp h
      simp
  | cons c rest ih =>
      obtain ⟨first, more, hr⟩ := List.exists_cons_of_ne_nil (pieces_ne_nil p rest)
      rw [hr] at ih
      simp only [pieces, hr] at h
      split at h
      · rcases List.mem_cons.mp h with rfl | h
        · simp
        · exact ih h
      · next hc =>
        rcases List.mem_cons.mp h with rfl | h
        · exact List.forall_mem_cons.mpr ⟨by simpa using hc, ih List.mem_cons_self⟩
        · exact ih (List.mem_cons_of_mem _ h)

end Text

/-! ## Names -/

namespace Path

theorem names_append_slash (s t : Text) : names (s ++ '/' :: t) = names s ++ names t :=
  Text.pieces_append_cons (by decide) s t

theorem names_of_not_mem {t : Text} (h : '/' ∉ t) : names t = [t] :=
  Text.pieces_of_forall fun _ hc => beq_false_of_ne fun e => h (e ▸ hc)

theorem slash_not_mem_of_mem_names {path name : Text} (h : name ∈ names path) : '/' ∉ name :=
  fun hm => absurd (Text.forall_of_mem_pieces h '/' hm) (by decide)

theorem join_ne_nil {base : Text} (hb : base ≠ []) (name : Text) : join base name ≠ [] := by
  unfold join
  split <;> simp [hb]

theorem isAbsolute_append {base : Text} (hb : base ≠ []) (t : Text) :
    isAbsolute (base ++ t) = isAbsolute base := by
  obtain ⟨c, rest, rfl⟩ := List.exists_cons_of_ne_nil hb
  rfl

theorem resolve_of_isAbsolute {reference : Text} (h : isAbsolute reference = true) (base : Text) :
    resolve base reference = reference := if_pos h

theorem resolve_of_relative {reference : Text} (h : isAbsolute reference = false) (base : Text) :
    resolve base reference = joinAll base ((Path.names reference).filter fun name => !name.isEmpty) :=
  if_neg (by simp [h])

end Path

namespace FileTree

variable {tree : FileTree} {place next : Place} {links links' : Nat} {path path' base base' name : Text}
  {names : List Text}

/-! ## Walks -/

/-- A walk goes through what is in front, and on from where it gets to, unless a link is on the way. -/
theorem advance_append (tree : FileTree) (place : Place) (front back : List Text) :
    tree.advance place (front ++ back) =
      match tree.advance place front with
      | .error fault => .error fault
      | .ok (.arrived next) => tree.advance next back
      | .ok (.link directory target rest) => .ok (.link directory target (rest ++ back)) := by
  induction front generalizing place with
  | nil => rfl
  | cons name rest ih =>
      simp only [List.cons_append, advance]
      cases tree.step place name with
      | error fault => rfl
      | ok next =>
          simp only []
          split
          · rfl
          · exact ih next

theorem advance_nil_cons (tree : FileTree) (place : Place) (name : Text) (rest : List Text) :
    tree.advance place ([] :: name :: rest) = tree.advance place (name :: rest) := by
  rw [advance, advance]
  rcases hn : tree.node? place with _ | _ | _ | _ | _ <;> simp [step, hn, advance]

theorem walk_of_error {fault : FileFault} (h : tree.advance place names = .error fault) :
    tree.walk links place names = .error fault := by
  rw [walk, h]

theorem walk_of_arrived (h : tree.advance place names = .ok (.arrived next)) :
    tree.walk links place names = .ok ⟨next, links⟩ := by
  rw [walk, h]

theorem walk_zero_of_link {target : Text} {rest : List Text}
    (h : tree.advance place names = .ok (.link next target rest)) :
    tree.walk 0 place names = .error .tooManyLinks := by
  rw [walk, h]

theorem walk_succ_of_link {target : Text} {rest : List Text}
    (h : tree.advance place names = .ok (.link next target rest)) :
    tree.walk (links + 1) place names =
      tree.walk links (start next target) (Path.names target ++ rest) := by
  rw [walk, h]

theorem walk_congr {place' : Place} {names' : List Text}
    (h : tree.advance place names = tree.advance place' names') :
    tree.walk links place names = tree.walk links place' names' := by
  rw [walk, walk, h]

theorem walk_append (tree : FileTree) (links : Nat) (place : Place) (front back : List Text) :
    tree.walk links place (front ++ back) =
      (tree.walk links place front).bind fun stand => tree.walk stand.links stand.place back := by
  -- Each link is replaced by the names of its path, in front of what is left.
  fun_induction tree.walk links place front with
  | case1 links place front fault hf =>
      rw [walk_of_error (by rw [advance_append, hf])]
      rfl
  | case2 links place front next hf => exact walk_congr (by rw [advance_append, hf])
  | case3 place front directory target rest hf =>
      rw [walk_zero_of_link (by rw [advance_append, hf])]
      rfl
  | case4 place front directory target rest hf links ih =>
      rw [walk_succ_of_link (by rw [advance_append, hf]), ← List.append_assoc, ih]

/-- Where a walk ends does not depend on how many links it may follow, as long as they are enough. -/
theorem place_eq_of_walk {stand stand' : Stand} (h : tree.walk links place names = .ok stand)
    (h' : tree.walk links' place names = .ok stand') : stand.place = stand'.place := by
  fun_induction tree.walk links place names generalizing links' with
  | case1 => cases h
  | case2 links place names next ha =>
      cases h
      cases (walk_of_arrived ha).symm.trans h'
      rfl
  | case3 => cases h
  | case4 place names directory target rest ha links ih =>
      cases links' with
      | zero => cases (walk_zero_of_link ha).symm.trans h'
      | succ links' => exact ih h ((walk_succ_of_link ha).symm.trans h')

theorem exists_reach_of_locate (h : tree.locate path = .ok place) :
    ∃ links, tree.reach path = .ok ⟨place, links⟩ := by
  unfold locate at h
  repeat' split at h
  all_goals try cases h
  cases hr : tree.reach path with
  | error fault =>
      rw [hr] at h
      cases h
  | ok stand =>
      rw [hr] at h
      cases h
      exact ⟨stand.links, rfl⟩

theorem start_append (directory : Place) (hb : base ≠ []) (t : Text) :
    start directory (base ++ t) = start directory base := by
  simp only [start, Path.isAbsolute_append hb]

theorem reach_append_slash (hb : base ≠ []) (hn : '/' ∉ name) :
    tree.reach (base ++ '/' :: name) =
      (tree.reach base).bind fun stand => tree.walk stand.links stand.place [name] := by
  rw [reach, start_append _ hb, Path.names_append_slash, Path.names_of_not_mem hn, walk_append]
  rfl

theorem reach_join (hb : base ≠ []) (hn : '/' ∉ name) :
    tree.reach (Path.join base name) =
      (tree.reach base).bind fun stand => tree.walk stand.links stand.place [name] := by
  unfold Path.join
  split
  · -- A slash at the end of the directory leaves an empty name, for which the walk does not stop.
    next hj =>
    have hlast : base.getLast? = some '/' := by simpa [hb] using hj
    obtain ⟨front, rfl⟩ := List.getLast?_eq_some_iff.mp hlast
    have hstart : start tree.current (front ++ '/' :: name) = start tree.current (front ++ ['/']) := by
      rw [← start_append _ hb name, List.append_assoc, List.singleton_append]
    have hempty : ∀ links place, tree.walk links place ([] :: [name]) = tree.walk links place [name] :=
      fun _ place => walk_congr (tree.advance_nil_cons place name [])
    rw [List.append_assoc, List.singleton_append]
    calc tree.reach (front ++ '/' :: name)
        = tree.walk maxLinks (start tree.current (front ++ ['/'])) (Path.names front ++ [name]) := by
          rw [reach, hstart, Path.names_append_slash, Path.names_of_not_mem hn]
      _ = tree.walk maxLinks (start tree.current (front ++ ['/']))
            (Path.names front ++ [] :: [name]) := by
          simp only [walk_append, hempty]
      _ = (tree.reach (front ++ ['/'])).bind
            fun stand => tree.walk stand.links stand.place [name] := by
          rw [reach, Path.names_append_slash, ← walk_append, List.append_assoc]
          rfl
  · exact reach_append_slash hb hn

theorem reach_joinAll (hb : base ≠ []) (hn : ∀ name ∈ names, '/' ∉ name) :
    tree.reach (Path.joinAll base names) =
      (tree.reach base).bind fun stand => tree.walk stand.links stand.place names := by
  induction names generalizing base with
  | nil =>
      rw [Path.joinAll, List.foldl_nil]
      cases tree.reach base with
      | error fault => rfl
      | ok stand => exact (walk_of_arrived rfl).symm
  | cons name rest ih =>
      rw [List.forall_mem_cons] at hn
      have hjoin := ih (Path.join_ne_nil hb name) hn.2
      rw [Path.joinAll, List.foldl_cons, ← Path.joinAll, hjoin, reach_join hb hn.1]
      cases tree.reach base with
      | error fault => rfl
      | ok stand => exact (walk_append tree stand.links stand.place [name] rest).symm

/-! ## References -/

theorem reach_resolve_of_relative {reference : Text} (hb : base ≠ [])
    (h : Path.isAbsolute reference = false) :
    tree.reach (Path.resolve base reference) = (tree.reach base).bind fun stand =>
      tree.walk stand.links stand.place ((Path.names reference).filter fun name => !name.isEmpty) := by
  have hn : ∀ name ∈ (Path.names reference).filter fun name => !name.isEmpty, '/' ∉ name :=
    fun name hm => Path.slash_not_mem_of_mem_names (List.mem_filter.mp hm).1
  rw [Path.resolve_of_relative h, reach_joinAll hb hn]

theorem reach_resolve (reference : Text) (hb : base ≠ []) (hb' : base' ≠ [])
    (h : tree.reach base = tree.reach base') :
    tree.reach (Path.resolve base reference) = tree.reach (Path.resolve base' reference) := by
  cases ha : Path.isAbsolute reference with
  | true => rw [Path.resolve_of_isAbsolute ha, Path.resolve_of_isAbsolute ha]
  | false => rw [reach_resolve_of_relative hb ha, reach_resolve_of_relative hb' ha, h]

/-- The paths lead to one place, if both lead anywhere. -/
def LeadAlike (tree : FileTree) (path path' : Text) : Prop :=
  ∀ stand, tree.reach path = .ok stand → ∀ stand', tree.reach path' = .ok stand' →
    stand.place = stand'.place

/-- A reference leads to one place from directories that are one. -/
theorem LeadAlike.resolve (h : tree.LeadAlike base base') (reference : Text) (hb : base ≠ [])
    (hb' : base' ≠ []) :
    tree.LeadAlike (Path.resolve base reference) (Path.resolve base' reference) := by
  intro stand hr stand' hr'
  cases ha : Path.isAbsolute reference with
  | true =>
      rw [Path.resolve_of_isAbsolute ha] at hr hr'
      rw [Except.ok.inj (hr.symm.trans hr')]
  | false =>
      rw [reach_resolve_of_relative hb ha] at hr
      rw [reach_resolve_of_relative hb' ha] at hr'
      cases hd : tree.reach base with
      | error fault => simp [hd, Except.bind] at hr
      | ok directory =>
          cases hd' : tree.reach base' with
          | error fault => simp [hd', Except.bind] at hr'
          | ok directory' =>
              simp only [hd, hd', Except.bind] at hr hr'
              rw [h directory hd directory' hd'] at hr
              exact place_eq_of_walk hr hr'

/-- The current directory is there, and so are the directories around it, as in every file system. -/
def Rooted (tree : FileTree) : Prop :=
  ∀ place, place <+: tree.current → tree.node? place = some .directory

/-- What is around the place is there. -/
def Below (tree : FileTree) (place : Place) : Prop :=
  ∀ around, around <+: place → around ≠ place → tree.node? around = some .directory

/-- The tree has no links, and each file has one name. -/
structure IsPlain (tree : FileTree) : Prop where
  unlinked : ∀ place target, tree.node? place ≠ some (.link target)
  named : ∀ place place' number, tree.node? place = some (.file number) →
    tree.node? place' = some (.file number) → place = place'

theorem Below.of_isPrefix (h : tree.Below place) (hd : tree.node? place = some .directory) :
    ∀ around, around <+: place → tree.node? around = some .directory := by
  intro around hp
  by_cases he : around = place
  · rwa [he]
  · exact h around hp he

theorem node?_of_step (h : tree.step place name = .ok next) :
    tree.node? place = some .directory := by
  unfold step at h
  split at h
  · cases h
  · next hn => exact hn
  · cases h

/-- A name leads to an entry of the directory or to a directory. -/
theorem step_cases (h : tree.step place name = .ok next) :
    next = place ++ [name] ∨ next <+: place := by
  unfold step at h
  split at h
  · cases h
  · split at h
    · cases h
      exact Or.inr (List.prefix_refl place)
    · split at h
      · cases h
        exact Or.inr (List.dropLast_prefix place)
      · split at h
        · cases h
        · cases h
          exact Or.inl rfl
  · cases h

theorem Below.step (hb : tree.Below place) (h : tree.step place name = .ok next) :
    tree.Below next := by
  have hall := hb.of_isPrefix (node?_of_step h)
  rcases step_cases h with rfl | hp
  · intro around ha hne
    exact hall around ((List.prefix_concat_iff.mp ha).resolve_left hne)
  · exact fun around ha _ => hall around (ha.trans hp)

theorem exists_step_of_advance (h : tree.advance place (name :: names) = .ok (.arrived next)) :
    ∃ first, tree.step place name = .ok first ∧ tree.advance first names = .ok (.arrived next) := by
  rw [advance] at h
  split at h
  · cases h
  next first hs =>
    split at h
    · cases h
    · exact ⟨first, hs, h⟩

theorem Below.advance (hb : tree.Below place)
    (h : tree.advance place names = .ok (.arrived next)) : tree.Below next := by
  induction names generalizing place with
  | nil =>
      cases h
      exact hb
  | cons name rest ih =>
      obtain ⟨first, hs, ha⟩ := exists_step_of_advance h
      exact ih (hb.step hs) ha

theorem exists_node?_of_advance {target : Text} {rest : List Text}
    (h : tree.advance place names = .ok (.link next target rest)) :
    ∃ place, tree.node? place = some (.link target) := by
  induction names generalizing place with
  | nil => cases h
  | cons name names ih =>
      rw [advance] at h
      split at h
      · cases h
      next first hs =>
        split at h
        · next hl =>
          cases h
          exact ⟨first, hl⟩
        · exact ih h

theorem IsPlain.advance_of_walk (h : tree.IsPlain) {stand : Stand}
    (hw : tree.walk links place names = .ok stand) :
    tree.advance place names = .ok (.arrived stand.place) := by
  cases ha : tree.advance place names with
  | error fault => cases (walk_of_error ha).symm.trans hw
  | ok halt =>
      cases halt with
      | arrived next =>
          cases (walk_of_arrived ha).symm.trans hw
          rfl
      | link directory target rest =>
          obtain ⟨place, hn⟩ := exists_node?_of_advance ha
          exact absurd hn (h.unlinked place target)

theorem Rooted.below_start (h : tree.Rooted) (path : Text) :
    tree.Below (start tree.current path) := by
  unfold start
  split
  · exact fun around ha hne => absurd (List.prefix_nil.mp ha) hne
  · exact fun around ha _ => h around ha

/-- A walk that does not end at a directory ends with a name in one. -/
theorem advance_dropLast_of_concat (hb : tree.Below place)
    (h : tree.advance place (names ++ [name]) = .ok (.arrived next))
    (hn : tree.node? next ≠ some .directory) :
    tree.advance place names = .ok (.arrived next.dropLast) := by
  rw [advance_append] at h
  split at h
  · cases h
  · next last hw =>
    obtain ⟨_, hs, ha⟩ := exists_step_of_advance h
    cases ha
    have hlast := hb.advance hw
    rcases step_cases hs with rfl | hp
    · rw [hw, List.dropLast_concat]
    · exact absurd (hlast.of_isPrefix (node?_of_step hs) next hp) hn
  · cases h

/-- In a plain tree the directory of a document is the one around it. -/
theorem IsPlain.reach_parent (h : tree.IsPlain) (hroot : tree.Rooted) {stand : Stand}
    (hr : tree.reach path = .ok stand) (hn : tree.node? stand.place ≠ some .directory) :
    tree.reach (Path.parent path) = .ok ⟨stand.place.dropLast, maxLinks⟩ := by
  have hw := h.advance_of_walk hr
  unfold Path.parent
  split
  · next hcut =>
    have hslash := Text.eq_of_cutLast?.not_mem_of_cutLast?_eq_none hcut
    have hstart : start tree.current path = tree.current := if_neg fun ha =>
      hslash (List.mem_of_head? (beq_iff_eq.mp ha))
    rw [Path.names_of_not_mem hslash, hstart] at hw
    have ha : tree.advance tree.current [] = .ok (.arrived stand.place.dropLast) :=
      advance_dropLast_of_concat (hroot.below_start ['.']) hw hn
    have hcurrent := hroot tree.current (List.prefix_refl _)
    rw [reach, Path.names_of_not_mem (by decide)]
    exact walk_of_arrived (by simpa [advance, step, start, Path.isAbsolute, hcurrent] using ha)
  · next last hcut =>
    obtain ⟨rfl, hslash⟩ := Text.eq_of_cutLast? hcut
    rw [Path.names_append_slash, Path.names_of_not_mem hslash] at hw
    exact walk_of_arrived (advance_dropLast_of_concat (hroot.below_start _) hw hn)
  · next directory last hne hcut =>
    obtain ⟨rfl, hslash⟩ := Text.eq_of_cutLast? hcut
    rw [Path.names_append_slash, Path.names_of_not_mem hslash, start_append _ hne] at hw
    exact walk_of_arrived (advance_dropLast_of_concat (hroot.below_start directory) hw hn)

/-- In a plain tree a file lies in one directory. -/
theorem IsPlain.leadAlike_parent (h : tree.IsPlain) (hroot : tree.Rooted) {number : Nat}
    (hf : tree.file? path = some number) (hf' : tree.file? path' = some number) :
    tree.LeadAlike (Path.parent path) (Path.parent path') := by
  obtain ⟨place, hl, hn⟩ := exists_locate_of_file? hf
  obtain ⟨place', hl', hn'⟩ := exists_locate_of_file? hf'
  obtain rfl := h.named place place' number hn hn'
  obtain ⟨links, hr⟩ := exists_reach_of_locate hl
  obtain ⟨links', hr'⟩ := exists_reach_of_locate hl'
  have hparent := h.reach_parent hroot hr (by simp [hn])
  have hparent' := h.reach_parent hroot hr' (by simp [hn])
  intro stand hs stand' hs'
  rw [← Except.ok.inj (hparent.symm.trans hs), ← Except.ok.inj (hparent'.symm.trans hs')]

/-- Paths of one file are paths of files in one directory. -/
def OneDirectory (tree : FileTree) (paths : List Text) : Prop :=
  ∀ path ∈ paths, ∀ number, tree.file? path = some number → ∀ path' ∈ paths,
    tree.file? path' = some number → tree.LeadAlike (Path.parent path) (Path.parent path')

theorem IsPlain.oneDirectory (h : tree.IsPlain) (hroot : tree.Rooted) (paths : List Text) :
    tree.OneDirectory paths :=
  fun _ _ _ hf _ _ hf' => h.leadAlike_parent hroot hf hf'

/-! ## Trees of files -/

/-- Whether a directory has an entry of this name: the empty name, a period and two periods are none. -/
def IsName (name : Text) : Prop :=
  name ≠ [] ∧ name ≠ ['.'] ∧ name ≠ ['.', '.'] ∧ Text.utf8Size name ≤ maxNameSize

instance : DecidablePred IsName := fun _ => inferInstanceAs (Decidable (_ ∧ _ ∧ _ ∧ _))

theorem step_of_isName (hn : IsName name) (hd : tree.node? place = some .directory) :
    tree.step place name = .ok (place ++ [name]) := by
  obtain ⟨hempty, hdot, hdots, hsize⟩ := hn
  simp [step, hd, hempty, hdot, hdots, Nat.not_lt.mpr hsize]

theorem node?_set_of_ne {other : Place} {node : Node} (ho : tree.node? other ≠ some .directory)
    (hne : tree.node? place ≠ tree.node? other) :
    (tree.set other node).node? place = tree.node? place := by
  have hnil : other ≠ [] := by
    rintro rfl
    exact ho rfl
  rw [node?_set _ _ _ _ hnil, if_neg]
  rintro rfl
  exact hne rfl

theorem node?_makeDirectories_of_some {node : Node} (names : List Text) (other : Place)
    (h : tree.node? place = some node) :
    (tree.makeDirectories other names).node? place = some node := by
  induction names generalizing tree other with
  | nil => exact h
  | cons name rest ih =>
      unfold makeDirectories
      split
      · exact h
      next next hs =>
        refine ih next ?_
        split
        · exact h
        next hnone =>
          rw [Option.not_isSome_iff_eq_none] at hnone
          rw [node?_set_of_ne (by simp [hnone]) (by simp [hnone, h]), h]

theorem sameShape_writeFile (tree : FileTree) (disk : Disk) (number : Nat) (content : Bytes) :
    tree.SameShape (tree.writeFile disk number content).1 := by
  unfold writeFile
  split
  · exact sameShape_withContent tree number content
  · next refusal hr =>
    cases refusal.left with
    | none => exact .refl tree
    | some left => exact sameShape_withContent tree number left

theorem node?_write_of_some {node : Node} (disk : Disk) (path : Text) (content : Bytes)
    (h : tree.node? place = some node) :
    (tree.write disk path content).1.node? place = some node := by
  unfold write
  split
  · exact h
  next other hl =>
    split
    · exact h
    · exact h
    · exact h
    · rwa [node?_of_sameShape (sameShape_writeFile tree disk _ content)]
    · next hnone =>
      rw [node?_of_sameShape (sameShape_writeFile _ disk _ content),
        node?_set_of_ne (by simp [hnone]) (by simp [hnone, h]), h]

theorem current_write (tree : FileTree) (disk : Disk) (path : Text) (content : Bytes) :
    (tree.write disk path content).1.current = tree.current := by
  unfold write
  repeat' split
  all_goals first | rfl | exact (sameShape_writeFile _ disk _ content).current

theorem current_makeDirectories (tree : FileTree) (place : Place) (names : List Text) :
    (tree.makeDirectories place names).current = tree.current := by
  induction names generalizing tree place with
  | nil => rfl
  | cons name rest ih =>
      unfold makeDirectories
      split
      · rfl
      · rw [ih]
        split <;> rfl

theorem Rooted.put (h : tree.Rooted) (path : Text) (content : Bytes) :
    (tree.put path content).Rooted := by
  intro place hp
  rw [FileTree.put, current_write, current_makeDirectories] at hp
  exact node?_write_of_some _ _ _ (node?_makeDirectories_of_some _ _ (h place hp))

theorem Rooted.foldl_put (h : tree.Rooted) (files : List (Text × Bytes)) :
    (files.foldl (fun tree file => tree.put file.1 file.2) tree).Rooted := by
  induction files generalizing tree with
  | nil => exact h
  | cons file rest ih => exact ih (h.put file.1 file.2)

/-- Directories are made at all places on the way, if there are no files on it. -/
theorem node?_makeDirectories {names : List Text} (hn : ∀ name ∈ names, IsName name)
    (hd : tree.node? place = some .directory)
    (hfree : ∀ front, front <+: names → ∀ node,
      tree.node? (place ++ front) = some node → node = .directory) :
    ∀ front, front <+: names →
      (tree.makeDirectories place names).node? (place ++ front) = some .directory := by
  induction names generalizing tree place with
  | nil =>
      intro front hp
      obtain rfl := List.prefix_nil.mp hp
      rwa [List.append_nil]
  | cons name rest ih =>
      rw [List.forall_mem_cons] at hn
      intro front hp
      cases front with
      | nil =>
          rw [List.append_nil]
          exact node?_makeDirectories_of_some _ _ hd
      | cons first more =>
          obtain ⟨rfl, hmore⟩ := List.cons_prefix_cons.mp hp
          have hbelow : ∀ front, front <+: rest → ∀ node,
              tree.node? (place ++ [first] ++ front) = some node → node = .directory := by
            intro front hf node hnode
            rw [← List.append_cons] at hnode
            exact hfree (first :: front) (List.cons_prefix_cons.mpr ⟨rfl, hf⟩) node hnode
          rw [List.append_cons]
          simp only [makeDirectories, step_of_isName hn.1 hd]
          cases hnext : tree.node? (place ++ [first]) with
          | some node =>
              obtain rfl := hbelow [] List.nil_prefix node (by rwa [List.append_nil])
              exact ih hn.2 hnext hbelow more hmore
          | none =>
              have hset := fun other => node?_set tree (place ++ [first]) other .directory (by simp)
              simp only [Option.isSome_none, Bool.false_eq_true, if_false]
              refine ih hn.2 (by rw [hset, if_pos rfl]) (fun front hf node hnode => ?_) more hmore
              rw [hset] at hnode
              split at hnode
              · exact (Option.some.inj hnode).symm
              · exact hbelow front hf node hnode

/-- The current directory of a tree of files is there, unless the file that is always empty is above it. -/
theorem rooted_ofFiles {current : Place} (hn : ∀ name ∈ current, IsName name)
    (hnull : ¬ ["dev".toList, "null".toList] <+: current) (files : List (Text × Bytes)) :
    (ofFiles current files).Rooted := by
  have hbare : ∀ front, front <+: current → ∀ node,
      bare.node? ([] ++ front) = some node → node = .directory := by
    intro front hf node hnode
    have hne : front ≠ ["dev".toList, "null".toList] := fun e => hnull (e ▸ hf)
    simp only [node?, bare, List.nil_append, List.lookup_cons, List.lookup_nil] at hnode
    split at hnode
    · exact (Option.some.inj hnode).symm
    · split at hnode
      · exact (Option.some.inj hnode).symm
      · split at hnode
        · next he => exact absurd (beq_iff_eq.mp he) hne
        · cases hnode
  have hmade : Rooted { bare.makeDirectories [] current with current } := fun place hp =>
    node?_makeDirectories hn rfl hbare place hp
  exact hmade.foldl_put files

end FileTree

end Transclude
