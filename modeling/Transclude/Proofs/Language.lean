import Mathlib.Data.List.Induction
import Mathlib.Data.List.Nodup
import Transclude.Config

/-!
# Overrides in any order

The table of overrides has no order of its own. As long as its extensions differ in more than case and
leading periods, each override counts (`override?_ofOverrides_eq_some_iff`), in whatever order they are gone
through (`options_eq_options`). Of extensions that do not differ in more, the last one gone through counts.
-/

namespace Transclude

namespace Languages

variable {entries others : List (Text × Text)} {extension language : Text}

/-- The extensions of overrides differ in more than case and leading periods. -/
def Distinct (entries : List (Text × Text)) : Prop := (entries.map fun entry => key entry.1).Nodup

instance (entries : List (Text × Text)) : Decidable (Distinct entries) :=
  inferInstanceAs (Decidable (List.Nodup _))

theorem Distinct.of_perm (h : Distinct entries) (hp : others.Perm entries) : Distinct others :=
  (hp.map _).nodup_iff.mpr h

theorem ofOverrides_concat (entries : List (Text × Text)) (entry : Text × Text) :
    ofOverrides (entries ++ [entry]) = (ofOverrides entries).withOverride entry :=
  List.foldl_concat ..

theorem override?_withOverride (languages : Languages) (entry : Text × Text) (extension : Text) :
    (languages.withOverride entry).override? extension =
      if extension = key entry.1 then some entry.2 else languages.override? extension := rfl

/-- Every override counts. -/
theorem override?_ofOverrides_eq_some_iff (h : Distinct entries) :
    (ofOverrides entries).override? extension = some language ↔
      ∃ entry ∈ entries, key entry.1 = extension ∧ entry.2 = language := by
  induction entries using List.reverseRecOn with
  | nil => simp [ofOverrides]
  | append_singleton front last ih =>
      rw [Distinct, List.map_append, List.nodup_append'] at h
      obtain ⟨hfront, -, hdisjoint⟩ := h
      simp only [List.map_singleton, List.disjoint_singleton, List.mem_map, not_exists, not_and]
        at hdisjoint
      have hsplit : ∀ p : Text × Text → Prop,
          (∃ entry ∈ front ++ [last], p entry) ↔ (∃ entry ∈ front, p entry) ∨ p last := by
        simp [or_and_right, exists_or]
      rw [ofOverrides_concat, hsplit, override?_withOverride]
      by_cases he : extension = key last.1
      · -- The last override is the only one for its extension.
        have hnone : ¬ ∃ entry ∈ front, key entry.1 = extension ∧ entry.2 = language := by
          rintro ⟨entry, hm, hk, -⟩
          exact hdisjoint entry hm (hk.trans he)
        rw [if_pos he, or_iff_right hnone, Option.some.injEq, and_iff_right he.symm]
      · rw [if_neg he, ih hfront, or_iff_left fun h => he h.1.symm]

/-- The order of overrides does not matter. -/
theorem ofOverrides_eq_of_perm (h : Distinct entries) (hp : others.Perm entries) :
    ofOverrides others = ofOverrides entries := by
  have hall : (ofOverrides others).override? = (ofOverrides entries).override? := by
    funext extension
    refine Option.ext fun language => ?_
    simp only [override?_ofOverrides_eq_some_iff h, override?_ofOverrides_eq_some_iff (h.of_perm hp),
      hp.mem_iff]
  exact congrArg Languages.mk hall

end Languages

/-- A configuration gives the same options in every run. -/
theorem Config.options_eq_options {config : Config} (h : Languages.Distinct config.languages)
    (order order' : Order) : config.options order = config.options order' := by
  have hp := (order.perm config.languages).trans (order'.perm config.languages).symm
  have hd := h.of_perm (order'.perm config.languages)
  rw [options, options, Languages.ofOverrides_eq_of_perm hd hp]

/-- Extensions that differ in case alone take the place of one another. -/
example : (Languages.ofOverrides [("go".toList, "a".toList), ("GO".toList, "b".toList)]).override?
    "go".toList = some "b".toList := by decide

end Transclude
