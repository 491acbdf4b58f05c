import Mathlib.Data.List.TakeWhile
import Transclude.Proofs.Files.Path

/-!
# File names in references

The language of a snippet may follow from the extension of a file name. The name is looked for in front of
the first question mark or number sign of a reference, behind the last slash there. For an address with a
path this is the last name of the path, and for a local path without these marks it is its last name. With
such a mark in it a local path is read as if it ended there, and for an address without a path the name of
the host is taken (`hasExtension_extension?`).
-/

namespace Transclude

theorem Text.cutLast?_append_cons {c : Char} {after : Text} (h : c ∉ after) (before : Text) :
    cutLast? c (before ++ c :: after) = some (before, after) := by
  induction before with
  | nil =>
      cases hcut : cutLast? c after with
      | none => simp [cutLast?, hcut]
      | some parts =>
          obtain ⟨rfl, -⟩ := eq_of_cutLast? hcut
          simp at h
  | cons d before ih => simp [cutLast?, ih]

theorem Text.cutLast?_eq_none_iff {c : Char} {t : Text} : cutLast? c t = none ↔ c ∉ t := by
  constructor
  · exact eq_of_cutLast?.not_mem_of_cutLast?_eq_none
  · intro h
    rw [Option.eq_none_iff_forall_not_mem]
    rintro ⟨before, after⟩ hcut
    exact h (by simp [(eq_of_cutLast? hcut).1])

namespace Path

/-! ## Names with an extension -/

/-- What follows the last slash of a path. -/
def lastName (path : Text) : Text := (names path).getLastD []

@[simp] theorem lastName_append_slash (s t : Text) : lastName (s ++ '/' :: t) = lastName t := by
  obtain ⟨name, more, h⟩ := List.exists_cons_of_ne_nil (Text.pieces_ne_nil (· == '/') t)
  have hnames : names t = name :: more := h
  rw [lastName, lastName, names_append_slash, hnames]
  simp [List.getLast?_cons]

theorem lastName_of_not_mem {t : Text} (h : '/' ∉ t) : lastName t = t := by
  simp [lastName, names_of_not_mem h]

/-- The extension of a file of this name follows the last period, with something on either side of it. -/
def IsExtension (name extension : Text) : Prop :=
  ∃ stem, name = stem ++ '.' :: extension ∧ '.' ∉ extension ∧ stem ≠ [] ∧ extension ≠ []

/-- What `extension?` gives is the extension of the last name of the path; it gives none where the name
has none. -/
def HasExtension (path : Text) (extension? : Option Text) : Prop :=
  ∀ extension, extension? = some extension ↔ IsExtension (lastName path) extension

variable {path other : Text} {extension? : Option Text}

/-- Another path has the same extension if their last names agree in it. -/
theorem HasExtension.iff (h : HasExtension path extension?) :
    HasExtension other extension? ↔
      ∀ e, IsExtension (lastName path) e ↔ IsExtension (lastName other) e :=
  forall_congr' fun e => by rw [h e]

theorem not_isExtension_nil (extension : Text) : ¬ IsExtension [] extension := by
  rintro ⟨stem, h, -⟩
  simp at h

end Path

namespace Reference

open Transclude.Path

variable {reference : Text}

theorem fileName_eq_lastName (path : Text) : fileName path = lastName path := by
  unfold fileName
  split
  · next directory name hcut =>
      obtain ⟨rfl, hslash⟩ := Text.eq_of_cutLast? hcut
      rw [lastName_append_slash, lastName_of_not_mem hslash]
  · next hcut => rw [lastName_of_not_mem (Text.cutLast?_eq_none_iff.mp hcut)]

theorem extension?_eq_some_iff {extension : Text} :
    extension? reference = some extension ↔ IsExtension (lastName (path reference)) extension := by
  rw [extension?, fileName_eq_lastName]
  constructor
  · intro h
    split at h
    · next stem after hcut =>
        split at h
        · cases h
        next hne =>
          cases h
          obtain ⟨hname, hperiod⟩ := Text.eq_of_cutLast? hcut
          simp only [Bool.or_eq_true, List.isEmpty_iff, not_or] at hne
          exact ⟨stem, hname, hperiod, hne.1, hne.2⟩
    · cases h
  · rintro ⟨stem, hname, hperiod, hstem, hextension⟩
    rw [hname, Text.cutLast?_append_cons hperiod]
    simp [hstem, hextension]

/-- The extension is looked for in front of the first question mark or number sign. -/
theorem hasExtension_path (reference : Text) : HasExtension (path reference) (extension? reference) :=
  fun _ => extension?_eq_some_iff

/-! ## Marks -/

/-- The marks that end the path of an address. -/
def isMark (c : Char) : Bool := c == '?' || c == '#'

theorem path_eq_takeWhile (reference : Text) : path reference = reference.takeWhile (!isMark ·) := by
  simp [path, isMark, Bool.not_or, bne]

theorem path_of_forall (h : ∀ c ∈ reference, isMark c = false) : path reference = reference := by
  rw [path_eq_takeWhile, List.takeWhile_eq_self_iff]
  simpa using h

theorem path_append {before after : Text} (h : ∀ c ∈ before, isMark c = false)
    (ha : ∀ c, after.head? = some c → isMark c = true) : path (before ++ after) = before := by
  rw [path_eq_takeWhile, List.takeWhile_append_of_pos (by simpa using h)]
  cases after with
  | nil => rw [List.takeWhile_nil, List.append_nil]
  | cons mark after => rw [List.takeWhile_cons_of_neg (by simp [ha mark rfl]), List.append_nil]

/-! ## Addresses -/

/-- An address consists of a scheme, a host, a path that is empty or begins with a slash, and what begins
with a mark. -/
structure IsAddress (reference host route : Text) : Prop where
  parts : ∃ scheme tail, (scheme = "http://".toList ∨ scheme = "https://".toList) ∧
    reference = scheme ++ host ++ route ++ tail ∧ ∀ c, tail.head? = some c → isMark c = true
  inHost : ∀ c ∈ host, c ≠ '/' ∧ isMark c = false
  inRoute : ∀ c ∈ route, isMark c = false
  begins : ∀ c, route.head? = some c → c = '/'

variable {host route : Text}

theorem exists_span (p : Char → Bool) (t : Text) :
    ∃ front back, t = front ++ back ∧ (∀ c ∈ front, p c = true) ∧
      ∀ c, back.head? = some c → p c = false := by
  refine ⟨t.takeWhile p, t.dropWhile p, List.takeWhile_append_dropWhile.symm,
    fun c hc => List.mem_takeWhile_imp hc, fun c hc => ?_⟩
  have hstop := List.head?_dropWhile_not p t
  rwa [hc] at hstop

/-- Every reference to a remote file is an address. -/
theorem exists_isAddress (h : isRemote reference = true) :
    ∃ host route, IsAddress reference host route := by
  obtain ⟨scheme, hscheme, rest, rfl⟩ : ∃ scheme,
      (scheme = "http://".toList ∨ scheme = "https://".toList) ∧ scheme <+: reference := by
    rcases Bool.or_eq_true_iff.mp h with h | h
    · exact ⟨_, Or.inl rfl, List.isPrefixOf_iff_prefix.mp h⟩
    · exact ⟨_, Or.inr rfl, List.isPrefixOf_iff_prefix.mp h⟩
  obtain ⟨host, below, rfl, hhost, hbelow⟩ := exists_span (fun c => c != '/' && !isMark c) rest
  obtain ⟨route, tail, rfl, hroute, htail⟩ := exists_span (!isMark ·) below
  refine ⟨host, route, ⟨scheme, tail, hscheme, by simp, ?_⟩, ?_, ?_, ?_⟩
  · simpa using htail
  · simpa using hhost
  · simpa using hroute
  · -- The path begins where the host ends, and not with a mark.
    intro c hc
    obtain ⟨more, rfl⟩ := List.head?_eq_some_iff.mp hc
    have hplain : isMark c = false := by simpa using hroute c List.mem_cons_self
    simpa [hplain] using hbelow c rfl

theorem IsAddress.lastName_path (h : IsAddress reference host route) :
    lastName (path reference) = if route = [] then host else lastName route := by
  obtain ⟨scheme, tail, hscheme, rfl, htail⟩ := h.parts
  obtain ⟨front, rfl, hfront⟩ : ∃ front, scheme = front ++ ['/'] ∧ ∀ c ∈ scheme, isMark c = false := by
    rcases hscheme with rfl | rfl
    · exact ⟨"http:/".toList, rfl, by simp [isMark]⟩
    · exact ⟨"https:/".toList, rfl, by simp [isMark]⟩
  have hread : ∀ c ∈ front ++ ['/'] ++ host ++ route, isMark c = false := by
    intro c hc
    rcases List.mem_append.mp hc with hc | hc
    · rcases List.mem_append.mp hc with hc | hc
      · exact hfront c hc
      · exact (h.inHost c hc).2
    · exact h.inRoute c hc
  have hslash : front ++ ['/'] ++ host ++ route = front ++ '/' :: (host ++ route) := by simp
  rw [path_append hread htail, hslash, lastName_append_slash]
  cases route with
  | nil =>
      rw [List.append_nil, if_pos rfl]
      exact lastName_of_not_mem fun hm => (h.inHost _ hm).1 rfl
  | cons c route =>
      obtain rfl := h.begins c rfl
      have hroute : lastName ('/' :: route) = lastName route := lastName_append_slash [] route
      rw [if_neg (List.cons_ne_nil _ _), lastName_append_slash, hroute]

/-- The extension of an address without a path is that of its host. -/
theorem IsAddress.extension?_host (h : IsAddress reference host []) (extension : Text) :
    extension? reference = some extension ↔ IsExtension host extension := by
  rw [extension?_eq_some_iff, h.lastName_path, if_pos rfl]

/-- The extension of an address is that of the last name of its path, unless there is no path and the host
seems to have one. -/
theorem IsAddress.hasExtension_iff (h : IsAddress reference host route) :
    HasExtension route (extension? reference) ↔ route ≠ [] ∨ ∀ e, ¬ IsExtension host e := by
  cases route with
  | nil =>
      have hnone : ∀ e, ¬ IsExtension (lastName []) e := not_isExtension_nil
      have hsame : HasExtension [] (extension? reference) ↔ ∀ e, ¬ IsExtension host e :=
        forall_congr' fun e => by rw [h.extension?_host e, iff_false_right (hnone e)]
      simpa using hsame
  | cons c route =>
      have hread := hasExtension_path reference
      rw [HasExtension, h.lastName_path, if_neg (List.cons_ne_nil _ _)] at hread
      exact iff_of_true hread (Or.inl (List.cons_ne_nil _ _))

/-! ## References -/

/-- The extension of a local path is that of its last name as long as no question mark and no number sign
stands in it; a path with such a mark is taken to end there. The extension of an address is that of the last
name of its path; an address without a path has that of its host. -/
theorem hasExtension_extension? (reference : Text) :
    (isRemote reference = false →
      ((∀ c ∈ reference, isMark c = false) → HasExtension reference (extension? reference)) ∧
        ∀ before mark after, reference = before ++ mark :: after → isMark mark = true →
          (∀ c ∈ before, isMark c = false) →
          HasExtension before (extension? reference) ∧
            (HasExtension reference (extension? reference) ↔
              ∀ e, IsExtension (lastName before) e ↔ IsExtension (lastName reference) e)) ∧
    (isRemote reference = true → (∃ host route, IsAddress reference host route) ∧
      ∀ host route, IsAddress reference host route →
        (HasExtension route (extension? reference) ↔ route ≠ [] ∨ ∀ e, ¬ IsExtension host e) ∧
          (route = [] → ∀ e, extension? reference = some e ↔ IsExtension host e)) := by
  have hread := hasExtension_path reference
  refine ⟨fun _ => ⟨fun hplain => ?_, ?_⟩, fun h => ⟨exists_isAddress h, fun host route ha => ?_⟩⟩
  · rwa [path_of_forall hplain] at hread
  · rintro before mark after he hmark hbefore
    have hpath : path reference = before := by
      rw [he]
      refine path_append hbefore ?_
      rintro c ⟨⟩
      exact hmark
    rw [hpath] at hread
    exact ⟨hread, hread.iff⟩
  · refine ⟨ha.hasExtension_iff, ?_⟩
    rintro rfl
    exact ha.extension?_host

theorem hasExtension_extension?_marked :
    let file := "c#/main.go".toList
    let address := "https://example.com?raw".toList
    (isRemote file = false ∧ HasExtension "c".toList (extension? file) ∧
        ¬ HasExtension file (extension? file)) ∧
      isRemote address = true ∧ IsAddress address "example.com".toList [] ∧
        extension? address = some "com".toList ∧ ¬ HasExtension [] (extension? address) := by
  intro file address
  have hlocal : isRemote file = false := by decide
  have hremote : isRemote address = true := by decide
  have haddress : IsAddress address "example.com".toList [] :=
    { parts := ⟨"https://".toList, "?raw".toList, Or.inr rfl, rfl, by rintro c ⟨⟩; rfl⟩
      inHost := by simp [isMark]
      inRoute := nofun
      begins := nofun }
  have hname : lastName file = "main.go".toList := by decide
  have hgo : IsExtension (lastName file) "go".toList :=
    ⟨"main".toList, hname, by decide, by decide, by decide⟩
  have hnone : ¬ IsExtension (lastName "c".toList) "go".toList := by
    rintro ⟨stem, he, -⟩
    have hperiod : '.' ∈ lastName "c".toList := he ▸ by simp
    exact absurd hperiod (by decide)
  have hcom : IsExtension "example.com".toList "com".toList :=
    ⟨"example".toList, rfl, by decide, by decide, by decide⟩
  obtain ⟨hread, hsame⟩ := ((hasExtension_extension? file).1 hlocal).2 "c".toList '#'
    "/main.go".toList rfl rfl (by simp [isMark])
  obtain ⟨hroute, hhost⟩ := ((hasExtension_extension? address).2 hremote).2 _ _ haddress
  refine ⟨⟨hlocal, hread, fun h => hnone ((hsame.mp h _).mpr hgo)⟩, hremote, haddress,
    (hhost rfl _).mpr hcom, fun h => ?_⟩
  exact (hroute.mp h).elim (fun hne => hne rfl) fun hall => hall _ hcom

end Reference

end Transclude
