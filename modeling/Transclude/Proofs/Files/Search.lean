import Mathlib.Data.Char
import Mathlib.Data.List.Forall2
import Mathlib.Data.List.Lex
import Mathlib.Data.List.TakeDrop
import Transclude.Files.Search
import Transclude.Proofs.Reference

/-!
# What a search finds

In a tree without rules a search goes by names alone: it finds each file below its directory that is named
like a document, unless a name on the way to it is hidden (`mem_documentsBelow_iff`). Each is found once, and
the names on the way decide on the order (`pairwise_documentsBelow`). So it is known what paths stand for,
one by one (`collect_eq_iff`).
-/

namespace Transclude

/-! ## Names -/

namespace Path

/-- The name of a document has one of two extensions, in letters of either case. -/
def IsDocumentName (name : Text) : Prop :=
  ∃ extension, IsExtension name extension ∧
    (Text.toAsciiLower extension = "md".toList ∨ Text.toAsciiLower extension = "markdown".toList)

theorem isDocumentName_iff {name : Text} : isDocumentName name = true ↔ IsDocumentName name := by
  have hlower : ∀ extension, documentExtensions.contains (Text.toAsciiLower extension) = true ↔
      (Text.toAsciiLower extension = "md".toList ∨
        Text.toAsciiLower extension = "markdown".toList) := by
    intro extension
    simp only [documentExtensions, List.contains_cons, List.contains_nil, Bool.or_false, Bool.or_eq_true,
      beq_iff_eq]
  unfold isDocumentName
  constructor
  · intro h
    split at h
    · next stem extension hcut =>
      obtain ⟨hname, hperiod⟩ := Text.eq_of_cutLast? hcut
      rw [Bool.and_eq_true, Bool.not_eq_true', List.isEmpty_eq_false_iff, hlower] at h
      refine ⟨extension, ⟨stem, hname, hperiod, h.1, ?_⟩, h.2⟩
      rintro rfl
      rcases h.2 with he | he <;> cases he
    · cases h
  · rintro ⟨extension, ⟨stem, rfl, hperiod, hstem, -⟩, hmarkdown⟩
    rw [Text.cutLast?_append_cons hperiod]
    simp only [(hlower extension).mpr hmarkdown, Bool.and_true, Bool.not_eq_true',
      List.isEmpty_eq_false_iff]
    exact hstem

end Path

namespace FileTree

variable {tree : FileTree} {base place : Place} {names : List Text}

/-! ## Order -/

theorem nameLe_eq_false_iff {s t : Text} : nameLe s t = false ↔ t < s := by
  fun_induction nameLe s t with
  | case1 t => simp
  | case2 c s => simp
  | case3 c s t ih => simp [ih]
  | case4 c s d t he => simp [List.cons_lt_cons_iff, Ne.symm he, le_iff_lt_or_eq]

theorem namesLe_eq_false_iff {names others : List Text} : namesLe names others = false ↔ others < names := by
  fun_induction namesLe names others with
  | case1 others => simp
  | case2 s names => simp
  | case3 s names others ih => simp [ih]
  | case4 s names t others he => simp [List.cons_lt_cons_iff, Ne.symm he, nameLe_eq_false_iff]

theorem namesLe_iff {names others : List Text} : namesLe names others = true ↔ names ≤ others := by
  rw [← not_lt, ← namesLe_eq_false_iff, Bool.not_eq_false]

/-- Sorted names come in order, and what comes once comes before what is behind it. -/
theorem pairwise_mergeSort_namesLe {l : List (List Text)} (h : l.Nodup) :
    (l.mergeSort namesLe).Pairwise (· < ·) := by
  have hsorted : (l.mergeSort namesLe).Pairwise fun names others => namesLe names others = true := by
    refine List.pairwise_mergeSort (fun a b c hab hbc => ?_) (fun a b => ?_) l
    · exact namesLe_iff.mpr (le_trans (namesLe_iff.mp hab) (namesLe_iff.mp hbc))
    · rw [Bool.or_eq_true, namesLe_iff, namesLe_iff]
      exact le_total a b
  have hnodup : (l.mergeSort namesLe).Pairwise (· ≠ ·) := (List.mergeSort_perm l namesLe).nodup_iff.mpr h
  exact (hsorted.and hnodup).imp fun ⟨hle, hne⟩ => lt_of_le_of_ne (namesLe_iff.mp hle) hne

/-! ## Trees without rules -/

/-- The names of files and directories that hold rules. -/
def ruleNames : List Text := [".ignore".toList, ".gitignore".toList, ".git".toList]

/-- No entry of the tree has a name of files or directories with rules. -/
def WithoutRules (tree : FileTree) : Prop :=
  ∀ entry ∈ tree.nodes, ∀ name ∈ ruleNames, entry.1.getLast? ≠ some name

instance (tree : FileTree) : Decidable tree.WithoutRules :=
  inferInstanceAs (Decidable (∀ entry ∈ tree.nodes, ∀ name ∈ ruleNames, entry.1.getLast? ≠ some name))

theorem node?_eq_some_iff {node : Node} (hne : place ≠ []) :
    tree.node? place = some node ↔ (place, node) ∈ tree.nodes := by
  rw [node?, if_neg (by simpa using hne), List.lookup_eq_some_iff]
  constructor
  · rintro ⟨front, back, he, -⟩
    simp [he]
  · intro hm
    obtain ⟨front, back, he⟩ := List.append_of_mem hm
    refine ⟨front, back, he, fun entry hentry => bne_iff_ne.mpr ?_⟩
    rintro rfl
    have hdistinct := tree.distinct
    rw [he, List.map_append, List.nodup_append] at hdistinct
    exact hdistinct.2.2 entry.1 (List.mem_map_of_mem hentry) entry.1 List.mem_cons_self rfl

theorem WithoutRules.node?_eq_none (h : tree.WithoutRules) {name : Text} (hn : name ∈ ruleNames)
    (directory : Place) : tree.node? (directory ++ [name]) = none := by
  rw [Option.eq_none_iff_forall_ne_some]
  intro node hnode
  exact h _ ((node?_eq_some_iff (by simp)).mp hnode) name hn (by simp)

/-- Names that begin with one of a file or directory of rules lead nowhere. -/
theorem WithoutRules.findFrom_eq_none (h : tree.WithoutRules) {name : Text} (hn : name ∈ ruleNames)
    (directory : Place) : tree.findFrom directory [name] = none := by
  have hname : IsName name := by
    have hall : ∀ name ∈ ruleNames, IsName name := by decide
    exact hall name hn
  unfold findFrom
  cases hd : tree.node? directory with
  | some node =>
      cases node with
      | directory =>
          have hnone := h.node?_eq_none hn directory
          have hw : tree.advance directory [name] = .ok (.arrived (directory ++ [name])) := by
            simp only [advance, step_of_isName hname hd, hnone]
          simp only [walk_of_arrived hw, hnone]
      | file number | null | link target =>
          have hw : tree.advance directory [name] = .error .notDirectory := by
            simp only [advance, step, hd]
          simp only [walk_of_error hw]
  | none =>
      have hw : tree.advance directory [name] = .error .notFound := by simp only [advance, step, hd]
      simp only [walk_of_error hw]

theorem rules_eq_nil {directory : Place} {names : List Text}
    (h : tree.findFrom directory names = none) : tree.rules directory names = [] := by
  rw [rules, h]
  rfl

theorem verdictIn?_eq_none {name : List Text} {isDirectory : Bool} {directories : List (Place × List Text)}
    (h : ∀ directory, tree.findFrom directory name = none) :
    tree.verdictIn? directories name isDirectory = none := by
  rw [verdictIn?, List.findSome?_eq_none_iff]
  rintro ⟨directory, names⟩ -
  simp only [rules_eq_nil (h directory)]
  rfl

theorem WithoutRules.inRepository_eq_nil (h : tree.WithoutRules) (directories : List (Place × List Text)) :
    tree.inRepository directories = [] := by
  have hnone : ∀ directory, tree.isRepository directory = false := fun directory => by
    rw [isRepository, h.findFrom_eq_none (by decide) directory]
    rfl
  have hspan : directories.span (fun entry => !tree.isRepository entry.1) = (directories, []) := by
    simp [List.span_eq_takeWhile_dropWhile, hnone]
  rw [inRepository, hspan]

/-- Without rules an entry is seen if its name is not hidden. -/
theorem WithoutRules.isVisible_eq (h : tree.WithoutRules) (place : Place) (isDirectory : Bool) :
    tree.isVisible place isDirectory = !isHidden (place.getLastD []) := by
  have hignore : ∀ directories, tree.verdictIn? directories [".ignore".toList] isDirectory = none :=
    fun _ => verdictIn?_eq_none fun directory => h.findFrom_eq_none (by decide) directory
  have hnone : ∀ name, tree.verdictIn? [] name isDirectory = none := fun _ => rfl
  simp only [isVisible, verdict?, h.inRepository_eq_nil, hignore, hnone]
  rfl

/-- Without rules a search goes where no name on the way is hidden. -/
theorem WithoutRules.reaches_iff (h : tree.WithoutRules) :
    tree.reaches base names = true ↔ ∀ name ∈ names, name.head? ≠ some '.' := by
  have hlast : ∀ n (hn : n < names.length), (base ++ names.take (n + 1)).getLastD [] = names[n] := by
    intro n hn
    rw [← List.take_append_getElem hn, ← List.append_assoc, List.getLastD_concat]
  simp only [reaches, h.isVisible_eq, List.all_eq_true, List.mem_range]
  rw [List.forall_mem_iff_forall_getElem]
  refine forall₂_congr fun n hn => ?_
  rw [hlast n hn, isHidden, Bool.not_eq_true', beq_eq_false_iff_ne]

/-! ## Documents below a directory -/

theorem documentNames?_eq_some_iff {entry : Place × Node} :
    tree.documentNames? base entry = some names ↔
      (∃ number, entry = (base ++ names, .file number)) ∧
        Path.isDocumentName (names.getLastD []) = true ∧ tree.reaches base names = true := by
  constructor
  · intro h
    unfold documentNames? at h
    split at h
    · next place number =>
      split at h
      · cases h
      next found hprefix =>
        split at h
        · next hfound =>
          cases h
          obtain rfl := List.isPrefixOf?_eq_some_iff_append_eq.mp hprefix
          exact ⟨⟨number, rfl⟩, Bool.and_eq_true_iff.mp hfound⟩
        · cases h
    · cases h
  · rintro ⟨⟨number, rfl⟩, hnamed, hreaches⟩
    have hprefix : base.isPrefixOf? (base ++ names) = some names :=
      List.isPrefixOf?_eq_some_iff_append_eq.mpr rfl
    simp only [documentNames?, hprefix, hnamed, hreaches]
    rfl

/-- From `base` the names lead to a file that is named like a document, and none of them is hidden. -/
structure IsDocumentBelow (tree : FileTree) (base : Place) (names : List Text) : Prop where
  isFile : ∃ number, tree.node? (base ++ names) = some (.file number)
  isNamed : ∃ name, names.getLast? = some name ∧ Path.IsDocumentName name
  isSeen : ∀ name ∈ names, name.head? ≠ some '.'

theorem isDocumentName_getLastD_iff :
    Path.isDocumentName (names.getLastD []) = true ↔
      ∃ name, names.getLast? = some name ∧ Path.IsDocumentName name := by
  rw [Path.isDocumentName_iff, List.getLastD_eq_getLast?]
  cases names.getLast? with
  | none =>
      refine iff_of_false ?_ (by simp)
      rintro ⟨extension, hextension, -⟩
      exact Path.not_isExtension_nil extension hextension
  | some name => simp

/-- Without rules the names of documents decide on what is found below a directory. -/
theorem WithoutRules.mem_documentsBelow_iff (h : tree.WithoutRules) :
    names ∈ tree.documentsBelow base ↔ tree.IsDocumentBelow base names := by
  rw [documentsBelow, List.mem_mergeSort, List.mem_filterMap]
  constructor
  · rintro ⟨entry, hm, he⟩
    obtain ⟨⟨number, rfl⟩, hnamed, hreaches⟩ := documentNames?_eq_some_iff.mp he
    have hnamed := isDocumentName_getLastD_iff.mp hnamed
    refine ⟨⟨number, (node?_eq_some_iff ?_).mpr hm⟩, hnamed, h.reaches_iff.mp hreaches⟩
    obtain ⟨name, hlast, -⟩ := hnamed
    rintro hnil
    simp [(List.append_eq_nil_iff.mp hnil).2] at hlast
  · rintro ⟨⟨number, hfile⟩, hnamed, hseen⟩
    have hne : base ++ names ≠ [] := by
      rintro hnil
      rw [hnil] at hfile
      cases hfile
    exact ⟨_, (node?_eq_some_iff hne).mp hfile, documentNames?_eq_some_iff.mpr
      ⟨⟨number, rfl⟩, isDocumentName_getLastD_iff.mpr hnamed, h.reaches_iff.mpr hseen⟩⟩

/-- Each document below a directory is found once, and the names on the way put them in order. -/
theorem pairwise_documentsBelow (tree : FileTree) (base : Place) :
    (tree.documentsBelow base).Pairwise (· < ·) := by
  refine pairwise_mergeSort_namesLe ((List.pairwise_map.mp tree.distinct).filterMap _ ?_)
  intro entry entry' hne names hnames names' hnames' he
  obtain ⟨⟨number, rfl⟩, -⟩ := documentNames?_eq_some_iff.mp hnames
  obtain ⟨⟨number', rfl⟩, -⟩ := documentNames?_eq_some_iff.mp hnames'
  exact hne (he ▸ rfl)

/-! ## Paths -/

/-- What a path stands for: itself, or the documents below the directory that it leads to. -/
inductive StandsFor (tree : FileTree) (path : Text) : List Text → Prop
  | itself (h : tree.isDirectory path = false) : StandsFor tree path [path]
  | below {base : Place} {found : List (List Text)} (hl : tree.locate path = .ok base)
      (hd : tree.node? base = some .directory)
      (hm : ∀ names, names ∈ found ↔ tree.IsDocumentBelow base names)
      (ho : found.Pairwise (· < ·)) : StandsFor tree path (found.map (Path.joinAll path))

theorem exists_locate_of_isDirectory {path : Text} (h : tree.isDirectory path = true) :
    ∃ base, tree.locate path = .ok base ∧ tree.node? base = some .directory := by
  unfold isDirectory find at h
  cases hl : tree.locate path with
  | error fault => simp [hl] at h
  | ok base =>
      rcases hn : tree.node? base with _ | _ | _ | _ | _
      all_goals simp [hl, hn] at h
      exact ⟨base, rfl, hn⟩

theorem WithoutRules.standsFor_documents (h : tree.WithoutRules) (path : Text) :
    tree.StandsFor path (tree.documents path) := by
  unfold documents
  split
  · next hd =>
    obtain ⟨base, hl, hn⟩ := exists_locate_of_isDirectory hd
    rw [hl]
    exact .below hl hn (fun names => h.mem_documentsBelow_iff) (tree.pairwise_documentsBelow base)
  · next hd => exact .itself (Bool.not_eq_true _ ▸ hd)

/-- What a path stands for is determined by the tree. -/
theorem StandsFor.unique {path : Text} {found found' : List Text} (h : tree.StandsFor path found)
    (h' : tree.StandsFor path found') : found = found' := by
  cases h with
  | itself h =>
      cases h' with
      | itself => rfl
      | below hl hd => simp [isDirectory, find, hl, hd] at h
  | @below base found hl hd hm ho =>
      cases h' with
      | itself h => simp [isDirectory, find, hl, hd] at h
      | @below base' found' hl' hd' hm' ho' =>
          obtain rfl := Except.ok.inj (hl.symm.trans hl')
          -- What comes in order comes once, so lists of the same names differ in their order at most.
          have hperm : found.Perm found' :=
            (List.perm_ext_iff_of_nodup (ho.imp ne_of_lt) (ho'.imp ne_of_lt)).mpr fun names => by
              rw [hm, hm']
          rw [hperm.eq_of_pairwise (fun _ _ _ _ hlt hgt => absurd hlt (lt_asymm hgt)) ho ho']

/-- Paths stand for documents one by one: a path for itself, unless it leads to a directory, and else for
each file below it that is named like a document and not hidden, once and in the order of names. -/
theorem collect_eq_iff (h : tree.WithoutRules) (paths documents : List Text) :
    tree.collect paths = documents ↔
      ∃ found, List.Forall₂ tree.StandsFor paths found ∧ documents = found.flatten := by
  have hall : ∀ found, List.Forall₂ tree.StandsFor paths found → tree.collect paths = found.flatten := by
    intro found hf
    induction hf with
    | nil => rfl
    | @cons path first paths found hp _ ih =>
        rw [collect, List.flatMap_cons, ← collect, ih, (h.standsFor_documents path).unique hp]
        rfl
  constructor
  · rintro rfl
    refine ⟨paths.map tree.documents, ?_, List.flatMap_def⟩
    rw [List.forall₂_map_right_iff, List.forall₂_same]
    exact fun path _ => h.standsFor_documents path
  · rintro ⟨found, hf, rfl⟩
    exact hall found hf

theorem collect_eq_iff_nested :
    let tree := ofFiles ["w".toList] [("docs/b.md".toList, Text.encode []),
      ("docs/a-b/x.md".toList, Text.encode []), ("docs/a/z.MarkDown".toList, Text.encode []),
      ("docs/a/.hidden.md".toList, Text.encode []), ("docs/.drafts/c.md".toList, Text.encode []),
      ("docs/note.txt".toList, Text.encode [])]
    let paths := ["docs".toList, "docs/note.txt".toList, "missing.md".toList]
    tree.WithoutRules ∧ tree.collect paths = ["docs/a/z.MarkDown".toList, "docs/a-b/x.md".toList,
      "docs/b.md".toList, "docs/note.txt".toList, "missing.md".toList] := by
  intro tree paths
  let base : Place := ["w".toList, "docs".toList]
  let below : List (List Text) := [["a".toList, "z.MarkDown".toList], ["a-b".toList, "x.md".toList],
    ["b.md".toList]]
  have h : tree.WithoutRules := by decide +kernel
  have hnodes : (tree.nodes.filterMap (tree.documentNames? base)).Perm below := by decide +kernel
  have hbelow : ∀ names, names ∈ below ↔ tree.IsDocumentBelow base names := fun names => by
    rw [← h.mem_documentsBelow_iff, documentsBelow, List.mem_mergeSort, hnodes.mem_iff]
  have hdocs : tree.StandsFor "docs".toList (below.map (Path.joinAll "docs".toList)) :=
    .below (by decide +kernel) (by rfl) hbelow (by decide)
  have hnote : tree.StandsFor "docs/note.txt".toList ["docs/note.txt".toList] :=
    .itself (by decide +kernel)
  have hmissing : tree.StandsFor "missing.md".toList ["missing.md".toList] := .itself (by decide +kernel)
  exact ⟨h, (collect_eq_iff h paths _).mpr ⟨_, .cons hdocs (.cons hnote (.cons hmissing .nil)), rfl⟩⟩

end FileTree

end Transclude
