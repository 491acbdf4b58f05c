import Transclude.Cli.Run
import Transclude.Proofs.Files.Source

/-!
# Documents one after another

A run works on each document in the tree that the documents before it left. Only writing changes a tree: it
puts the new text into the file of a document that can be updated, unless the system refuses
(`process_of_ok`, `process_of_isRefused`). A document that fails leaves no trace (`treeAfter_of_error`). So
what a run leaves behind is put together from its documents, whichever of them fail, as long as none keeps
the run from its end (`run_isolates_failures`). A document that does has a command that is never read to its
end (`IsEndless.exists_holdsEndless`).
-/

namespace Transclude.Job

variable {job : Job} {tree now : FileTree} {path : Text} {above below documents : List Text}
  {update : Update} {failure : Failure} {number : Nat}

/-! ## Updates -/

/-- The tree with the document at the path as it should be, if it can be updated. -/
def settle (job : Job) (tree : FileTree) (path : Text) : FileTree :=
  match job.updateOf tree path with
  | .error _ => tree
  | .ok update => tree.withText path update.updated

theorem settle_of_error (h : job.updateOf tree path = .error failure) :
    job.settle tree path = tree := by
  simp only [settle, h]

theorem settle_of_ok (h : job.updateOf tree path = .ok update) :
    job.settle tree path = tree.withText path update.updated := by
  simp only [settle, h]

/-- The system does not take what the document at the path should be. -/
def IsRefused (job : Job) (tree : FileTree) (path : Text) : Prop :=
  job.mode = .write ∧ ∃ update number refusal, job.updateOf tree path = .ok update ∧
    update.present ≠ update.updated ∧ tree.file? path = some number ∧
    job.system.disk tree number (Text.encode update.updated) = some refusal

theorem not_isRefused_of_ne_write (hm : job.mode ≠ .write) : ¬ job.IsRefused tree path :=
  fun h => hm h.1

theorem not_isRefused_of_disk (hf : tree.file? path = some number)
    (hd : ∀ content, job.system.disk tree number content = none) : ¬ job.IsRefused tree path := by
  rintro ⟨-, update, number', refusal, -, -, hf', hrefused⟩
  obtain rfl : number = number' := Option.some.inj (hf.symm.trans hf')
  cases (hd _).symm.trans hrefused

/-- The work on the document at the path never ends. -/
def IsEndless (job : Job) (tree : FileTree) (path : Text) : Prop :=
  ∃ failure, job.updateOf tree path = .error failure ∧ failure.isEndless = true

/-- Work without end is on a document that has a line with a command without end. -/
theorem IsEndless.exists_holdsEndless (h : job.IsEndless tree path) :
    ∃ text, tree.readText path = .ok text ∧ ∃ line ∈ Text.lines text, HoldsEndless line := by
  obtain ⟨failure, hu, he⟩ := h
  exact Update.exists_of_ofFile_endless (tree.ends_fetcher _ _) hu he

/-! ## One document -/

theorem process_of_error (h : job.updateOf tree path = .error failure) :
    job.process tree path = { path, tree, ending := .failed failure } := by
  simp only [process, h]

theorem process_of_ne_write (hm : job.mode ≠ .write) (h : job.updateOf tree path = .ok update) :
    job.process tree path =
      { path, tree, output := job.outputOf update, ending := endingOf update } := by
  cases hmode : job.mode with
  | print | diff => simp only [process, h, hmode]
  | write => exact absurd hmode hm

/-- A document that can be updated is written, unless the system refuses. -/
theorem process_of_ok (hm : job.mode = .write) (h : job.updateOf tree path = .ok update)
    (hr : ¬ job.IsRefused tree path) :
    (job.process tree path).tree = job.settle tree path ∧
      (job.process tree path).ending = endingOf update := by
  obtain ⟨text, updated, hread, -, rfl⟩ := Update.exists_of_ofFile_eq_ok h
  rw [settle_of_ok h]
  by_cases hc : text = updated
  · subst hc
    have hw : Update.write ⟨some path, text, text⟩ job.system.disk tree = (tree, .ok false) :=
      Update.write_of_eq rfl _ _
    simp only [process, h, hm, hw, FileTree.withText_of_readText hread, and_self]
  · obtain ⟨number, hf⟩ := Update.exists_file?_of_ne h hc
    have hd : job.system.disk tree number (Text.encode updated) = none := by
      rw [Option.eq_none_iff_forall_ne_some]
      exact fun refusal hd => hr ⟨hm, _, number, refusal, h, hc, hf, hd⟩
    have hw : Update.write ⟨some path, text, updated⟩ job.system.disk tree =
        (tree.withText path updated, .ok true) := Update.write_of_taken rfl hc hf hd
    simp only [process, h, hm, hw, and_self]

/-- A document that the system refuses to write fails. Its file may hold something else then. -/
theorem process_of_isRefused (h : job.IsRefused tree path) :
    ∃ update number, ∃ refusal : Refusal, job.updateOf tree path = .ok update ∧
      tree.file? path = some number ∧ job.process tree path =
        { path, tree := (refusal.left.map (tree.withContent number)).getD tree
          ending := .failed (.ofCause (.file refusal.fault)) } := by
  obtain ⟨hm, update, number, refusal, hu, hc, hf, hd⟩ := h
  obtain ⟨text, updated, -, -, rfl⟩ := Update.exists_of_ofFile_eq_ok hu
  have hw : Update.write ⟨some path, text, updated⟩ job.system.disk tree = _ :=
    Update.write_of_refused rfl hc hf hd
  refine ⟨_, number, refusal, hu, hf, ?_⟩
  simp only [process, hu, hm, hw]

theorem process_cases (job : Job) (tree : FileTree) (path : Text) :
    (∃ failure, job.updateOf tree path = .error failure) ∨ job.IsRefused tree path ∨
      ∃ update, job.updateOf tree path = .ok update ∧ ¬ job.IsRefused tree path ∧
        (job.process tree path).ending = endingOf update ∧
        (job.process tree path).tree = if job.mode = .write then job.settle tree path else tree := by
  cases h : job.updateOf tree path with
  | error failure => exact Or.inl ⟨failure, rfl⟩
  | ok update =>
      by_cases hr : job.IsRefused tree path
      · exact Or.inr (Or.inl hr)
      refine Or.inr (Or.inr ⟨update, rfl, hr, ?_⟩)
      by_cases hm : job.mode = .write
      · obtain ⟨htree, hending⟩ := process_of_ok hm h hr
        exact ⟨hending, by rw [htree, if_pos hm]⟩
      · rw [process_of_ne_write hm h, if_neg hm]
        exact ⟨rfl, rfl⟩

theorem isFailed_process_iff :
    (job.process tree path).isFailed = true ↔
      (∃ failure, job.updateOf tree path = .error failure) ∨ job.IsRefused tree path := by
  obtain ⟨failure, h⟩ | hr | ⟨update, h, hr, hending, -⟩ := process_cases job tree path
  · simp [process_of_error h, h, Processed.isFailed]
  · obtain ⟨update, number, refusal, -, -, hp⟩ := process_of_isRefused hr
    simp [hp, hr, Processed.isFailed]
  · rw [Processed.isFailed, hending, endingOf]
    cases update.hasChanges <;> simp [h, hr]

theorem isChanged_process_iff (hm : job.mode ≠ .write) :
    (job.process tree path).isChanged = true ↔
      ∃ update, job.updateOf tree path = .ok update ∧ update.present ≠ update.updated := by
  cases h : job.updateOf tree path with
  | error failure => simp [process_of_error h, Processed.isChanged]
  | ok update =>
      rw [Processed.isChanged, process_of_ne_write hm h, endingOf]
      cases hc : update.hasChanges <;> simpa [Update.hasChanges] using hc

theorem isEndless_process_iff :
    (job.process tree path).ending.isEndless = true ↔ job.IsEndless tree path := by
  unfold IsEndless
  obtain ⟨failure, h⟩ | hr | ⟨update, h, -, hending, -⟩ := process_cases job tree path
  · simp [process_of_error h, h, Ending.isEndless]
  · obtain ⟨update, number, refusal, hu, -, hp⟩ := process_of_isRefused hr
    simp [hp, hu, Ending.isEndless, Failure.isEndless, Failure.ofCause]
  · rw [hending, endingOf]
    cases update.hasChanges <;> simp [h, Ending.isEndless]

theorem sameShape_settle (job : Job) (tree : FileTree) (path : Text) :
    tree.SameShape (job.settle tree path) := by
  unfold settle
  split
  · exact .refl tree
  · exact FileTree.sameShape_withText tree path _

theorem content_settle_of_ne (job : Job) (h : tree.file? path ≠ some number) :
    (job.settle tree path).content number = tree.content number := by
  unfold settle
  split
  · rfl
  · rw [FileTree.content_withText, if_neg h]

/-- The work on a document changes no file but its own, and no file at all if the document cannot be
updated. -/
theorem sameShape_process (job : Job) (tree : FileTree) (path : Text) :
    tree.SameShape (job.process tree path).tree ∧
      ∀ number, (tree.file? path = some number → ∃ failure, job.updateOf tree path = .error failure) →
        (job.process tree path).tree.content number = tree.content number := by
  obtain ⟨failure, h⟩ | hr | ⟨update, h, -, -, htree⟩ := process_cases job tree path
  · rw [process_of_error h]
    exact ⟨.refl tree, fun _ _ => rfl⟩
  · obtain ⟨update, number, refusal, hu, hf, hp⟩ := process_of_isRefused hr
    rw [hp]
    cases refusal.left with
    | none => exact ⟨.refl tree, fun _ _ => rfl⟩
    | some left =>
        refine ⟨FileTree.sameShape_withContent tree number left, fun other ho => ?_⟩
        have hne : other ≠ number := by
          rintro rfl
          obtain ⟨failure, he⟩ := ho hf
          cases hu.symm.trans he
        exact (FileTree.content_withContent tree number other left).trans (if_neg hne)
  · rw [htree]
    split
    · refine ⟨sameShape_settle job tree path, fun number hn => content_settle_of_ne job fun hf => ?_⟩
      obtain ⟨failure, he⟩ := hn hf
      cases h.symm.trans he
    · exact ⟨.refl tree, fun _ _ => rfl⟩

theorem tree_process_of_ne_write (hm : job.mode ≠ .write) (tree : FileTree) (path : Text) :
    (job.process tree path).tree = tree := by
  cases h : job.updateOf tree path with
  | error failure => rw [process_of_error h]
  | ok update => rw [process_of_ne_write hm h]

/-! ## All documents -/

theorem lastTree_cons (tree : FileTree) (done : Processed) (all : List Processed) :
    lastTree tree (done :: all) = lastTree done.tree all := by
  rw [lastTree, lastTree, List.getLast?_cons]
  cases all.getLast? <;> rfl

/-- The tree that the work on documents leaves. -/
def treeAfter (job : Job) (tree : FileTree) (documents : List Text) : FileTree :=
  lastTree tree (job.processAll tree documents)

theorem treeAfter_nil (job : Job) (tree : FileTree) : job.treeAfter tree [] = tree := rfl

theorem treeAfter_cons (job : Job) (tree : FileTree) (path : Text) (rest : List Text) :
    job.treeAfter tree (path :: rest) = job.treeAfter (job.process tree path).tree rest := by
  rw [treeAfter, processAll, lastTree_cons, treeAfter]

theorem treeAfter_append (job : Job) (tree : FileTree) (above below : List Text) :
    job.treeAfter tree (above ++ below) = job.treeAfter (job.treeAfter tree above) below := by
  induction above generalizing tree with
  | nil => rfl
  | cons path rest ih => rw [List.cons_append, treeAfter_cons, ih, treeAfter_cons]

theorem treeAfter_concat (job : Job) (tree : FileTree) (above : List Text) (path : Text) :
    job.treeAfter tree (above ++ [path]) = (job.process (job.treeAfter tree above) path).tree := by
  rw [treeAfter_append, treeAfter_cons, treeAfter_nil]

theorem treeAfter_of_error (h : job.updateOf (job.treeAfter tree above) path = .error failure)
    (below : List Text) :
    job.treeAfter tree (above ++ path :: below) = job.treeAfter tree (above ++ below) := by
  rw [treeAfter_append, treeAfter_cons, process_of_error h, treeAfter_append]

theorem treeAfter_of_ne_write (hm : job.mode ≠ .write) (tree : FileTree) (documents : List Text) :
    job.treeAfter tree documents = tree := by
  induction documents with
  | nil => rfl
  | cons path rest ih => rw [treeAfter_cons, tree_process_of_ne_write hm, ih]

/-- The document at the path comes to its turn in the tree that those before it leave. -/
def Turn (job : Job) (tree : FileTree) (documents : List Text) (now : FileTree) (path : Text) : Prop :=
  ∃ above below, documents = above ++ path :: below ∧ now = job.treeAfter tree above

theorem turn_cons_iff {first : Text} {rest : List Text} :
    job.Turn tree (first :: rest) now path ↔
      (now = tree ∧ path = first) ∨ job.Turn (job.process tree first).tree rest now path := by
  constructor
  · rintro ⟨_ | ⟨other, above⟩, below, hd, rfl⟩
    · exact Or.inl ⟨rfl, (List.cons.inj hd).1.symm⟩
    · obtain ⟨rfl, rfl⟩ := List.cons.inj hd
      exact Or.inr ⟨above, below, rfl, treeAfter_cons ..⟩
  · rintro (⟨rfl, rfl⟩ | ⟨above, below, rfl, rfl⟩)
    · exact ⟨[], rest, rfl, rfl⟩
    · exact ⟨first :: above, below, rfl, (treeAfter_cons ..).symm⟩

theorem not_turn_nil : ¬ job.Turn tree [] now path := by
  rintro ⟨above, below, hd, -⟩
  simp at hd

theorem turn_append_iff :
    job.Turn tree (above ++ below) now path ↔
      job.Turn tree above now path ∨ job.Turn (job.treeAfter tree above) below now path := by
  induction above generalizing tree with
  | nil => simp [not_turn_nil, treeAfter_nil]
  | cons first rest ih => simp only [List.cons_append, turn_cons_iff, ih, treeAfter_cons, or_assoc]

theorem turn_concat (job : Job) (tree : FileTree) (above : List Text) (path : Text) :
    job.Turn tree (above ++ [path]) (job.treeAfter tree above) path :=
  turn_append_iff.mpr (Or.inr (turn_cons_iff.mpr (Or.inl ⟨rfl, rfl⟩)))

theorem Turn.append (h : job.Turn tree above now path) (below : List Text) :
    job.Turn tree (above ++ below) now path := turn_append_iff.mpr (Or.inl h)

theorem turn_iff_of_ne_write (hm : job.mode ≠ .write) :
    job.Turn tree documents now path ↔ now = tree ∧ path ∈ documents := by
  constructor
  · rintro ⟨above, below, rfl, rfl⟩
    exact ⟨treeAfter_of_ne_write hm tree above, by simp⟩
  · rintro ⟨rfl, hp⟩
    obtain ⟨above, below, rfl⟩ := List.append_of_mem hp
    exact ⟨above, below, rfl, (treeAfter_of_ne_write hm _ above).symm⟩

theorem mem_processAll_iff {done : Processed} :
    done ∈ job.processAll tree documents ↔
      ∃ now path, job.Turn tree documents now path ∧ done = job.process now path := by
  induction documents generalizing tree with
  | nil => simp [processAll, Turn]
  | cons first rest ih =>
      rw [processAll, List.mem_cons, ih]
      simp only [turn_cons_iff]
      constructor
      · rintro (rfl | ⟨now, path, ht, rfl⟩)
        · exact ⟨tree, first, Or.inl ⟨rfl, rfl⟩, rfl⟩
        · exact ⟨now, path, Or.inr ht, rfl⟩
      · rintro ⟨now, path, ⟨rfl, rfl⟩ | ht, rfl⟩
        · exact Or.inl rfl
        · exact Or.inr ⟨now, path, ht, rfl⟩

/-- No file changes but those of documents that can be updated when their turn comes. -/
theorem sameShape_treeAfter (job : Job) (tree : FileTree) (documents : List Text) :
    tree.SameShape (job.treeAfter tree documents) ∧
      ∀ number, (∀ now path, job.Turn tree documents now path → tree.file? path = some number →
        ∃ failure, job.updateOf now path = .error failure) →
          (job.treeAfter tree documents).content number = tree.content number := by
  induction documents using List.reverseRecOn with
  | nil => exact ⟨.refl tree, fun _ _ => rfl⟩
  | append_singleton front path ih =>
      obtain ⟨hshape, hcontent⟩ := ih
      obtain ⟨hshape', hcontent'⟩ := sameShape_process job (job.treeAfter tree front) path
      rw [treeAfter_concat]
      refine ⟨hshape.trans hshape', fun number h => ?_⟩
      rw [hcontent' number fun hf => ?_, hcontent number fun now other ht => h now other (ht.append _)]
      rw [FileTree.file?_of_sameShape hshape] at hf
      exact h _ path (turn_concat job tree front path) hf

theorem treeAfter_of_write (hm : job.mode = .write)
    (hr : ∀ now path, job.Turn tree documents now path → ¬ job.IsRefused now path) :
    job.treeAfter tree documents = documents.foldl job.settle tree := by
  induction documents using List.reverseRecOn with
  | nil => rfl
  | append_singleton front path ih =>
      have hfront := ih fun now other ht => hr now other (ht.append _)
      rw [List.foldl_append, treeAfter_concat, ← hfront, List.foldl_cons, List.foldl_nil]
      obtain ⟨failure, h⟩ | hrefused | ⟨update, h, -, -, htree⟩ :=
        process_cases job (job.treeAfter tree front) path
      · rw [process_of_error h, settle_of_error h]
      · exact absurd hrefused (hr _ path (turn_concat job tree front path))
      · rw [htree, if_pos hm]

/-! ## Failures -/

/-- Some document fails when its turn comes: it cannot be updated, or the system refuses to write it. -/
def Fails (job : Job) (tree : FileTree) (documents : List Text) : Prop :=
  ∃ now path, job.Turn tree documents now path ∧
    ((∃ failure, job.updateOf now path = .error failure) ∨ job.IsRefused now path)

/-- Some document has another text than it should have. -/
def Outdated (job : Job) (tree : FileTree) (documents : List Text) : Prop :=
  ∃ path ∈ documents, ∃ update,
    job.updateOf tree path = .ok update ∧ update.present ≠ update.updated

theorem countP_isFailed_pos_iff :
    0 < (job.processAll tree documents).countP Processed.isFailed ↔ job.Fails tree documents := by
  simp only [List.countP_pos_iff, mem_processAll_iff, Fails]
  constructor
  · rintro ⟨_, ⟨now, path, ht, rfl⟩, hf⟩
    exact ⟨now, path, ht, isFailed_process_iff.mp hf⟩
  · rintro ⟨now, path, ht, hf⟩
    exact ⟨_, ⟨now, path, ht, rfl⟩, isFailed_process_iff.mpr hf⟩

theorem countP_isChanged_pos_iff (hm : job.mode ≠ .write) :
    0 < (job.processAll tree documents).countP Processed.isChanged ↔
      job.Outdated tree documents := by
  simp only [List.countP_pos_iff, mem_processAll_iff, turn_iff_of_ne_write hm, Outdated]
  constructor
  · rintro ⟨_, ⟨_, path, ⟨rfl, hp⟩, rfl⟩, hf⟩
    exact ⟨path, hp, (isChanged_process_iff hm).mp hf⟩
  · rintro ⟨path, hp, hf⟩
    exact ⟨_, ⟨tree, path, ⟨rfl, hp⟩, rfl⟩, (isChanged_process_iff hm).mpr hf⟩

theorem documents_eq_none_iff :
    job.documents tree documents = none ↔
      ∃ now path, job.Turn tree documents now path ∧ job.IsEndless now path := by
  have hany : (job.processAll tree documents).any (·.ending.isEndless) = true ↔
      ∃ now path, job.Turn tree documents now path ∧ job.IsEndless now path := by
    simp only [List.any_eq_true, mem_processAll_iff]
    constructor
    · rintro ⟨_, ⟨now, path, ht, rfl⟩, he⟩
      exact ⟨now, path, ht, isEndless_process_iff.mp he⟩
    · rintro ⟨now, path, ht, he⟩
      exact ⟨_, ⟨now, path, ht, rfl⟩, isEndless_process_iff.mpr he⟩
  rw [← hany, Job.documents]
  split <;> simp_all

theorem eq_reportOf_of_documents {report : Report} (h : job.documents tree documents = some report) :
    report = job.reportOf tree (job.processAll tree documents) := by
  simp only [Job.documents] at h
  split at h
  · cases h
  · exact (Option.some.inj h).symm

/-- Without a document that fails the others are worked on alike. -/
theorem exists_documents_of_error {report : Report}
    (h : job.documents tree (above ++ path :: below) = some report)
    (hf : job.updateOf (job.treeAfter tree above) path = .error failure) :
    ∃ other, job.documents tree (above ++ below) = some other ∧ other.tree = report.tree := by
  cases ho : job.documents tree (above ++ below) with
  | none =>
      obtain ⟨now, other, ht, he⟩ := documents_eq_none_iff.mp ho
      have hturn : job.Turn tree (above ++ path :: below) now other := by
        rw [turn_append_iff, turn_cons_iff, process_of_error hf]
        exact (turn_append_iff.mp ht).imp_right Or.inr
      cases h.symm.trans (documents_eq_none_iff.mpr ⟨now, other, hturn, he⟩)
  | some other =>
      refine ⟨other, rfl, ?_⟩
      rw [eq_reportOf_of_documents h, eq_reportOf_of_documents ho]
      exact (treeAfter_of_error hf below).symm

/-! ## Runs -/

/-- The text that the document should have, if it can be updated. -/
def textOf (job : Job) (tree : FileTree) (path : Text) : Text :=
  match job.updateOf tree path with
  | .error _ => []
  | .ok update => update.updated

/-- What a run over documents leaves behind is put together from them, whichever of them fail. -/
structure Isolates (job : Job) (tree : FileTree) (documents : List Text) (report : Report) :
    Prop where
  /-- Nothing is written unless that is asked for. -/
  kept : job.mode ≠ .write → report.tree = tree
  /-- What is written is what the documents should be, one after another, unless the system refuses. -/
  written : job.mode = .write →
    (∀ now path, job.Turn tree documents now path → ¬ job.IsRefused now path) →
      report.tree = documents.foldl job.settle tree
  /-- No name comes or goes. -/
  shape : tree.SameShape report.tree
  /-- A file keeps what it holds unless it is a document that can be updated when its turn comes. -/
  frame : ∀ number, (∀ now path, job.Turn tree documents now path → tree.file? path = some number →
    ∃ failure, job.updateOf now path = .error failure) →
      report.tree.content number = tree.content number
  /-- Without a document that cannot be updated the run leaves the same tree. -/
  without : ∀ above path below failure, documents = above ++ path :: below →
    job.updateOf (job.treeAfter tree above) path = .error failure →
      ∃ other, job.documents tree (above ++ below) = some other ∧ other.tree = report.tree
  /-- What is printed is the texts that the documents should have, one after another. -/
  printed : job.mode = .print → report.output = documents.flatMap (job.textOf tree)
  /-- The status tells of a failure first. -/
  failed : job.Fails tree documents → report.status = 2
  /-- A diff that shows a change has a status of its own. -/
  outdated : ¬ job.Fails tree documents → job.mode = .diff → job.Outdated tree documents →
    report.status = 1
  settled : ¬ job.Fails tree documents → ¬ (job.mode = .diff ∧ job.Outdated tree documents) →
    report.status = 0

theorem output_of_print {report : Report} (hm : job.mode = .print)
    (h : job.documents tree documents = some report) :
    report.output = documents.flatMap (job.textOf tree) := by
  have hne : job.mode ≠ .write := by simp [hm]
  have hone : ∀ path, (job.process tree path).output = job.textOf tree path := by
    intro path
    unfold textOf
    cases h : job.updateOf tree path with
    | error failure => rw [process_of_error h]
    | ok update => simp only [process_of_ne_write hne h, outputOf, hm]
  have hall : ∀ rest, job.processAll tree rest = rest.map (job.process tree) := by
    intro rest
    induction rest with
    | nil => rfl
    | cons path rest ih => rw [processAll, tree_process_of_ne_write hne, ih, List.map_cons]
  rw [eq_reportOf_of_documents h]
  simp only [reportOf, hall, List.flatMap_map, hone, hm, summary, List.append_nil]

theorem isolates_of_documents {report : Report} (h : job.documents tree documents = some report) :
    job.Isolates tree documents report := by
  have htree : report.tree = job.treeAfter tree documents := by
    rw [eq_reportOf_of_documents h]
    rfl
  have hstatus : report.status =
      status job.mode ((job.processAll tree documents).countP Processed.isChanged)
        ((job.processAll tree documents).countP Processed.isFailed) := by
    rw [eq_reportOf_of_documents h]
    rfl
  obtain ⟨hshape, hcontent⟩ := sameShape_treeAfter job tree documents
  rw [← htree] at hshape hcontent
  refine
    { kept := fun hm => htree.trans (treeAfter_of_ne_write hm tree documents)
      written := fun hm hr => htree.trans (treeAfter_of_write hm hr)
      shape := hshape
      frame := hcontent
      without := fun above path below failure hd hf => exists_documents_of_error (hd ▸ h) hf
      printed := fun hm => output_of_print hm h
      failed := fun hf => ?_
      outdated := fun hf hm ho => ?_
      settled := fun hf hd => ?_ }
  · rw [hstatus, status, if_pos (countP_isFailed_pos_iff.mpr hf)]
  · have hc := (countP_isChanged_pos_iff (by simp [hm])).mpr ho
    rw [hstatus, status, if_neg (mt countP_isFailed_pos_iff.mp hf), if_pos (by simp [hm, hc])]
  · rw [hstatus, status, if_neg (mt countP_isFailed_pos_iff.mp hf), if_neg]
    simp only [Bool.and_eq_true, decide_eq_true_eq]
    rintro ⟨hm, hc⟩
    exact hd ⟨hm, (countP_isChanged_pos_iff (by simp [hm])).mp hc⟩

end Transclude.Job

namespace Transclude.Arguments

variable {arguments : Arguments} {tree : FileTree} {config : Config} {system : System}

theorem run_of_documents (hc : arguments.configIn tree = .ok config)
    (hp : arguments.readsInput = false) (system : System) (input : Bytes) (color : Bool) :
    arguments.run system tree input color =
      ((arguments.job system config color).documents tree (tree.collect arguments.paths)).map
        fun report => { report with color := (arguments.job system config color).color } := by
  simp only [run, hc, hp, Bool.false_eq_true, if_false]

end Transclude.Arguments
