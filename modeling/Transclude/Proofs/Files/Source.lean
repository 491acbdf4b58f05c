import Transclude.Files.Source
import Transclude.Proofs.Document.Ending
import Transclude.Proofs.Files.Path
import Transclude.Proofs.Files.Tree

/-!
# Updates of files

A source of contents depends on the files that references lead to and on the answers of the network, and on
nothing else (`fetcher_of_sameShape`). An update of a file that succeeds has read the file and refreshed its
text (`exists_of_ofFile_eq_ok`). Writing it back puts the new text into that file, unless the system refuses
(`write_of_taken`, `write_of_refused`).
-/

namespace Transclude

variable {tree tree' : FileTree} {path : Text}

namespace FileTree

variable {network network' : Network} {options options' : FetchOptions} {base base' reference : Text}

theorem contentAt_of_remote (tree : FileTree) (network : Network) (options : FetchOptions) (base : Text)
    (h : Reference.isRemote reference = true) :
    tree.contentAt network options base reference = network.content options reference := if_pos h

theorem contentAt_of_local (tree : FileTree) (network : Network) (options : FetchOptions) (base : Text)
    (h : Reference.isRemote reference = false) :
    tree.contentAt network options base reference =
      (tree.read (Path.resolve base reference)).mapError .file := if_neg (by simp [h])

/-- A source of contents gives what is in the file that a reference leads to, or what comes from the
address that it is. -/
theorem fetcher_of_sameShape (h : tree.SameShape tree')
    (hc : Reference.isRemote reference = false → ∀ number,
      tree.file? (Path.resolve base reference) = some number →
        tree'.content number = tree.content number)
    (hn : Reference.isRemote reference = true →
      network'.content options' reference = network.content options reference) :
    tree'.fetcher network' options' base reference = tree.fetcher network options base reference := by
  unfold fetcher
  cases hr : Reference.isRemote reference with
  | true => rw [contentAt_of_remote _ _ _ _ hr, contentAt_of_remote _ _ _ _ hr, hn hr]
  | false =>
      rw [contentAt_of_local _ _ _ _ hr, contentAt_of_local _ _ _ _ hr, read_of_sameShape h (hc hr)]

theorem fetcher_of_local (h : Reference.isRemote reference = false) (tree : FileTree)
    (network network' : Network) (options options' : FetchOptions) (base : Text) :
    tree.fetcher network options base reference = tree.fetcher network' options' base reference :=
  fetcher_of_sameShape (.refl tree) (fun _ _ _ => rfl) fun hr => by simp [h] at hr

/-- Files and answers of the network always come to an end. -/
theorem ends_fetcher (tree : FileTree) (network : Network) (options : FetchOptions) :
    (tree.fetcher network options).Ends := by
  intro base reference failure h
  unfold fetcher at h
  obtain ⟨fault, -, rfl⟩ := exists_of_mapError_eq_error h
  rfl

theorem write_of_file? (disk : Disk) {number : Nat} (h : tree.file? path = some number)
    (content : Bytes) : tree.write disk path content = tree.writeFile disk number content := by
  obtain ⟨place, hl, hn⟩ := exists_locate_of_file? h
  simp only [write, hl, hn]

end FileTree

theorem Document.refresh_nil (fetch : Fetcher) (base : Text) (options : Options) :
    (refresh fetch base options []).result = .ok [] := by
  simp only [refresh, parts, Text.lines, partsFrom_nil]
  rfl

namespace Update

variable {fetch : Fetcher} {options : Options} {update : Update} {disk : Disk} {number : Nat}

theorem exists_of_ofFile_eq_ok (h : (ofFile tree fetch options path).result = .ok update) :
    ∃ text updated, tree.readText path = .ok text ∧
      (Document.refresh fetch (Path.parent path) options text).result = .ok updated ∧
      update = ⟨some path, text, updated⟩ := by
  unfold ofFile at h
  split at h
  · cases h
  next text hread =>
    obtain ⟨_, ho, rfl⟩ := exists_of_map_eq_ok h
    obtain ⟨updated, hr, rfl⟩ := exists_of_map_eq_ok ho
    exact ⟨text, updated, hread, hr, rfl⟩

theorem ofFile_eq_ok {text updated : Text} (hread : tree.readText path = .ok text)
    (hr : (Document.refresh fetch (Path.parent path) options text).result = .ok updated) :
    (ofFile tree fetch options path).result = .ok ⟨some path, text, updated⟩ := by
  simp only [ofFile, hread, ofText, Outcome.after, hr]
  rfl

theorem exists_of_ofFile_endless {failure : Failure} (hfetch : fetch.Ends)
    (h : (ofFile tree fetch options path).result = .error failure) (he : failure.isEndless = true) :
    ∃ text, tree.readText path = .ok text ∧ ∃ line ∈ Text.lines text, HoldsEndless line := by
  unfold ofFile at h
  split at h
  · cases h
    cases he
  next text hread =>
    have hrefresh := map_eq_error_iff.mp (map_eq_error_iff.mp h)
    exact ⟨text, hread, Document.exists_of_refresh_endless hfetch hrefresh he⟩

/-! ## Writing back -/

theorem hasChanges_iff : update.hasChanges = true ↔ update.present ≠ update.updated := by
  simp [hasChanges]

theorem exists_file?_of_ne (h : (ofFile tree fetch options path).result = .ok update)
    (hc : update.present ≠ update.updated) : ∃ number, tree.file? path = some number := by
  obtain ⟨text, updated, hread, hr, rfl⟩ := exists_of_ofFile_eq_ok h
  refine FileTree.exists_file?_of_readText hread ?_
  rintro rfl
  rw [Document.refresh_nil] at hr
  exact hc (Except.ok.inj hr)

theorem write_of_eq (h : update.present = update.updated) (disk : Disk) (tree : FileTree) :
    update.write disk tree = (tree, .ok false) := by
  have hno : update.hasChanges = false := Bool.eq_false_iff.mpr fun hc => hasChanges_iff.mp hc h
  unfold write
  split
  · rfl
  · rw [hno]
    rfl

theorem write_of_taken (hp : update.path = some path) (hc : update.present ≠ update.updated)
    (hf : tree.file? path = some number)
    (hd : disk tree number (Text.encode update.updated) = none) :
    update.write disk tree = (tree.withText path update.updated, .ok true) := by
  simp only [write, hp, hasChanges_iff.mpr hc, FileTree.write_of_file? disk hf, FileTree.writeFile, hd,
    FileTree.withText, hf, if_true]

/-- A document that the system refuses to write is not written, or in part. -/
theorem write_of_refused {refusal : Refusal} (hp : update.path = some path)
    (hc : update.present ≠ update.updated) (hf : tree.file? path = some number)
    (hd : disk tree number (Text.encode update.updated) = some refusal) :
    update.write disk tree =
      ((refusal.left.map (tree.withContent number)).getD tree,
        .error (.ofCause (.file refusal.fault))) := by
  simp only [write, hp, hasChanges_iff.mpr hc, FileTree.write_of_file? disk hf, FileTree.writeFile, hd,
    if_true]

end Update

end Transclude
