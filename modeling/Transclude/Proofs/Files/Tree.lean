import Transclude.Files.Tree
import Transclude.Proofs.Text.Crlf

/-!
# File trees of one shape

Where a path leads depends on the nodes alone, so trees that differ only in what their files hold lead
every path alike (`file?_of_sameShape`). What is read at a path depends besides on the one file there
(`readText_of_sameShape`). A text that is put into a file is read there, under all of its names, and
nothing else changes (`content_withText`).
-/

namespace Transclude.FileTree

variable {tree tree' tree'' : FileTree} {path other text : Text}

/-- Trees with the same nodes, whatever their files hold. -/
structure SameShape (tree tree' : FileTree) : Prop where
  nodes : tree'.nodes = tree.nodes
  current : tree'.current = tree.current

theorem SameShape.refl (tree : FileTree) : tree.SameShape tree := ⟨rfl, rfl⟩

theorem SameShape.trans (h : tree.SameShape tree') (h' : tree'.SameShape tree'') :
    tree.SameShape tree'' :=
  ⟨h'.nodes.trans h.nodes, h'.current.trans h.current⟩

/-! ## Walks -/

theorem node?_of_sameShape (h : tree.SameShape tree') : tree'.node? = tree.node? := by
  funext place
  rw [node?, node?, h.nodes]

theorem step_of_sameShape (h : tree.SameShape tree') : tree'.step = tree.step := by
  funext place name
  simp only [step, node?_of_sameShape h]

theorem advance_of_sameShape (h : tree.SameShape tree') (place : Place) (names : List Text) :
    tree'.advance place names = tree.advance place names := by
  induction names generalizing place with
  | nil => rfl
  | cons name rest ih => simp only [advance, step_of_sameShape h, node?_of_sameShape h, ih]

theorem walk_of_sameShape (h : tree.SameShape tree') (links : Nat) (place : Place)
    (names : List Text) : tree'.walk links place names = tree.walk links place names := by
  induction links generalizing place names with
  | zero => rw [walk, walk, advance_of_sameShape h]
  | succ links ih =>
      rw [walk, walk, advance_of_sameShape h]
      simp only [ih]

theorem locate_of_sameShape (h : tree.SameShape tree') (path : Text) :
    tree'.locate path = tree.locate path := by
  simp only [locate, reach, h.current, walk_of_sameShape h]

theorem find_of_sameShape (h : tree.SameShape tree') (path : Text) :
    tree'.find path = tree.find path := by
  simp only [find, locate_of_sameShape h, node?_of_sameShape h]

theorem file?_of_sameShape (h : tree.SameShape tree') (path : Text) :
    tree'.file? path = tree.file? path := by
  simp only [file?, find_of_sameShape h]

theorem find_of_file? {number : Nat} (h : tree.file? path = some number) :
    tree.find path = .ok (.file number) := by
  unfold file? at h
  split at h
  · next found hfind => rw [hfind, Option.some.inj h]
  · cases h

theorem exists_locate_of_file? {number : Nat} (h : tree.file? path = some number) :
    ∃ place, tree.locate path = .ok place ∧ tree.node? place = some (.file number) := by
  have hfind := find_of_file? h
  unfold find at hfind
  split at hfind
  · cases hfind
  next place hl =>
    split at hfind
    · next node hn =>
      cases hfind
      exact ⟨place, hl, hn⟩
    · cases hfind

theorem read_of_file? {number : Nat} (h : tree.file? path = some number) :
    tree.read path = tree.content number := by
  simp only [read, find_of_file? h, contentOf]

theorem read_of_sameShape (h : tree.SameShape tree')
    (hc : ∀ number, tree.file? path = some number → tree'.content number = tree.content number) :
    tree'.read path = tree.read path := by
  simp only [read, find_of_sameShape h]
  cases hf : tree.find path with
  | error fault => rfl
  | ok node =>
      cases node with
      | file number => exact hc number (by rw [file?, hf])
      | directory | null | link target => rfl

/-- A text that is read is what the file at the path holds; the file that is always empty holds none. -/
theorem exists_of_readText (h : tree.readText path = .ok text) :
    (∃ number, tree.file? path = some number ∧ tree.content number = .ok (Text.encode text)) ∨
      tree.find path = .ok .null ∧ text = [] := by
  unfold readText at h
  split at h
  · cases h
  next bytes hread =>
    split at h
    · next read hd =>
      cases h
      obtain rfl := Text.eq_encode_of_decode? hd
      unfold FileTree.read at hread
      split at hread
      · cases hread
      next node hfind =>
        cases node with
        | file number => exact Or.inl ⟨number, by rw [file?, hfind], hread⟩
        | null =>
            refine Or.inr ⟨hfind, Option.some.inj (hd.symm.trans ?_)⟩
            rw [← Except.ok.inj hread]
            exact Text.decode?_encode []
        | directory => cases hread
        | link target => cases hread
    · cases h

theorem readText_of_content {number : Nat} (hf : tree.file? path = some number)
    (hc : tree.content number = .ok (Text.encode text)) : tree.readText path = .ok text := by
  simp only [readText, read_of_file? hf, hc, Text.decode?_encode]

theorem exists_file?_of_readText (h : tree.readText path = .ok text) (hne : text ≠ []) :
    ∃ number, tree.file? path = some number := by
  obtain ⟨number, hf, -⟩ | ⟨-, he⟩ := exists_of_readText h
  · exact ⟨number, hf⟩
  · exact absurd he hne

/-! ## Texts in files -/

theorem sameShape_withContent (tree : FileTree) (number : Nat) (content : Bytes) :
    tree.SameShape (tree.withContent number content) := ⟨rfl, rfl⟩

theorem withContent_of_content {number : Nat} {content : Bytes}
    (h : tree.content number = .ok content) : tree.withContent number content = tree := by
  have hsame : (tree.withContent number content).content = tree.content := by
    funext other
    rw [content_withContent]
    split
    · next he => rw [he, h]
    · rfl
  exact congrArg (fun held => { tree with content := held }) hsame

/-- The tree with the text in the file at the path, if there is one. -/
def withText (tree : FileTree) (path text : Text) : FileTree :=
  match tree.file? path with
  | none => tree
  | some number => tree.withContent number (Text.encode text)

/-- What is put into a file is there, and all other files keep what they have. -/
theorem content_withText (tree : FileTree) (path text : Text) (number : Nat) :
    (tree.withText path text).content number =
      if tree.file? path = some number then .ok (Text.encode text) else tree.content number := by
  unfold withText
  split
  · next hf => simp [hf]
  · next found hf => simp [hf, content_withContent, eq_comm]

theorem sameShape_withText (tree : FileTree) (path text : Text) :
    tree.SameShape (tree.withText path text) := by
  unfold withText
  split
  · exact .refl tree
  · exact sameShape_withContent tree _ _

/-- The file at the path gets the text, and nothing else changes. -/
theorem withText_of_file? {number : Nat} (h : tree.file? path = some number) (text : Text) :
    (tree.withText path text).content number = .ok (Text.encode text) ∧
      tree.SameShape (tree.withText path text) ∧
      ∀ other, other ≠ number → (tree.withText path text).content other = tree.content other := by
  refine ⟨by rw [content_withText, if_pos h], sameShape_withText tree path text, fun other hne => ?_⟩
  rw [content_withText, if_neg]
  exact fun hf => hne (Option.some.inj (hf.symm.trans h))

theorem withText_of_readText (h : tree.readText path = .ok text) : tree.withText path text = tree := by
  obtain ⟨number, hf, hc⟩ | ⟨hn, -⟩ := exists_of_readText h
  · simp only [withText, hf, withContent_of_content hc]
  · simp only [withText, file?, hn]

end Transclude.FileTree
