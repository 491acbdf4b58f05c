import Transclude.Files.Ignore

/-!
# Searching for documents

Directories stand for the documents below them. A search goes through all directories that it sees
and finds every document there, in the order of the names on the way, but it follows no links; any
other path stands for itself, whatever is there.
-/

namespace Transclude.FileTree

/-- Whether a name is not after another: the first character that differs decides. -/
def nameLe : Text → Text → Bool
  | [], _ => true
  | _ :: _, [] => false
  | c :: s, d :: t => if c = d then nameLe s t else c < d

/-- Whether names on a way are not after others: the first name that differs decides. -/
def namesLe : List Text → List Text → Bool
  | [], _ => true
  | _ :: _, [] => false
  | s :: names, t :: others => if s = t then namesLe names others else nameLe s t

/-- Whether a search from the directory `base` sees all entries on the way that `names` lead and the
file at its end. -/
def reaches (tree : FileTree) (base : Place) (names : List Text) : Bool :=
  (List.range names.length).all fun n =>
    tree.isVisible (base ++ names.take (n + 1)) (n + 1 != names.length)

/-- The names that lead from `base` to a document at the node, if a search finds it. -/
def documentNames? (tree : FileTree) (base : Place) : Place × Node → Option (List Text)
  | (place, .file _) =>
    match base.isPrefixOf? place with
    | none => none
    | some names =>
      if Path.isDocumentName (names.getLastD []) && tree.reaches base names then some names
      else none
  | _ => none

/-- The names that lead from the directory `base` to the documents below it, in order. -/
def documentsBelow (tree : FileTree) (base : Place) : List (List Text) :=
  (tree.nodes.filterMap (tree.documentNames? base)).mergeSort namesLe

/-- The documents that a path stands for. -/
def documents (tree : FileTree) (path : Text) : List Text :=
  if tree.isDirectory path then
    match tree.locate path with
    | .ok base => (tree.documentsBelow base).map (Path.joinAll path)
    | .error _ => [path]
  else [path]

/-- The documents that paths stand for, path by path. -/
def collect (tree : FileTree) (paths : List Text) : List Text := paths.flatMap tree.documents

end Transclude.FileTree
