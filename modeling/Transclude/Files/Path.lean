import Transclude.Reference

/-!
# Paths

A path is a text of names with slashes between them. References are resolved against the directory
of the document that holds them; a path that begins with a slash stands for itself.
-/

namespace Transclude.Path

/-- Whether the path begins at the root. -/
def isAbsolute (path : Text) : Bool := path.head? == some '/'

/-- The path of `name` in the directory `base`. -/
def join (base name : Text) : Text :=
  if base.isEmpty || base.getLast? == some '/' then base ++ name else base ++ '/' :: name

/-- The path of the file below `base` that the names lead to. -/
def joinAll (base : Text) (names : List Text) : Text := names.foldl join base

/-- What lies between the slashes of the path. -/
def names (path : Text) : List Text := Text.pieces (· == '/') path

/-- The path that a reference in a document of the directory `base` stands for. -/
def resolve (base reference : Text) : Text :=
  if isAbsolute reference then reference
  else joinAll base ((names reference).filter fun name => !name.isEmpty)

/-- The directory of the file at the path. -/
def parent (path : Text) : Text :=
  match Text.cutLast? '/' path with
  | none => ['.']
  | some ([], _) => ['/']
  | some (directory, _) => directory

/-- The extensions of documents. -/
def documentExtensions : List Text := ["md".toList, "markdown".toList]

/-- Whether a file of this name is a document: whether, in lower case, its extension is that of
one. What begins at the first character is no extension. -/
def isDocumentName (name : Text) : Bool :=
  match Text.cutLast? '.' name with
  | some (stem, extension) =>
    !stem.isEmpty && documentExtensions.contains (Text.toAsciiLower extension)
  | none => false

end Transclude.Path
