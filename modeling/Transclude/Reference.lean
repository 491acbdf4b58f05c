import Transclude.Text.Basic

/-!
# References

A reference names the content of a snippet: a path with forward slashes, or the address of a
remote file. Only its spelling is looked at here.
-/

namespace Transclude.Reference

/-- Whether the reference is the address of a remote file. -/
def isRemote (reference : Text) : Bool :=
  "http://".toList.isPrefixOf reference || "https://".toList.isPrefixOf reference

/-- The reference up to a question mark or number sign. -/
def path (reference : Text) : Text := reference.takeWhile fun c => c != '?' && c != '#'

/-- What follows the last slash. -/
def fileName (path : Text) : Text :=
  match Text.cutLast? '/' path with
  | some (_, name) => name
  | none => path

/-- The extension of the file that the reference names: what follows the last period of the file's
name, if that has something on either side. -/
def extension? (reference : Text) : Option Text :=
  match Text.cutLast? '.' (fileName (path reference)) with
  | some (stem, extension) => if stem.isEmpty || extension.isEmpty then none else some extension
  | none => none

end Transclude.Reference
