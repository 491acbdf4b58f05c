import Transclude.Config
import Transclude.Files.Tree

/-!
# Configurations in files

A directory may hold a configuration under one of three names; the first that is there counts. Where
there is none, all defaults hold.
-/

namespace Transclude.Config

/-- The paths under which a configuration is looked for, in order. -/
def fileNames : List Text :=
  ["embedmd.toml".toList, ".embedmd.toml".toList, ".config/embedmd.toml".toList]

/-- The path of the configuration of the directory `root`. -/
def find? (tree : FileTree) (root : Text) : Option Text :=
  (fileNames.map (Path.join root)).find? tree.isFile

/-- The configuration in the file at the path. -/
def ofFile (tree : FileTree) (path : Text) : Except Cause Config :=
  match tree.readText path with
  | .error fault => .error (.file fault)
  | .ok document =>
    match ofToml? document with
    | some config => .ok config
    | none => .error .config

/-- The configuration of the directory `root`, if there is one. -/
def ofDirectory (tree : FileTree) (root : Text) : Except Cause (Option Config) :=
  match find? tree root with
  | none => .ok none
  | some path => (ofFile tree path).map some

end Transclude.Config
