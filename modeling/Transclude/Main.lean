import Transclude.Cli.Run

/-!
# The program

The files that a run may look at are read into a tree, the command line is run on that tree, and
what the run leaves behind goes back to the disk and to the standard streams. Nothing is decided
here.
-/

namespace Transclude.Disk

/-! ## Reading -/

/-- The path of a place. -/
def pathOf (place : Place) : String := "/" ++ "/".intercalate (place.map String.ofList)

/-- The tree with a file at a place and what it holds. -/
def loadFile (tree : FileTree) (place : Place) : IO FileTree := do
  let content : Except FileFault Bytes ←
    try pure (.ok (← IO.FS.readBinFile (pathOf place)))
    catch error => pure (.error (.refused (toString error)))
  let number :=
    match tree.node? place with
    | some (.file number) => number
    | _ => tree.freshNumber
  let tree := tree.set place (.file number)
  return { tree with content := fun n => if n = number then content else tree.content n }

/-- The tree with what is at a place. A link is taken with the full path of what it leads to. -/
def loadNode (tree : FileTree) (place : Place) : IO FileTree := do
  let entry : IO.FS.DirEntry := ⟨pathOf place.dropLast, String.ofList (place.getLastD [])⟩
  try
    match (← entry.path.symlinkMetadata).type with
    | .dir => return tree.set place .directory
    | .file => loadFile tree place
    | .symlink =>
      let target ← IO.FS.realPath (pathOf place)
      return tree.set place (.link target.toString.toList)
    | .other => return tree.set place .null
  catch _ => return tree

/-- The tree with all that names lead past from a directory. -/
partial def loadFrom (tree : FileTree) (place : Place) : List Text → IO FileTree
  | [] => return tree
  | name :: rest => do
    match tree.step place name with
    | .error _ => return tree
    | .ok next =>
      let tree ← loadNode tree next
      match tree.node? next with
      | some (.link target) =>
        loadFrom tree (FileTree.start place target) (Path.names target ++ rest)
      | _ => loadFrom tree next rest

/-- The tree with all that the path leads past. -/
def load (tree : FileTree) (path : Text) : IO FileTree :=
  loadFrom tree (FileTree.start tree.current path) (Path.names path)

/-- The tree with all that the paths lead past. -/
def loadAll (tree : FileTree) (paths : List Text) : IO FileTree := paths.foldlM load tree

/-- The paths of the files of rules in a directory. -/
def rulePaths (directory : Place) : List Text :=
  [".ignore", ".gitignore", ".git/info/exclude"].map fun name =>
    Path.join (pathOf directory).toList name.toList

/-- The tree with the rules that hold in a directory because they are above it. -/
def loadRules (tree : FileTree) (directory : Place) : IO FileTree :=
  loadAll tree ((FileTree.above directory).flatMap fun above => rulePaths above.1)

/-- The tree with the rules in a directory and with the names of the files below it. Their contents
are left out. -/
partial def loadBelow (tree : FileTree) (directory : Place) : IO FileTree := do
  let mut tree := tree
  let path ← IO.FS.realPath (pathOf directory)
  for entry in ← path.readDir do
    let place := directory ++ [entry.fileName.toList]
    match (← entry.path.symlinkMetadata).type with
    | .dir =>
      tree := tree.set place .directory
      if entry.fileName != ".git" then tree ← loadBelow tree place
    | .file =>
      if (tree.node? place).isNone then tree := tree.set place (.file tree.freshNumber)
    | _ => pure ()
  loadAll tree (rulePaths directory)

/-- The tree with what the references in a document lead to. -/
def loadReferences (tree : FileTree) (base : Text) (bareFences : Bool) (document : Text) :
    IO FileTree :=
  loadAll tree ((Document.references bareFences document).map (Path.resolve base))

/-- The tree with the documents that a path stands for. -/
def loadPath (tree : FileTree) (path : Text) : IO FileTree := do
  let tree ← load tree path
  if tree.isDirectory path then
    match tree.locate path with
    | .ok directory => loadBelow (← loadRules tree directory) directory
    | .error _ => return tree
  else return tree

/-- The system as far as a run with the configuration depends on it. No answer comes from its
network. -/
def systemFor (config : Config) : IO System := do
  let name := config.fetch.tokenVariable
  let value ← IO.getEnv (String.ofList name)
  return { valueOf? := fun other => if other = name then value.map String.toList else none }

/-- The files that cannot be written, among those of the documents, and what the system says. -/
def refusals (tree : FileTree) (documents : List Text) : IO (List (Nat × FileFault)) :=
  documents.filterMapM fun path => do
    match tree.file? path, tree.locate path with
    | some number, .ok place =>
      try
        let _ ← IO.FS.Handle.mk (pathOf place) .append
        return none
      catch error => return some (number, .refused (toString error))
    | _, _ => return none

/-- The tree with all that a run may look at, and the system around it. -/
def gather (tree : FileTree) (arguments : Arguments) (input : Bytes) : IO (FileTree × System) := do
  let configs := arguments.config.toList ++ Config.fileNames.map (Path.join tree.currentPath)
  let tree ← loadAll tree configs
  match arguments.configIn tree with
  | .error _ => return (tree, {})
  | .ok config =>
    let system ← systemFor config
    let bareFences := config.bareFences || arguments.bareFences
    if arguments.readsInput then
      let text := (Text.decode? input).getD []
      return (← loadReferences tree tree.currentPath bareFences text, system)
    else
      let tree ← arguments.paths.foldlM loadPath tree
      let documents := tree.collect arguments.paths
      let tree ← loadAll tree documents
      let tree ← documents.foldlM (fun tree path =>
        loadReferences tree (Path.parent path) bareFences ((tree.readText path).toOption.getD []))
        tree
      let refused ← if arguments.mode = .write then refusals tree documents else pure []
      return (tree, { system with disk := fun _ number _ => (refused.lookup number).map (⟨·, none⟩) })

/-- All that comes from a stream. -/
partial def readAll (stream : IO.FS.Stream) (before : Bytes) : IO Bytes := do
  let more ← stream.read 65536
  if more.isEmpty then return before else readAll stream (before ++ more)

/-! ## Writing -/

/-- Writes the files that are not as before. -/
def save (before after : FileTree) : IO Unit :=
  after.nodes.forM fun (place, node) => do
    match node with
    | .file number =>
      match before.content number, after.content number with
      | .ok old, .ok new =>
        if old.toList != new.toList then IO.FS.writeBinFile (pathOf place) new
      | _, _ => pure ()
    | .directory | .null | .link _ => pure ()

/-! ## Running -/

/-- Runs a command line from the directory `here`. -/
def run (words : List Text) (here : Place) (color : Bool) : IO UInt32 := do
  let bare := FileTree.ofFiles here []
  let (tree, system, input) ←
    match Arguments.read words with
    | .error _ => pure (bare, {}, ByteArray.empty)
    | .ok asked => do
      let takesInput := asked.readsInput && asked.mode != .write
      let input ←
        if takesInput then readAll (← IO.getStdin) ByteArray.empty else pure ByteArray.empty
      let (tree, system) ← gather bare asked input
      pure (tree, system, input)
  match runCommand words system tree input color with
  | none => throw (IO.userError "The reading of a command does not end.")
  | some report =>
    save tree report.tree
    (← IO.getStdout).write (Text.encode report.output)
    (← IO.getStderr).write (Text.encode report.errors)
    return report.status.toUInt32

end Transclude.Disk

/-- Runs the command line in the current directory. -/
def main (arguments : List String) : IO UInt32 := do
  let here := Transclude.Path.names (← IO.currentDir).toString.toList
  let color := (← IO.getEnv "NO_COLOR").isNone
  Transclude.Disk.run (arguments.map String.toList) (here.filter fun name => !name.isEmpty) color
