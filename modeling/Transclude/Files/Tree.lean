import Transclude.Failure
import Transclude.Files.Path
import Transclude.Text.Bytes

/-!
# File trees

A file tree has a node at each of its places; a place is the list of the names that lead to it from
the root. What files hold is kept apart from their names, so a file may be found at several places.
Paths are walked name by name from the root or from the current directory, and on along the paths of
the links on the way. What is written to a file is read under all of its names, and nothing else
changes (`content_withContent`).
-/

namespace Transclude

/-- The names that lead from the root to a file or directory. -/
abbrev Place := List Text

/-- What can be at a place. -/
inductive Node where
  /-- A name of the file with this number; a file may have several. -/
  | file (number : Nat)
  | directory
  /-- A file that is always empty and takes whatever is written to it. -/
  | null
  /-- A symbolic link, which leads on along a path. -/
  | link (target : Text)
  deriving DecidableEq, Repr

/-- The nodes of a file system, each at a place of its own, what its files hold, and the current
directory. There is always a directory at the root. -/
structure FileTree where
  nodes : List (Place × Node) := []
  /-- The content of a file, by its number, or why it cannot be read. -/
  content : Nat → Except FileFault Bytes := fun _ => .ok ByteArray.empty
  current : Place := []
  distinct : (nodes.map Prod.fst).Nodup := by decide

/-- Why the system does not write a content to a file. -/
structure Refusal where
  fault : FileFault
  /-- What the file holds then, unless it is as before. -/
  left : Option Bytes := none

/-- What the system says to writing a content to a file, by its number. -/
abbrev Disk := FileTree → Nat → Bytes → Option Refusal

/-- A disk to which everything can be written. -/
def Disk.free : Disk := fun _ _ _ => none

namespace FileTree

/-! ## Nodes -/

/-- The node at a place. -/
def node? (tree : FileTree) (place : Place) : Option Node :=
  if place.isEmpty then some .directory else tree.nodes.lookup place

/-- The nodes without the one at `place`. -/
def others (place : Place) (nodes : List (Place × Node)) : List (Place × Node) :=
  nodes.filter fun entry => entry.1 != place

theorem not_mem_map_others (place : Place) (nodes : List (Place × Node)) :
    place ∉ (others place nodes).map Prod.fst := by
  intro h
  obtain ⟨entry, he, rfl⟩ := List.mem_map.mp h
  simp [others] at he

theorem nodup_map_others (place : Place) {nodes : List (Place × Node)}
    (h : (nodes.map Prod.fst).Nodup) : ((others place nodes).map Prod.fst).Nodup :=
  h.sublist (List.filter_sublist.map Prod.fst)

theorem lookup_others_of_ne {place other : Place} (h : other ≠ place)
    (nodes : List (Place × Node)) : (others place nodes).lookup other = nodes.lookup other := by
  induction nodes with
  | nil => rfl
  | cons entry rest ih =>
    obtain ⟨key, node⟩ := entry
    by_cases hk : key = place
    · subst hk
      simpa [others, List.lookup_cons, beq_false_of_ne h] using ih
    · by_cases ho : other = key
      · subst ho
        simp [others, hk]
      · simpa [others, hk, List.lookup_cons, beq_false_of_ne ho] using ih

/-- The tree with `node` at `place`. -/
def set (tree : FileTree) (place : Place) (node : Node) : FileTree where
  nodes := (place, node) :: others place tree.nodes
  content := tree.content
  current := tree.current
  distinct := List.nodup_cons.mpr ⟨not_mem_map_others place tree.nodes,
    nodup_map_others place tree.distinct⟩

/-- What is put at a place is there, and all other places keep what they have. -/
theorem node?_set (tree : FileTree) (place other : Place) (node : Node) (h : place ≠ []) :
    (tree.set place node).node? other = if other = place then some node else tree.node? other := by
  by_cases ho : other = place
  · subst ho
    simp [node?, set, h]
  · simp [node?, set, ho, List.lookup_cons, beq_false_of_ne ho, lookup_others_of_ne ho]

/-! ## Contents -/

/-- The tree with the content in the file. -/
def withContent (tree : FileTree) (number : Nat) (content : Bytes) : FileTree :=
  { tree with content := fun n => if n = number then .ok content else tree.content n }

/-- What is put into a file is there, and all other files keep what they have. -/
theorem content_withContent (tree : FileTree) (number other : Nat) (content : Bytes) :
    (tree.withContent number content).content other =
      if other = number then .ok content else tree.content other :=
  rfl

/-- A number that no file has. -/
def freshNumber (tree : FileTree) : Nat :=
  tree.nodes.foldl (fun n entry =>
    match entry.2 with
    | .file number => max n (number + 1)
    | _ => n) 0

/-! ## Walks -/

/-- The greatest number of bytes of a name. -/
def maxNameSize : Nat := 255

/-- The greatest number of bytes of a path. -/
def maxPathSize : Nat := 4095

/-- The greatest number of links on the way of a path. -/
def maxLinks : Nat := 40

/-- The place that a name leads to from `place`, where there must be a directory. The empty name and
a period stay, two periods lead one up. -/
def step (tree : FileTree) (place : Place) (name : Text) : Except FileFault Place :=
  match tree.node? place with
  | none => .error .notFound
  | some .directory =>
    if name.isEmpty || name == ['.'] then .ok place
    else if name == ['.', '.'] then .ok place.dropLast
    else if maxNameSize < Text.utf8Size name then .error .nameTooLong
    else .ok (place ++ [name])
  | some _ => .error .notDirectory

/-- Where a walk along names halts: at its end, or at a link in a directory, with names left. -/
inductive Halt where
  | arrived (place : Place)
  | link (directory : Place) (target : Text) (rest : List Text)
  deriving DecidableEq, Repr

/-- Walks along names, one after the other, up to the first that leads to a link. -/
def advance (tree : FileTree) (place : Place) : List Text → Except FileFault Halt
  | [] => .ok (.arrived place)
  | name :: rest =>
    match tree.step place name with
    | .error fault => .error fault
    | .ok next =>
      match tree.node? next with
      | some (.link target) => .ok (.link place target rest)
      | _ => tree.advance next rest

/-- Where a path leads from a directory begins there or at the root. -/
def start (directory : Place) (path : Text) : Place :=
  if Path.isAbsolute path then [] else directory

/-- Where a walk stands, and how many links it may still follow. -/
structure Stand where
  place : Place
  links : Nat
  deriving DecidableEq, Repr

/-- Walks along names and along the paths of the links on the way. -/
def walk (tree : FileTree) (links : Nat) (place : Place) (names : List Text) :
    Except FileFault Stand :=
  match tree.advance place names with
  | .error fault => .error fault
  | .ok (.arrived place) => .ok ⟨place, links⟩
  | .ok (.link directory target rest) =>
    match links with
    | 0 => .error .tooManyLinks
    | links + 1 => tree.walk links (start directory target) (Path.names target ++ rest)

/-- The path of the current directory, from the root on. -/
def currentPath (tree : FileTree) : Text := Path.joinAll ['/'] tree.current

/-- Where the walk along a path ends. -/
def reach (tree : FileTree) (path : Text) : Except FileFault Stand :=
  tree.walk maxLinks (start tree.current path) (Path.names path)

/-- The place that a path leads to; there may be nothing. -/
def locate (tree : FileTree) (path : Text) : Except FileFault Place :=
  if path.contains '\x00' then .error .nulInName
  else if path.isEmpty then .error .notFound
  else if maxPathSize < Text.utf8Size path then .error .nameTooLong
  else (tree.reach path).map Stand.place

/-- The node that a path leads to. -/
def find (tree : FileTree) (path : Text) : Except FileFault Node :=
  match tree.locate path with
  | .error fault => .error fault
  | .ok place =>
    match tree.node? place with
    | some node => .ok node
    | none => .error .notFound

/-- The number of the file that a path leads to. -/
def file? (tree : FileTree) (path : Text) : Option Nat :=
  match tree.find path with
  | .ok (.file number) => some number
  | _ => none

/-- Whether there is a file at the path. -/
def isFile (tree : FileTree) (path : Text) : Bool := (tree.file? path).isSome

/-- Whether there is a directory at the path. -/
def isDirectory (tree : FileTree) (path : Text) : Bool :=
  match tree.find path with
  | .ok .directory => true
  | _ => false

/-! ## Reading and writing -/

/-- What is read from a node. No path ends at a link. -/
def contentOf (tree : FileTree) : Node → Except FileFault Bytes
  | .file number => tree.content number
  | .null => .ok ByteArray.empty
  | .directory => .error .isDirectory
  | .link _ => .error .tooManyLinks

/-- The content of the file at the path. -/
def read (tree : FileTree) (path : Text) : Except FileFault Bytes :=
  match tree.find path with
  | .error fault => .error fault
  | .ok node => tree.contentOf node

/-- The text of the file at the path. -/
def readText (tree : FileTree) (path : Text) : Except FileFault Text :=
  match tree.read path with
  | .error fault => .error fault
  | .ok bytes =>
    match Text.decode? bytes with
    | some text => .ok text
    | none => .error .notText

/-- What the file holds after the content was written to it, and why it was not, unless it was. -/
def writeFile (tree : FileTree) (disk : Disk) (number : Nat) (content : Bytes) :
    FileTree × Option FileFault :=
  match disk tree number content with
  | none => (tree.withContent number content, none)
  | some refusal =>
    ((refusal.left.map (tree.withContent number)).getD tree, some refusal.fault)

/-- The tree after the content was written at the path, in a new file or in place of the old content,
and why it was not, unless it was. -/
def write (tree : FileTree) (disk : Disk) (path : Text) (content : Bytes) :
    FileTree × Option FileFault :=
  match tree.locate path with
  | .error fault => (tree, some fault)
  | .ok place =>
    match tree.node? place with
    | some .directory => (tree, some .isDirectory)
    | some .null => (tree, none)
    | some (.link _) => (tree, some .tooManyLinks)
    | some (.file number) => tree.writeFile disk number content
    | none =>
      (tree.set place (.file tree.freshNumber)).writeFile disk tree.freshNumber content

/-! ## Building trees -/

/-- The tree with directories at all places that the names lead to and that hold nothing. -/
def makeDirectories (tree : FileTree) (place : Place) : List Text → FileTree
  | [] => tree
  | name :: rest =>
    match tree.step place name with
    | .error _ => tree
    | .ok next =>
      let tree := if (tree.node? next).isSome then tree else tree.set next .directory
      tree.makeDirectories next rest

/-- The tree with the content at the path and with the directories on the way. A path that ends with
a slash makes a directory. -/
def put (tree : FileTree) (path : Text) (content : Bytes) : FileTree :=
  let tree := tree.makeDirectories (start tree.current path) (Path.names path).dropLast
  (tree.write .free path content).1

/-- The tree with nothing but the file that is always empty. -/
def bare : FileTree where
  nodes := [(["dev".toList], .directory), (["dev".toList, "null".toList], .null)]

/-- The tree of the files, their paths relative to the directory `current`. -/
def ofFiles (current : Place) (files : List (Text × Bytes)) : FileTree :=
  let tree := bare.makeDirectories [] current
  files.foldl (fun tree file => tree.put file.1 file.2) { tree with current }

end FileTree

end Transclude
