import Transclude.Document.Update
import Transclude.System

/-!
# Documents in files

A file tree is a source of contents, and its documents are read from it and written back to it. What
it does not hold comes over the network. A document that need not change is not written.
-/

namespace Transclude

/-- The content at an address. Whatever answer has another status than the one for success holds none. -/
def Network.content (network : Network) (options : FetchOptions) (address : Text) :
    Except FetchFault Bytes :=
  if !options.allowRemote then .error .remoteDisabled
  else
    match network ⟨address, options.timeoutSeconds, options.token⟩ with
    | .error reason => .error (.network reason)
    | .ok response =>
      if response.status = 200 then response.body.mapError .network
      else .error (.status response.status response.phrase)

/-- The content of a reference in a document of the directory `base`. -/
def FileTree.contentAt (tree : FileTree) (network : Network) (options : FetchOptions)
    (base reference : Text) : Except FetchFault Bytes :=
  if Reference.isRemote reference then network.content options reference
  else (tree.read (Path.resolve base reference)).mapError .file

/-- The source of contents that reads files, and goes to the network for addresses. -/
def FileTree.fetcher (tree : FileTree) (network : Network) (options : FetchOptions) : Fetcher :=
  fun base reference =>
    (tree.contentAt network options base reference).mapError fun fault =>
      .ofCause (.fetch reference fault)

namespace Update

/-- The update of the document at the path. -/
def ofFile (tree : FileTree) (fetch : Fetcher) (options : Options) (path : Text) :
    Outcome Update :=
  match tree.readText path with
  | .error fault => ⟨[], .error (.ofCause (.file fault))⟩
  | .ok text =>
    (ofText fetch (Path.parent path) options text).after [] fun update =>
      { update with path := some path }

/-- The tree after the document was written as it should be, and whether it had to be. -/
def write (update : Update) (disk : Disk) (tree : FileTree) : FileTree × Except Failure Bool :=
  match update.path with
  | none => (tree, .ok false)
  | some path =>
    if update.hasChanges then
      match tree.write disk path (Text.encode update.updated) with
      | (tree, none) => (tree, .ok true)
      | (tree, some fault) => (tree, .error (.ofCause (.file fault)))
    else (tree, .ok false)

end Update

end Transclude
