import Transclude.Cli.Arguments
import Transclude.Cli.Paint
import Transclude.Files.Config
import Transclude.Files.Search
import Transclude.Files.Source

/-!
# Runs

A run goes through documents one by one and prints each, writes it back or shows what would change.
A document that fails leaves the files as they are and the run goes on with the next. The status
says how it went: two after a failure, one when a diff shows a change, and else zero. A document that
is never read to its end keeps the run from its own end, and then there is nothing to report.
-/

namespace Transclude

/-- What a run says on its way that is not its output. -/
inductive Complaint where
  /-- The command line is wrong. -/
  | arguments (message : String)
  /-- The run cannot go on. -/
  | run (message : String)
  /-- The document at the path failed. -/
  | document (path : Text)
  | failure (reason : Failure)
  /-- The number of documents that failed. -/
  | count (failed : Nat)
  deriving DecidableEq, Repr

namespace Complaint

/-- A line that marks an error. -/
def errorLine (color : Bool) (t : Text) : Text :=
  Paint.red.apply color "error:".toList ++ ' ' :: t ++ ['\n']

/-- The lines of a text, set in from the margin. -/
def indented (t : String) : Text :=
  (Text.lines t.toList).flatMap (' ' :: ' ' :: ·) ++ ['\n']

/-- What is written about a failure: its code, its message and what may help. -/
def failureText (reason : Failure) : Text :=
  indented reason.code ++ indented reason.message ++
    ((reason.help?.map fun help => indented ("help: " ++ help)).getD [])

/-- The complaint as it is written. The command line is looked at before colors are. -/
def text (color : Bool) : Complaint → Text
  | .arguments message => errorLine false message.toList
  | .run message => errorLine color message.toList
  | .document path => errorLine color (Paint.bold.apply color path)
  | .failure reason => failureText reason
  | .count failed =>
    errorLine color (toString failed ++ " document(s) could not be processed.").toList

end Complaint

/-- What a run leaves behind. -/
structure Report where
  tree : FileTree
  output : Text := []
  complaints : List Complaint := []
  status : Nat := 0
  /-- Whether complaints are painted. -/
  color : Bool := false

/-- What the run writes to standard error. -/
def Report.errors (report : Report) : Text := report.complaints.flatMap (·.text report.color)

/-! ## Documents -/

/-- How the documents of a run are handled. -/
structure Job where
  system : System := {}
  options : Options := {}
  fetch : FetchOptions := {}
  mode : Mode := .print
  verbose : Bool := false
  color : Bool := false

/-- How the work on one document ends. -/
inductive Ending where
  | unchanged
  | changed
  | failed (reason : Failure)
  deriving DecidableEq, Repr

/-- Whether the work never ends. -/
def Ending.isEndless : Ending → Bool
  | .failed reason => reason.isEndless
  | .unchanged | .changed => false

/-- What the work on one document leaves behind. -/
structure Processed where
  path : Text
  tree : FileTree
  output : Text := []
  ending : Ending

namespace Processed

/-- Whether the document failed. -/
def isFailed (done : Processed) : Bool :=
  match done.ending with
  | .failed _ => true
  | _ => false

/-- Whether the document has another text than before, or should have. -/
def isChanged (done : Processed) : Bool := done.ending == .changed

/-- What is said about a document that failed. -/
def complaints (done : Processed) : List Complaint :=
  match done.ending with
  | .failed failure => [.document done.path, .failure failure]
  | _ => []

end Processed

namespace Job

/-- The ending of an update that succeeds. -/
def endingOf (update : Update) : Ending := if update.hasChanges then .changed else .unchanged

/-- What an update puts out when nothing is written. -/
def outputOf (job : Job) (update : Update) : Text :=
  match job.mode with
  | .print => update.updated
  | .write => []
  | .diff => Paint.diff job.color update.diff

/-- Where the contents for documents come from. -/
def fetcher (job : Job) (tree : FileTree) : Fetcher := tree.fetcher job.system.network job.fetch

/-- The update of the document at the path. -/
def updateOf (job : Job) (tree : FileTree) (path : Text) : Except Failure Update :=
  (Update.ofFile tree (job.fetcher tree) job.options path).result

/-- Works on the document at the path. -/
def process (job : Job) (tree : FileTree) (path : Text) : Processed :=
  match job.updateOf tree path with
  | .error failure => { path, tree, ending := .failed failure }
  | .ok update =>
    match job.mode with
    | .print | .diff => { path, tree, output := job.outputOf update, ending := endingOf update }
    | .write =>
      match update.write job.system.disk tree with
      | (tree, .error failure) => { path, tree, ending := .failed failure }
      | (tree, .ok written) =>
        let output := if written && job.verbose then "  ".toList ++ update.name ++ ['\n'] else []
        { path, tree, output, ending := endingOf update }

/-- Works on the documents in order, each in the tree that the one before left. -/
def processAll (job : Job) (tree : FileTree) : List Text → List Processed
  | [] => []
  | path :: rest =>
    let done := job.process tree path
    done :: job.processAll done.tree rest

/-- The tree that the work on documents leaves. -/
def lastTree (tree : FileTree) (all : List Processed) : FileTree :=
  (all.getLast?.map Processed.tree).getD tree

/-- What is said at the end about `total` documents of which `changed` changed and `failed`
failed. -/
def summary (mode : Mode) (total changed failed : Nat) : Text :=
  let counts := toString changed ++ " of " ++ toString (total - failed) ++ " document(s)"
  let isClean : Bool := changed == 0 && failed == 0
  match mode with
  | .print => []
  | .write =>
    if isClean then "All documents are already up to date.\n".toList
    else ("Updated " ++ counts ++ ".\n").toList
  | .diff =>
    if isClean then "All documents are up to date.\n".toList
    else ("\n" ++ counts ++ " out of date. Run `embedmd -w` to update them.\n").toList

/-- The status of a run with so many documents changed and failed. -/
def status (mode : Mode) (changed failed : Nat) : Nat :=
  if 0 < failed then 2 else if mode = .diff && 0 < changed then 1 else 0

/-- What is reported of documents that were all worked on. -/
def reportOf (job : Job) (tree : FileTree) (all : List Processed) : Report :=
  let changed := all.countP Processed.isChanged
  let failed := all.countP Processed.isFailed
  { tree := lastTree tree all
    output := all.flatMap Processed.output ++ summary job.mode all.length changed failed
    complaints := all.flatMap Processed.complaints ++ if 0 < failed then [.count failed] else []
    status := status job.mode changed failed }

/-- Works on the documents at the paths, if the work on all of them ends. -/
def documents (job : Job) (tree : FileTree) (paths : List Text) : Option Report :=
  let all := job.processAll tree paths
  if all.any (·.ending.isEndless) then none else some (job.reportOf tree all)

/-- Works on the document from standard input, if the work ends. Its directory is the current one, by
its full path. -/
def input (job : Job) (tree : FileTree) (content : Bytes) : Option Report :=
  if job.mode = .write then
    some { tree
           complaints := [.run "`--write` cannot be used when reading from standard input"]
           status := 2 }
  else
    match Text.decode? content with
    | none => some { tree, complaints := [.run FileFault.notText.message], status := 2 }
    | some text =>
      match (Update.ofText (job.fetcher tree) tree.currentPath job.options text).result with
      | .error failure =>
        if failure.isEndless then none
        else some { tree, complaints := [.failure failure], status := 2 }
      | .ok update =>
        some { tree
               output := job.outputOf update
               status := status job.mode (if update.hasChanges then 1 else 0) 0 }

end Job

/-! ## Command lines -/

namespace Arguments

/-- The configuration that a run uses: the one that is named, the one of the current directory, or
all defaults. -/
def configIn (arguments : Arguments) (tree : FileTree) : Except Cause Config :=
  match arguments.config with
  | some path => Config.ofFile tree path
  | none => (Config.ofDirectory tree tree.currentPath).map (·.getD {})

/-- The job with a configuration. A fence without marks counts as a block if the command line or
the configuration says so. -/
def job (arguments : Arguments) (system : System) (config : Config) (color : Bool) : Job where
  system
  options :=
    { config.options system.order with bareFences := config.bareFences || arguments.bareFences }
  fetch := config.fetchOptions (system.token? config)
  mode := arguments.mode
  verbose := arguments.verbose
  color := color && !arguments.noColor

/-- Runs what the arguments ask for. There is no report if the run never ends. -/
def run (arguments : Arguments) (system : System) (tree : FileTree) (input : Bytes) (color : Bool) :
    Option Report :=
  match arguments.configIn tree with
  | .error cause => some { tree, complaints := [.failure (.ofCause cause)], status := 2 }
  | .ok config =>
    let job := arguments.job system config color
    let report? :=
      if arguments.readsInput then job.input tree input
      else job.documents tree (tree.collect arguments.paths)
    report?.map fun report => { report with color := job.color }

end Arguments

/-- What is shown when help is asked for. -/
def helpText : String :=
  "Embed code snippets from files and URLs into markdown documents.\n\n" ++
    "Usage: embedmd [OPTIONS] [PATHS]...\n"

/-- What is shown when the version is asked for. -/
def versionText : String := "embedmd_cli 0.1.0\n"

/-- Runs a command line. There is no report if the run never ends. -/
def runCommand (arguments : List Text) (system : System) (tree : FileTree) (input : Bytes)
    (color : Bool) : Option Report :=
  match Arguments.read arguments with
  | .error .help => some { tree, output := helpText.toList }
  | .error .version => some { tree, output := versionText.toList }
  | .error fault =>
    some { tree, complaints := (fault.message?.map Complaint.arguments).toList, status := 2 }
  | .ok arguments => arguments.run system tree input color

end Transclude
