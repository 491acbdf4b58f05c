import Transclude.Files.Glob
import Transclude.Files.Tree

/-!
# What a search leaves out

Files of rules say what a search for documents leaves out. A rule is a glob for paths below the
directory that holds the rules; the last rule that matches decides. Hidden entries are left out
unless a rule keeps them. Rules for a repository count in a repository alone.
-/

namespace Transclude

/-- A rule for the paths that its glob matches. -/
structure IgnoreRule where
  glob : Glob
  /-- Whether the rule keeps what it matches. -/
  keeps : Bool
  /-- Whether the rule is for directories alone. -/
  onlyDirectories : Bool

namespace IgnoreRule

/-! ## Lines -/

/-- The glob for a rule. A rule without a slash holds at any depth, and one for all that is below a
directory does not hold for the directory. -/
def globText (anchored : Bool) (body : Text) : Text :=
  let text :=
    if anchored || body.contains '/' || body == ['*', '*'] then body
    else ['*', '*', '/'] ++ body
  if ['/', '*', '*'].isSuffixOf text then text ++ ['/', '*'] else text

/-- The rule that a text writes after its marks at the start were read. A slash at the end is for
directories; the backslash that may stand before it is dropped. -/
def ofBody? (keeps anchored : Bool) (body : Text) : Option IgnoreRule :=
  match Text.before? ['/'] body with
  | none => (Glob.ofText? (globText anchored body)).map (⟨·, keeps, false⟩)
  | some directory =>
    let name := (Text.before? ['\\'] directory).getD directory
    (Glob.ofText? (globText anchored name)).map (⟨·, keeps, true⟩)

/-- The rule that a text without blanks at its end writes. -/
def ofText? : Text → Option IgnoreRule
  | '\\' :: '!' :: rest => ofBody? false false ('!' :: rest)
  | '\\' :: '#' :: rest => ofBody? false false ('#' :: rest)
  | '!' :: '/' :: rest => ofBody? true true rest
  | '!' :: rest => ofBody? true false rest
  | '/' :: rest => ofBody? false true rest
  | text => ofBody? false false text

/-- The rule on a line, if there is one: a number sign begins a remark. Blanks at the end do not
count unless a backslash stands before the last of them. -/
def ofLine? (line : Text) : Option IgnoreRule :=
  let text := if ['\\', ' '].isSuffixOf line then line else Text.trimEnd line
  if text.isEmpty || line.head? == some '#' then none else ofText? text

/-- The lines of a file of rules, up to the first that is no text. -/
def linesOf (content : Bytes) : List Text :=
  let lines := (Text.lines (Text.octetsOf content)).map fun line =>
    Text.decode? (Text.ofOctets (if Text.endsLine line then Text.stripLineEnding line else line))
  lines.takeWhile Option.isSome |>.filterMap id

/-- The rules of a file. Marks of byte order before the first line do not count. -/
def ofContent (content : Bytes) : List IgnoreRule :=
  match linesOf content with
  | [] => []
  | first :: rest => ((first.dropWhile (· == '\uFEFF')) :: rest).filterMap ofLine?

/-! ## Decisions -/

/-- Whether the rule is for the entry at the path. -/
def applies (rule : IgnoreRule) (path : Text) (isDirectory : Bool) : Bool :=
  (isDirectory || !rule.onlyDirectories) && rule.glob.isMatch path

/-- Whether the rules keep the entry at the path, if they say so. -/
def verdict? (rules : List IgnoreRule) (path : Text) (isDirectory : Bool) : Option Bool :=
  (rules.reverse.find? (·.applies path isDirectory)).map (·.keeps)

end IgnoreRule

namespace FileTree

/-- The node that names lead to from a directory. -/
def findFrom (tree : FileTree) (directory : Place) (names : List Text) : Option Node :=
  match tree.walk maxLinks directory names with
  | .ok stand => tree.node? stand.place
  | .error _ => none

/-- The rules in the file that names lead to from a directory. -/
def rules (tree : FileTree) (directory : Place) (names : List Text) : List IgnoreRule :=
  match (tree.findFrom directory names).map tree.contentOf with
  | some (.ok content) => IgnoreRule.ofContent content
  | _ => []

/-- The directories above a place, the innermost first, each with the names from it to the place. -/
def above (place : Place) : List (Place × List Text) :=
  ((List.range place.length).map fun n => (place.take n, place.drop n)).reverse

/-- What the files of rules called `name` in the directories say about the entry. -/
def verdictIn? (tree : FileTree) (directories : List (Place × List Text)) (name : List Text)
    (isDirectory : Bool) : Option Bool :=
  directories.findSome? fun (directory, names) =>
    IgnoreRule.verdict? (tree.rules directory name) (Path.joinAll [] names) isDirectory

/-- Whether a repository begins at the directory. -/
def isRepository (tree : FileTree) (directory : Place) : Bool :=
  (tree.findFrom directory [".git".toList]).isSome

/-- The directories up to the first where a repository begins; none if there is no such. -/
def inRepository (tree : FileTree) (directories : List (Place × List Text)) :
    List (Place × List Text) :=
  match directories.span fun entry => !tree.isRepository entry.1 with
  | (_, []) => []
  | (inside, top :: _) => inside ++ [top]

/-- What the rules say about the entry at a place. -/
def verdict? (tree : FileTree) (place : Place) (isDirectory : Bool) : Option Bool :=
  let directories := above place
  let repository := tree.inRepository directories
  tree.verdictIn? directories [".ignore".toList] isDirectory
    <|> tree.verdictIn? repository [".gitignore".toList] isDirectory
    <|> tree.verdictIn? repository [".git".toList, "info".toList, "exclude".toList] isDirectory

/-- Whether a name is that of a hidden entry. -/
def isHidden (name : Text) : Bool := name.head? == some '.'

/-- Whether a search sees the entry at a place. -/
def isVisible (tree : FileTree) (place : Place) (isDirectory : Bool) : Bool :=
  (tree.verdict? place isDirectory).getD (!isHidden (place.getLastD []))

end FileTree

end Transclude
