import Transclude.Diff.Settle
import Transclude.Diff.Shortest

/-!
# Unified diffs

A unified diff shows what became of a text: a heading with two names, and for each region of changes
a hunk, whose own heading gives its place and which has three lines of context around the changes.
A line that the text does not end is followed by a note.
-/

namespace Transclude.Diff

/-! ## Lines -/

/-- The pieces of a text that end after each line feed, carriage return, or both in that order. -/
def lines : Text → List Text
  | [] => []
  | '\r' :: '\n' :: rest => ['\r', '\n'] :: lines rest
  | c :: rest =>
    if c = '\n' ∨ c = '\r' then [c] :: lines rest
    else
      match lines rest with
      | [] => [[c]]
      | line :: more => (c :: line) :: more

/-! ## Pieces -/

/-- Lines that are kept, or lines that others replace, from places `old` and `new` on. -/
inductive Piece where
  | same (lines : List Text) (old new : Nat)
  | change (removed added : List Text) (old new : Nat)
  deriving DecidableEq, Repr

namespace Piece

/-- The piece that an edit is by itself. -/
def ofEdit (edit : Edit) : Piece :=
  match edit.kind with
  | .keep => .same edit.lines edit.old edit.new
  | .remove => .change edit.lines [] edit.old edit.new
  | .add => .change [] edit.lines edit.old edit.new

/-- The piece with the lines of an edit of the same sort, if they are of one sort. A change is at
the place of its first removed line and of its first added line. -/
def extend? (piece : Piece) (edit : Edit) : Option Piece :=
  match piece, edit.kind with
  | .same lines old new, .keep => some (.same (lines ++ edit.lines) old new)
  | .change removed added old new, .remove =>
    some (.change (removed ++ edit.lines) added (if removed.isEmpty then edit.old else old) new)
  | .change removed added old new, .add =>
    some (.change removed (added ++ edit.lines) old (if added.isEmpty then edit.new else new))
  | _, _ => none

/-- The pieces that edits make up after `piece`. -/
def ofEditsAfter (piece : Piece) : List Edit → List Piece
  | [] => [piece]
  | edit :: rest =>
    match piece.extend? edit with
    | some piece => ofEditsAfter piece rest
    | none => piece :: ofEditsAfter (ofEdit edit) rest

/-- The pieces that edits make up. -/
def ofEdits : List Edit → List Piece
  | [] => []
  | edit :: rest => ofEditsAfter (ofEdit edit) rest

/-- The places that the piece takes up in the first list, from the first up to the last. -/
def oldRange : Piece → Nat × Nat
  | .same lines old _ => (old, old + lines.length)
  | .change removed _ old _ => (old, old + removed.length)

/-- The places that the piece takes up in the second list, from the first up to the last. -/
def newRange : Piece → Nat × Nat
  | .same lines _ new => (new, new + lines.length)
  | .change _ added _ new => (new, new + added.length)

/-- The last lines of a piece of kept lines. -/
def lastLines (count : Nat) : Piece → Piece
  | .same lines old new =>
    let skipped := lines.length - count
    .same (lines.drop skipped) (old + skipped) (new + skipped)
  | piece => piece

/-- The first lines of a piece of kept lines. -/
def firstLines (count : Nat) : Piece → Piece
  | .same lines old new => .same (lines.take count) old new
  | piece => piece

end Piece

/-! ## Hunks -/

/-- The number of lines of context. -/
def context : Nat := 3

/-- The pieces with no more than the context left before the first change and after the last. -/
def trimContext : List Piece → List Piece
  | [] => []
  | first :: rest =>
    match (first.lastLines context :: rest).reverse with
    | [] => []
    | last :: before => (last.firstLines context :: before).reverse

/-- The pieces in groups that kept lines separate, twice as many as the context; `pending` are those
of the current group, the last first. -/
def groupsFrom (pending : List Piece) : List Piece → List (List Piece)
  | [] =>
    match pending with
    | [] | [.same _ _ _] => []
    | _ => [pending.reverse]
  | piece :: rest =>
    match piece with
    | .same lines _ _ =>
      if 2 * context < lines.length then
        (piece.firstLines context :: pending).reverse ::
          groupsFrom [piece.lastLines context] rest
      else groupsFrom (piece :: pending) rest
    | .change _ _ _ _ => groupsFrom (piece :: pending) rest

/-- A line of a unified diff. -/
inductive Line where
  | oldName (name : Text)
  | newName (name : Text)
  /-- The heading of a hunk, with the places that it takes up in either list. -/
  | hunk (old new : Nat × Nat)
  | kept (line : Text)
  | removed (line : Text)
  | added (line : Text)
  deriving DecidableEq, Repr

/-- A range of places as it is written: the number of its first line and of its lines, unless there
is one. A range without lines is named by the line before it. -/
def rangeText (range : Nat × Nat) : Text :=
  let length := range.2 - range.1
  let number (n : Nat) : Text := (toString n).toList
  if length = 1 then number (range.1 + 1)
  else if length = 0 then number range.1 ++ ",0".toList
  else number (range.1 + 1) ++ ',' :: number length

/-- A line of a text behind a mark, with a note if the text ends without ending the line. -/
def markedText (mark : Char) (line : Text) : Text :=
  let ended := line.getLast? = some '\n' ∨ line.getLast? = some '\r'
  mark :: line ++ (if ended then [] else "\n\\ No newline at end of file\n".toList)

/-- The line as it is written. -/
def Line.text : Line → Text
  | .oldName name => "--- ".toList ++ name ++ ['\n']
  | .newName name => "+++ ".toList ++ name ++ ['\n']
  | .hunk old new =>
    "@@ -".toList ++ rangeText old ++ " +".toList ++ rangeText new ++ " @@\n".toList
  | .kept line => markedText ' ' line
  | .removed line => markedText '-' line
  | .added line => markedText '+' line

/-- The lines that show a piece. -/
def Piece.toLines : Piece → List Line
  | .same lines _ _ => lines.map .kept
  | .change removed added _ _ => removed.map .removed ++ added.map .added

/-- The lines that show a group of pieces. -/
def hunkLines (group : List Piece) : List Line :=
  match group, group.getLast? with
  | first :: _, some last =>
    .hunk (first.oldRange.1, last.oldRange.2) (first.newRange.1, last.newRange.2) ::
      group.flatMap Piece.toLines
  | _, _ => []

/-- The lines of the unified diff between two texts with names. -/
def unifiedLines (oldName newName before after : Text) : List Line :=
  let edits := settle (shortest (lines before) (lines after))
  let groups := groupsFrom [] (trimContext (Piece.ofEdits edits))
  if groups.isEmpty then []
  else .oldName oldName :: .newName newName :: groups.flatMap hunkLines

/-- The unified diff between two texts with names. -/
def unified (oldName newName before after : Text) : Text :=
  (unifiedLines oldName newName before after).flatMap Line.text

end Transclude.Diff
