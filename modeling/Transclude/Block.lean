import Transclude.Directive.Command
import Transclude.Fence
import Transclude.Language
import Transclude.Snippet

/-!
# Generated blocks

What a run puts below a directive is a block: a line that marks its begin and echoes the directive,
the lines of the snippet, in a fence unless their language is that of unfenced snippets, and a line
that marks its end. The next run finds the block by these marks and removes it. The echo holds
no end of a comment: the one it would have is written with a backslash.
-/

namespace Transclude.Block

/-! ## Marks -/

/-- What the line that begins a block begins with. -/
def beginMark : Text := "<!-- embedmd:begin".toList

/-- The line that ends a block. -/
def endMark : Text := "<!-- embedmd:end -->".toList

/-- The end of a comment. -/
def commentEnd : Text := "-->".toList

/-- Whether the line begins a block. -/
def isBegin (line : Text) : Bool := beginMark.isPrefixOf (Text.trim line)

/-- Whether the line ends a block. -/
def isEnd (line : Text) : Bool := Text.trim line == endMark

/-- The text with a backslash inside each end of a comment. -/
def guardEnds : Text → Text
  | [] => []
  | '-' :: '-' :: '>' :: rest => '-' :: '-' :: '\\' :: '>' :: guardEnds rest
  | c :: rest => c :: guardEnds rest

/-- The text without the backslashes inside ends of comments. -/
def unguardEnds : Text → Text
  | [] => []
  | '-' :: '-' :: '\\' :: '>' :: rest => '-' :: '-' :: '>' :: unguardEnds rest
  | c :: rest => c :: unguardEnds rest

/-- The line that begins the block of a directive. -/
def beginLine (directive : Directive) (eol : Text) : Text :=
  beginMark ++ ' ' :: guardEnds directive.text ++ ' ' :: commentEnd ++ eol

/-- The command that a line echoes, if it begins a block. -/
def echo? (line : Text) : Option Text :=
  match Text.after? beginMark (Text.trim line) with
  | none => none
  | some rest => (Text.before? commentEnd rest).map unguardEnds

/-- The directive that a line echoes, if it begins a block. -/
def directiveOf? (line : Text) : Option Directive :=
  (echo? line).bind fun command => (Directive.ofCommand command).toOption

/-! ## Writing blocks -/

/-- The lines of a snippet as they stand in a block. -/
def body (snippet : Snippet) (eol : Text) : List Text :=
  let lines := snippet.lines.map (Text.completeLine eol)
  if snippet.language = unfencedLanguage then lines
  else
    let marks := (Fence.around snippet.lines).marks
    (marks ++ snippet.language ++ eol) :: lines ++ [marks ++ eol]

/-- The block of a directive with its snippet. A snippet without a fence may not end the block. -/
def render (directive : Directive) (snippet : Snippet) (eol : Text) : Except Cause (List Text) :=
  if snippet.language = unfencedLanguage ∧ snippet.lines.any isEnd then
    .error (.markerInSnippet directive.reference endMark)
  else .ok (beginLine directive eol :: body snippet eol ++ [endMark ++ eol])

/-! ## Removing blocks -/

/-- Whether the reading of the command that a line echoes never ends. -/
def isEndless (line : Text) : Bool :=
  match (echo? line).map Directive.ofCommand with
  | some (.error .endless) => true
  | _ => false

/-- Whether the block that a line begins has a fence. A line whose echo is no directive begins a
block without one. -/
def isFenced (line : Text) : Bool :=
  match directiveOf? line with
  | some directive => directive.language != some unfencedLanguage
  | none => false

/-- The lines below the opening line of a fence up to the one that closes it, and the rest. -/
def splitFence (fence : Fence) (lines : List Text) : Except Cause (List Text × List Text) :=
  match throughFirst? fence.closes lines with
  | some parts => .ok parts
  | none => .error (.unterminated fence.marks)

/-- The fence at the start of the lines below the begin of a block, and the rest. -/
def splitFenceOf (first : Text) (lines : List Text) : Except Cause (List Text × List Text) :=
  match lines with
  | [] => .ok ([], [])
  | line :: below =>
    match (if isFenced first then Fence.ofLine? line else none) with
    | some fence => (splitFence fence below).map fun (fenced, rest) => (line :: fenced, rest)
    | none => .ok ([], lines)

/-- The lines up to the end of a block, and the rest. -/
def splitEnd (lines : List Text) : Except Cause (List Text × List Text) :=
  match throughFirst? isEnd lines with
  | some parts => .ok parts
  | none => .error (.unterminated endMark)

/-- The block that the line `first` begins, and the rest of the lines below it. -/
def splitMarked (first : Text) (below : List Text) : Except Cause (List Text × List Text) :=
  if isEndless first then .error (.malformed .endless)
  else
    match splitFenceOf first below with
    | .error cause => .error cause
    | .ok (fenced, below) =>
      (splitEnd below).map fun (tail, rest) => (first :: fenced ++ tail, rest)

/-- The block at the start of the lines, and the rest. A fence without marks is a block only where
`bare` allows it. -/
def split (bare : Bool) : List Text → Except Cause (List Text × List Text)
  | [] => .ok ([], [])
  | first :: below =>
    if isBegin first then splitMarked first below
    else
      match (if bare then Fence.ofLine? first else none) with
      | some fence => (splitFence fence below).map fun (fenced, rest) => (first :: fenced, rest)
      | none => .ok ([], first :: below)

/-! ## Nothing is lost -/

theorem append_of_splitFence {fence : Fence} {lines taken rest : List Text}
    (h : splitFence fence lines = .ok (taken, rest)) : taken ++ rest = lines := by
  unfold splitFence at h
  split at h
  · next heq => cases h; exact append_of_throughFirst? heq
  · cases h

theorem append_of_splitFenceOf {first : Text} {lines taken rest : List Text}
    (h : splitFenceOf first lines = .ok (taken, rest)) : taken ++ rest = lines := by
  unfold splitFenceOf at h
  split at h
  · cases h; rfl
  · split at h
    · next fence _ =>
      cases hf : splitFence fence _ with
      | error cause => rw [hf] at h; cases h
      | ok parts =>
        rw [hf] at h
        cases h
        exact congrArg (_ :: ·) (append_of_splitFence hf)
    · cases h; rfl

theorem append_of_splitEnd {lines taken rest : List Text}
    (h : splitEnd lines = .ok (taken, rest)) : taken ++ rest = lines := by
  unfold splitEnd at h
  split at h
  · next heq => cases h; exact append_of_throughFirst? heq
  · cases h

theorem append_of_splitMarked {first : Text} {below taken rest : List Text}
    (h : splitMarked first below = .ok (taken, rest)) : taken ++ rest = first :: below := by
  unfold splitMarked at h
  split at h
  · cases h
  · split at h
    · cases h
    · next fenced below' hf =>
      cases he : splitEnd below' with
      | error cause => rw [he] at h; cases h
      | ok parts =>
        rw [he] at h
        cases h
        rw [List.append_assoc, append_of_splitEnd he, List.cons_append,
          append_of_splitFenceOf hf]

/-- A block and the lines after it are the lines. -/
theorem append_of_split {bare : Bool} {lines taken rest : List Text}
    (h : split bare lines = .ok (taken, rest)) : taken ++ rest = lines := by
  unfold split at h
  split at h
  · cases h; rfl
  · next first below =>
    split at h
    · exact append_of_splitMarked h
    · split at h
      · next fence _ =>
        cases hf : splitFence fence below with
        | error cause => rw [hf] at h; cases h
        | ok parts =>
          rw [hf] at h
          cases h
          exact congrArg (first :: ·) (append_of_splitFence hf)
      · cases h; rfl

end Transclude.Block
