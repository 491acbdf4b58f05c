import Transclude.Document.Part
import Transclude.Text.Bytes

/-!
# Refreshing documents

To refresh a document is to copy its lines and to put a fresh block below each directive in place of
the old one. The parts are gone through once, from the first to the last; the first failure ends the
run and leaves no text. What was asked for is kept beside the result, in order.
-/

namespace Transclude

/-- A source of contents: from the directory of a document and a reference to the content. -/
abbrev Fetcher := Text → Text → Except Failure Bytes

/-- A question to a source of contents. -/
structure Call where
  base : Text
  reference : Text
  deriving DecidableEq, Repr

/-- How documents are refreshed. -/
structure Options where
  languages : Languages := {}
  /-- Whether a fence without marks below a directive is a block. -/
  bareFences : Bool := false

/-- Where the contents of a document come from and how their languages are found. -/
structure Sources where
  fetch : Fetcher
  /-- The directory of the document. -/
  base : Text
  languages : Languages

namespace Sources

/-- The content of a reference. -/
def content (sources : Sources) (reference : Text) : Except Failure Text :=
  match sources.fetch sources.base reference with
  | .error failure => .error failure
  | .ok bytes =>
    match Text.decode? bytes with
    | some text => .ok text
    | none => .error (.ofCause (.fetch reference .notText))

/-- The block of a directive. -/
def embed (sources : Sources) (directive : Directive) (eol : Text) : Except Failure (List Text) :=
  match sources.languages.resolve directive with
  | .error cause => .error (.ofCause cause)
  | .ok language =>
    match sources.content directive.reference with
    | .error failure => .error failure
    | .ok text =>
      match directive.selection.extract text with
      | .error cause => .error (.ofCause cause)
      | .ok lines => (Block.render directive ⟨lines, language⟩ eol).mapError .ofCause

/-- The calls that the block of a directive takes: one, unless its language is unknown. -/
def callsOf (sources : Sources) (directive : Directive) : List Call :=
  match sources.languages.resolve directive with
  | .error _ => []
  | .ok _ => [⟨sources.base, directive.reference⟩]

end Sources

/-- The result of a run and what it asked for. -/
structure Outcome (α : Type) where
  calls : List Call
  result : Except Failure α

/-- The outcome with `f` applied to the result, after other calls. -/
def Outcome.after (calls : List Call) (f : α → β) (outcome : Outcome α) : Outcome β :=
  ⟨calls ++ outcome.calls, outcome.result.map f⟩

namespace Document

/-- The lines of the rest of a document, from the line numbered `number` on. -/
def refreshParts (sources : Sources) (number : Nat) : List Part → Outcome (List Text)
  | [] => ⟨[], .ok []⟩
  | .copied line :: rest => (refreshParts sources (number + 1) rest).after [] (line :: ·)
  | .broken _ cause :: _ => ⟨[], .error ((Failure.ofCause cause).atLine number)⟩
  | .directive line directive old :: rest =>
    let calls := sources.callsOf directive
    let eol := Text.lineEnding line
    match sources.embed directive eol with
    | .error failure => ⟨calls, .error (failure.atLine number)⟩
    | .ok block =>
      (refreshParts sources (number + 1 + old.length) rest).after calls
        fun lines => Text.completeLine eol line :: block ++ lines

/-- The document with a fresh block below each directive. -/
def refresh (fetch : Fetcher) (base : Text) (options : Options) (document : Text) :
    Outcome Text :=
  (refreshParts ⟨fetch, base, options.languages⟩ 1 (parts options.bareFences document)).after []
    List.flatten

end Document

end Transclude
