import Transclude.Diff.Unified
import Transclude.Document.Refresh

/-!
# Updates of documents

An update is a document with the text that it should have. It knows whether that is another text and
shows the difference.
-/

namespace Transclude

/-- A document with its present text and the text that it should have. -/
structure Update where
  /-- The path of the document, unless it was read from standard input. -/
  path : Option Text
  present : Text
  updated : Text
  deriving DecidableEq, Repr

namespace Update

/-- Whether the document should change. -/
def hasChanges (update : Update) : Bool := update.present != update.updated

/-- The name of a document from standard input. -/
def inputName : Text := "<stdin>".toList

/-- The name of the document. -/
def name (update : Update) : Text := update.path.getD inputName

/-- The difference that the update makes, as a unified diff. -/
def diff (update : Update) : Text :=
  if update.hasChanges then
    Diff.unified ("a/".toList ++ update.name) ("b/".toList ++ update.name) update.present
      update.updated
  else []

/-- The update of a text. -/
def ofText (fetch : Fetcher) (base : Text) (options : Options) (text : Text) : Outcome Update :=
  (Document.refresh fetch base options text).after [] fun updated => ⟨none, text, updated⟩

end Update

end Transclude
