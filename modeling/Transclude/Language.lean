import Transclude.Directive.Basic
import Transclude.Failure
import Transclude.Reference

/-!
# Languages of snippets

The language of a snippet is the one that its directive names, or else follows from the extension
of the reference. Overrides go before the languages known here, and an extension that neither knows
is its own language.
-/

namespace Transclude

/-- The language of snippets that stand for themselves, without a fence. -/
def unfencedLanguage : Text := "none".toList

/-- Languages for extensions, which go before those known here. -/
structure Languages where
  /-- The language for an extension in lower case and without leading periods, if there is one. -/
  override? : Text → Option Text := fun _ => none

namespace Languages

/-- The languages known for extensions. -/
def known : List (String × String) :=
  [("go", "go"), ("rs", "rust"), ("py", "python"), ("js", "javascript"), ("mjs", "javascript"),
    ("cjs", "javascript"), ("ts", "typescript"), ("tsx", "tsx"), ("jsx", "jsx"), ("rb", "ruby"),
    ("sh", "bash"), ("bash", "bash"), ("zsh", "zsh"), ("yml", "yaml"), ("yaml", "yaml"),
    ("md", "markdown"), ("markdown", "markdown"), ("kt", "kotlin"), ("cs", "csharp"),
    ("cc", "cpp"), ("cpp", "cpp"), ("cxx", "cpp"), ("hpp", "cpp"), ("h", "c"),
    ("ps1", "powershell"), ("pl", "perl"), ("hs", "haskell"), ("ex", "elixir"),
    ("exs", "elixir")]

/-- The extension in the form in which overrides hold it. -/
def key (extension : Text) : Text := Text.toAsciiLower (extension.dropWhile (· == '.'))

/-- The languages with one more override, for an extension written in any case and with leading
periods. It takes the place of any other for the extension. -/
def withOverride (languages : Languages) (entry : Text × Text) : Languages :=
  ⟨fun extension => if extension = key entry.1 then some entry.2 else languages.override? extension⟩

/-- The languages with overrides, which are gone through in order. -/
def ofOverrides (entries : List (Text × Text)) : Languages := entries.foldl withOverride {}

/-- The language known for an extension in lower case. -/
def known? (extension : Text) : Option Text :=
  (known.find? fun entry => entry.1.toList == extension).map fun entry => entry.2.toList

/-- The language of files with an extension. -/
def ofExtension (languages : Languages) (extension : Text) : Text :=
  let lower := Text.toAsciiLower extension
  match languages.override? lower with
  | some language => language
  | none => (known? lower).getD extension

/-- The language of the snippet that a directive asks for. -/
def resolve (languages : Languages) (directive : Directive) : Except Cause Text :=
  match directive.language, Reference.extension? directive.reference with
  | some language, _ => .ok language
  | none, some extension => .ok (languages.ofExtension extension)
  | none, none => .error (.malformed (.noLanguage directive.reference))

end Languages

end Transclude
