import Transclude.Command.Quoted

/-!
# What can be wrong with a command

One constructor per cause, in the order in which a reader of the command meets them, and the text
that reports each. A reader that never comes to an end reports nothing; that it does not is kept
beside the causes, as the last of them.
-/

namespace Transclude

/-- Why no command comes of the text after a directive's tag. -/
inductive CommandFault where
  /-- The command does not begin with a parenthesis but with `found`. -/
  | noOpenParen (found : Text)
  /-- Nothing follows the tag. -/
  | noCommand
  /-- A list of tokens does not begin with a parenthesis. -/
  | noOpenToken
  | noReference
  | nestedOpenParen
  | noCloseParen
  | openPattern (found : Text)
  | unexpected (found : Text)
  | afterClose (found : Text)
  | badEscape (quoted : Text) (fault : EscapeFault)
  | endWithoutStart
  /-- The token `found` begins at `column`, a byte counted from one. -/
  | extraArgument (found : Text) (column : Nat)
  | badPattern (literal : Text)
  | noLanguage (reference : Text)
  /-- The reading never ends, so there is no answer at all. -/
  | endless
  deriving DecidableEq, Repr

/-- What is wrong with the command. Of a reading that never ends nothing is said. -/
def CommandFault.message : CommandFault → String
  | .noOpenParen found => "expected `(` but found `" ++ String.ofList found ++ "`"
  | .noCommand => "expected `(` after `[embedmd]:#`"
  | .noOpenToken => "expected `(`"
  | .noReference => "missing reference"
  | .nestedOpenParen => "unbalanced parentheses: unexpected `(`"
  | .noCloseParen => "unbalanced parentheses: missing closing `)`"
  | .openPattern found => "unterminated regular expression `" ++ String.ofList found ++ "`"
  | .unexpected found => "unexpected `" ++ String.ofList found ++ "`"
  | .afterClose found => "unexpected `" ++ String.ofList found ++ "` after closing `)`"
  | .badEscape quoted fault =>
    "invalid escape in reference " ++ String.ofList quoted ++ ": " ++ fault.message
  | .endWithoutStart => "end pattern `$` given without a start pattern"
  | .extraArgument found column =>
    "too many arguments: unexpected `" ++ String.ofList found ++ "` at column " ++ toString column
  | .badPattern literal => "invalid regular expression `/" ++ String.ofList literal ++ "/`"
  | .noLanguage reference =>
    "language is required when the reference `" ++ String.ofList reference ++ "` has no extension"
  | .endless => ""

end Transclude
