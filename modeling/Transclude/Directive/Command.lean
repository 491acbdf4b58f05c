import Transclude.Command.Token
import Transclude.Directive.Basic
import Transclude.Reference

/-!
# Directives from commands

A line with a directive begins with a tag, and the command follows it. A command's tokens are read
from left to right: a reference, a language if a word follows, a pattern if one follows, and after
it the end of the range. Whatever is left over before the closing parenthesis is refused.
-/

namespace Transclude.Directive

variable [Matcher]

/-! ## Lines -/

/-- What a line with a directive begins with, blanks apart. -/
def tag : Text := "[embedmd]:#".toList

/-- The command on a line with a directive. -/
def commandOf? (line : Text) : Option Text := Text.after? tag (Text.trim line)

/-! ## Arguments -/

/-- The language at the start of the arguments, and the rest. -/
def readLanguage : List PlacedToken → Option Text × List PlacedToken
  | ⟨.word language, _, _⟩ :: rest => (some language, rest)
  | tokens => (none, tokens)

/-- The pattern at the start of the arguments, if one stands there, and the rest. -/
def readPattern (tokens : List PlacedToken) :
    Except CommandFault (Option Pattern × List PlacedToken) :=
  match tokens with
  | ⟨.pattern literal, _, _⟩ :: rest =>
    match Pattern.ofLiteral? literal with
    | some pattern => .ok (some pattern, rest)
    | none => .error (.badPattern literal)
  | _ => .ok (none, tokens)

/-- The end of a range that starts with `start`, if one is written, and the rest. -/
def readEnd (start : Pattern) (tokens : List PlacedToken) :
    Except CommandFault (Selection × List PlacedToken) :=
  match readPattern tokens with
  | .error fault => .error fault
  | .ok (some stop, rest) => .ok (.range start (.through stop), rest)
  | .ok (none, ⟨.endOfContent, _, _⟩ :: rest) => .ok (.range start .endOfContent, rest)
  | .ok (none, _) => .ok (.line start, tokens)

/-- The selection at the start of the arguments, and the rest. -/
def readSelection (tokens : List PlacedToken) :
    Except CommandFault (Selection × List PlacedToken) :=
  match readPattern tokens with
  | .error fault => .error fault
  | .ok (some start, rest) => readEnd start rest
  | .ok (none, ⟨.endOfContent, _, _⟩ :: _) => .error .endWithoutStart
  | .ok (none, _) => .ok (.whole, tokens)

/-- Checks that the closing parenthesis follows the arguments. -/
def readClose : List PlacedToken → Except CommandFault Unit
  | [] => .error .noCloseParen
  | ⟨.closeParen, _, _⟩ :: _ => .ok ()
  | ⟨token, start, _⟩ :: _ => .error (.extraArgument token.text (start + 1))

/-- The directive, unless nothing says which language its content is in. -/
def checkLanguage (directive : Directive) : Except CommandFault Directive :=
  if directive.language.isNone && (Reference.extension? directive.reference).isNone then
    .error (.noLanguage directive.reference)
  else .ok directive

/-- The directive that the arguments after a reference complete. -/
def ofArguments (reference : Text) (tokens : List PlacedToken) : Except CommandFault Directive :=
  let (language, rest) := readLanguage tokens
  match readSelection rest with
  | .error fault => .error fault
  | .ok (selection, rest) =>
    match readClose rest with
    | .error fault => .error fault
    | .ok () => checkLanguage ⟨reference, language, selection⟩

/-! ## Commands -/

/-- The directive that the tokens of a command write. -/
def ofTokens : List PlacedToken → Except CommandFault Directive
  | ⟨.openParen, _, _⟩ :: ⟨.reference reference, _, _⟩ :: rest =>
    if reference.isEmpty then .error .noReference else ofArguments reference rest
  | ⟨.openParen, _, _⟩ :: _ => .error .noReference
  | _ => .error .noOpenToken

/-- The directive that a command writes. -/
def ofCommand (command : Text) : Except CommandFault Directive :=
  match Command.tokens command with
  | .error fault => .error fault
  | .ok tokens => ofTokens tokens

/-- The directive on a line, if there is one. -/
def ofLine (line : Text) : Except CommandFault (Option Directive) :=
  match commandOf? line with
  | none => .ok none
  | some command => (ofCommand command).map some

end Transclude.Directive
