import Transclude.Command.Fault
import Transclude.Command.Lexeme

/-!
# Tokens of a command

The meaning of a lexeme depends on where it stands. After the opening parenthesis a reference is
read up to a blank or a parenthesis, whatever lexemes it seems to consist of: a lexeme that runs
past the end of the reference is cut there, and its rest is given back and cut into lexemes anew.
After the reference come words, patterns and dollar signs, and after the closing parenthesis only
blanks. A lexeme of which nothing belongs to the reference is given back whole, again and again, so
the reading has no answer there; any other lexeme takes at least one character for good
(`Context.length_back_lt`).
-/

namespace Transclude

/-- An argument or a parenthesis of a command. -/
inductive Token where
  | openParen
  | closeParen
  | reference (value : Text)
  | word (value : Text)
  /-- The body of a pattern, as written between its slashes. -/
  | pattern (body : Text)
  | endOfContent
  deriving DecidableEq, Repr

/-- The token as it is shown, a reference without its quotes. -/
def Token.text : Token → Text
  | .openParen => ['(']
  | .closeParen => [')']
  | .reference value => value
  | .word value => value
  | .pattern body => '/' :: body ++ ['/']
  | .endOfContent => ['$']

/-- A token and the bytes of the command that it takes, from `start` up to `stop`. -/
structure PlacedToken where
  token : Token
  start : Nat
  stop : Nat
  deriving DecidableEq, Repr

namespace Command

/-- Where the reading of a command stands. -/
inductive Context where
  | outside
  /-- After the opening parenthesis, with the part of the reference read so far. -/
  | reference (collected : Text)
  | arguments
  | closed
  deriving DecidableEq, Repr

/-- What one lexeme leads to: tokens, the context after it, and the characters given back. -/
structure Step where
  tokens : List PlacedToken
  context : Context
  back : Text := []

/-- The reference that ends just before byte `stop`. -/
def referenceBefore (stop : Nat) (value : Text) : PlacedToken :=
  ⟨.reference value, stop - Text.utf8Size value, stop⟩

/-- The token that `lexeme`, found at byte `start`, is as a whole. -/
def wholeToken (start : Nat) (lexeme : Lexeme) (token : Token) : PlacedToken :=
  ⟨token, start, start + Text.utf8Size lexeme.text⟩

/-- Reads a lexeme before the opening parenthesis. -/
def stepOutside (start : Nat) (lexeme : Lexeme) : Except CommandFault Step :=
  match lexeme with
  | .blank _ => .ok ⟨[], .outside, []⟩
  | .openParen => .ok ⟨[wholeToken start lexeme .openParen], .reference [], []⟩
  | _ => .error (.noOpenParen lexeme.text)

/-- Adds to a reference the part of a lexeme that belongs to it and gives the rest back. If no part
does, the lexeme that is given back is the next one again. -/
def extendReference (collected : Text) (lexeme : Lexeme) : Except CommandFault Step :=
  let kept := lexeme.text.takeWhile Lexeme.isPlain
  if kept.isEmpty then .error .endless
  else .ok ⟨[], .reference (collected ++ kept), lexeme.text.dropWhile Lexeme.isPlain⟩

/-- Reads a lexeme at the start of a reference or inside it. -/
def stepReference (start : Nat) (collected : Text) (lexeme : Lexeme) : Except CommandFault Step :=
  match lexeme, collected with
  | .blank _, [] => .ok ⟨[], .reference [], []⟩
  | .blank _, _ => .ok ⟨[referenceBefore start collected], .arguments, []⟩
  | .closeParen, [] => .error .noReference
  | .closeParen, _ =>
    .ok ⟨[referenceBefore start collected, wholeToken start lexeme .closeParen], .closed, []⟩
  | .openParen, _ => .error .nestedOpenParen
  | .quoted body, [] =>
    if body.contains '\\' then
      match Quoted.decode body with
      | .ok value => .ok ⟨[wholeToken start lexeme (.reference value)], .arguments, []⟩
      | .error fault => .error (.badEscape lexeme.text fault)
    else .ok ⟨[wholeToken start lexeme (.reference body)], .arguments, []⟩
  | _, _ => extendReference collected lexeme

/-- Reads a lexeme after the reference. -/
def stepArguments (start : Nat) (lexeme : Lexeme) : Except CommandFault Step :=
  match lexeme with
  | .blank _ => .ok ⟨[], .arguments, []⟩
  | .closeParen => .ok ⟨[wholeToken start lexeme .closeParen], .closed, []⟩
  | .openParen => .error .nestedOpenParen
  | .word letters => .ok ⟨[wholeToken start lexeme (.word letters)], .arguments, []⟩
  | .pattern body => .ok ⟨[wholeToken start lexeme (.pattern body)], .arguments, []⟩
  | .dollar => .ok ⟨[wholeToken start lexeme .endOfContent], .arguments, []⟩
  | .openPattern _ => .error (.openPattern lexeme.text)
  | .quoted _ | .stray _ => .error (.unexpected lexeme.text)

/-- Reads a lexeme after the closing parenthesis. -/
def stepClosed (lexeme : Lexeme) : Except CommandFault Step :=
  match lexeme with
  | .blank _ => .ok ⟨[], .closed, []⟩
  | _ => .error (.afterClose lexeme.text)

/-- Reads the lexeme found at byte `start` in a context. -/
def Context.step (start : Nat) (lexeme : Lexeme) : Context → Except CommandFault Step
  | .outside => stepOutside start lexeme
  | .reference collected => stepReference start collected lexeme
  | .arguments => stepArguments start lexeme
  | .closed => stepClosed lexeme

/-- What the end of the command means in a context. -/
def Context.finish : Context → Except CommandFault Unit
  | .outside => .error .noCommand
  | .reference _ | .arguments => .error .noCloseParen
  | .closed => .ok ()

theorem extendReference_back {collected : Text} {lexeme : Lexeme} {s : Step}
    (h : extendReference collected lexeme = .ok s) :
    s.back.length < lexeme.text.length := by
  unfold extendReference at h
  simp only at h
  split at h
  · cases h
  · next hk =>
    cases h
    have e := congrArg List.length
      (List.takeWhile_append_dropWhile (p := Lexeme.isPlain) (l := lexeme.text))
    have : 0 < (lexeme.text.takeWhile Lexeme.isPlain).length := by
      simpa [List.length_pos_iff] using hk
    simp only [List.length_append] at e ⊢
    omega

/-- Each lexeme takes at least one character for good. -/
theorem Context.length_back_lt {context : Context} {start : Nat} {lexeme : Lexeme} {s : Step}
    (hne : lexeme.text ≠ []) (h : context.step start lexeme = .ok s) :
    s.back.length < lexeme.text.length := by
  have hpos : 0 < lexeme.text.length := List.length_pos_iff.mpr hne
  cases context with
  | outside =>
    simp only [Context.step, stepOutside] at h
    split at h <;> cases h <;> exact hpos
  | reference collected =>
    simp only [Context.step, stepReference] at h
    split at h
    case h_6 =>
      split at h
      · split at h <;> cases h; exact hpos
      · cases h; exact hpos
    case h_7 => exact extendReference_back h
    all_goals first | (cases h; exact hpos) | cases h
  | arguments =>
    simp only [Context.step, stepArguments] at h
    split at h <;> cases h <;> exact hpos
  | closed =>
    simp only [Context.step, stepClosed] at h
    split at h <;> cases h; exact hpos

/-- The tokens of what is left of a command, from byte `start` on. -/
def tokensFrom (context : Context) (start : Nat) (input : Text) :
    Except CommandFault (List PlacedToken) :=
  match input with
  | [] => context.finish.map fun _ => []
  | c :: rest =>
    match h : context.step start (Lexeme.next c rest).1 with
    | .error fault => .error fault
    | .ok s =>
      have := Context.length_back_lt (Lexeme.text_next_ne_nil c rest) h
      (tokensFrom s.context
        (start + Text.utf8Size (Lexeme.next c rest).1.text - Text.utf8Size s.back)
        (s.back ++ (Lexeme.next c rest).2)).map (s.tokens ++ ·)
termination_by input.length
decreasing_by
  exact Lexeme.length_append_next_lt c rest this

/-- The tokens of a command. -/
def tokens (command : Text) : Except CommandFault (List PlacedToken) :=
  tokensFrom .outside 0 command

end Command

end Transclude
