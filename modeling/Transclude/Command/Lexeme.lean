import Transclude.Text.Basic

/-!
# Lexemes of a command

A command is cut into lexemes by longest match, without regard to what they mean: parentheses, a
dollar sign, blanks, patterns between slashes, quoted strings and words. Every character belongs to
some lexeme: the first lexeme and what is left over are the text (`text_append_next`), and no
lexeme is empty.
-/

namespace Transclude

/-- A piece of a command. -/
inductive Lexeme where
  | openParen
  | closeParen
  | dollar
  | blank (blanks : Text)
  /-- A body between two slashes. -/
  | pattern (body : Text)
  /-- A slash and the longest body after it that no slash ends. -/
  | openPattern (body : Text)
  /-- A body between two double quotes. -/
  | quoted (body : Text)
  | word (letters : Text)
  /-- Characters that begin no other lexeme. -/
  | stray (chars : Text)
  deriving DecidableEq, Repr

namespace Lexeme

/-- The lexeme as it stands in the command. -/
def text : Lexeme → Text
  | .openParen => ['(']
  | .closeParen => [')']
  | .dollar => ['$']
  | .blank blanks => blanks
  | .pattern body => '/' :: body ++ ['/']
  | .openPattern body => '/' :: body
  | .quoted body => '"' :: body ++ ['"']
  | .word letters => letters
  | .stray chars => chars

/-- The blanks that separate arguments. -/
def isSeparator (c : Char) : Bool := c == ' ' || c == '\t' || c == '\r' || c == '\n'

/-- The characters that a reference, and a word after its first character, may hold. -/
def isPlain (c : Char) : Bool := !Text.isBlank c && c != '(' && c != ')'

/-- The longest run of plain characters and backslash pairs at the start of a pattern's body, and
what follows it. A pair does not reach over a line feed. -/
def patternBody : Text → Text × Text
  | [] => ([], [])
  | ['\\'] => ([], ['\\'])
  | '\\' :: c :: rest =>
    if c = '\n' then ([], '\\' :: c :: rest)
    else
      let (body, tail) := patternBody rest
      ('\\' :: c :: body, tail)
  | c :: rest =>
    if c = '/' ∨ c = '\n' then ([], c :: rest)
    else
      let (body, tail) := patternBody rest
      (c :: body, tail)

/-- The longest run of plain characters and backslash pairs at the start of a quoted body, and what
follows it. Line feeds are plain, but a pair does not reach over one. -/
def quotedBody : Text → Text × Text
  | [] => ([], [])
  | ['\\'] => ([], ['\\'])
  | '\\' :: c :: rest =>
    if c = '\n' then ([], '\\' :: c :: rest)
    else
      let (body, tail) := quotedBody rest
      ('\\' :: c :: body, tail)
  | c :: rest =>
    if c = '"' then ([], c :: rest)
    else
      let (body, tail) := quotedBody rest
      (c :: body, tail)

/-- The lexeme that begins with `c`, and what follows it. -/
def next (c : Char) (rest : Text) : Lexeme × Text :=
  if c = '(' then (.openParen, rest)
  else if c = ')' then (.closeParen, rest)
  else if c = '$' then (.dollar, rest)
  else if isSeparator c then
    (.blank (c :: rest.takeWhile isSeparator), rest.dropWhile isSeparator)
  else if c = '/' then
    match patternBody rest with
    | (body, '/' :: tail) => (.pattern body, tail)
    | (body, tail) => (.openPattern body, tail)
  else if c = '"' then
    match quotedBody rest with
    | (body, '"' :: tail) => (.quoted body, tail)
    | (body, '\\' :: tail) => (.stray ('"' :: body ++ ['\\']), tail)
    | (body, tail) => (.stray ('"' :: body), tail)
  else if Text.isBlank c then (.stray [c], rest)
  else (.word (c :: rest.takeWhile isPlain), rest.dropWhile isPlain)

theorem patternBody_append (t : Text) : (patternBody t).1 ++ (patternBody t).2 = t := by
  fun_induction patternBody t <;> simp_all

theorem quotedBody_append (t : Text) : (quotedBody t).1 ++ (quotedBody t).2 = t := by
  fun_induction quotedBody t <;> simp_all

/-- The first lexeme and what follows it are the text. -/
theorem text_append_next (c : Char) (rest : Text) :
    (next c rest).1.text ++ (next c rest).2 = c :: rest := by
  unfold next
  split
  · next h => simp [text, h]
  split
  · next h => simp [text, h]
  split
  · next h => simp [text, h]
  split
  · simp [text, List.takeWhile_append_dropWhile]
  split
  · next h =>
    have e := patternBody_append rest
    split <;> next heq => simp_all [text]
  split
  · next h =>
    have e := quotedBody_append rest
    split <;> next heq => simp_all [text]
  split
  · simp [text]
  · simp [text, List.takeWhile_append_dropWhile]

/-- No lexeme is empty. -/
theorem text_next_ne_nil (c : Char) (rest : Text) : (next c rest).1.text ≠ [] := by
  unfold next
  repeat' split
  all_goals simp [text]

/-- What follows the first lexeme, with part of the lexeme given back, is shorter than the text. -/
theorem length_append_next_lt (c : Char) (rest : Text) {back : Text}
    (h : back.length < (next c rest).1.text.length) :
    (back ++ (next c rest).2).length < (c :: rest).length := by
  rw [← text_append_next c rest, List.length_append, List.length_append]
  omega

end Lexeme

end Transclude
