import Transclude.Toml.Scalar

/-!
# Quoted texts

A text between single quotes stands for itself, and one between double quotes has escapes. Three
quotes begin a text that may go over several lines: a line feed right after them does not count,
and between double quotes neither do a backslash at the end of a line and the blanks after it.
-/

namespace Transclude.Toml

/-- The characters that no text holds except in an escape. -/
def isControl (c : Char) : Bool := (c.toNat < 0x20 && c != '\t') || c.toNat == 0x7F

/-- Whether `c` is a space or a tab. -/
def isSpace (c : Char) : Bool := c == ' ' || c == '\t'

/-- The character whose number hexadecimal digits write. -/
def hexChar? (digits : Text) : Option Char :=
  match digits.mapM (digit? 16) with
  | none => none
  | some values =>
    let code := values.foldl (fun n d => n * 16 + d) 0
    if code.isValidChar then some (Char.ofNat code) else none

/-- The character that a backslash and a letter stand for. -/
def escape? (c : Char) : Option Char :=
  match c with
  | 'b' => some '\x08'
  | 't' => some '\t'
  | 'n' => some '\n'
  | 'f' => some '\x0c'
  | 'r' => some '\r'
  | 'e' => some '\x1b'
  | '"' => some '"'
  | '\\' => some '\\'
  | _ => none

/-- The number of hexadecimal digits after a backslash and a letter. -/
def hexLength? (c : Char) : Option Nat :=
  match c with
  | 'x' => some 2
  | 'u' => some 4
  | 'U' => some 8
  | _ => none

/-- Puts a character before a text that was read. -/
def before (c : Option Char) (read : Option (Text × Text)) : Option (Text × Text) :=
  match c, read with
  | some c, some (text, rest) => some (c :: text, rest)
  | _, _ => none

/-- The text between single quotes after the first of them, and the rest. -/
def literal : Text → Option (Text × Text)
  | [] => none
  | c :: rest =>
    if c = '\'' then some ([], rest)
    else if isControl c then none
    else before (some c) (literal rest)

/-- Whether a text goes on with a line feed, after a carriage return or not. -/
def startsLine : Text → Bool
  | '\n' :: _ | '\r' :: '\n' :: _ => true
  | _ => false

/-- The text without a line feed at its start. -/
def skipLineStart : Text → Text
  | '\n' :: rest | '\r' :: '\n' :: rest => rest
  | t => t

/-- The quotes at the end of a text over several lines, of which the last three end it, and the
rest. -/
def closing? (quote : Char) (t : Text) : Option (Text × Text) :=
  let count := min 5 (t.takeWhile (· == quote)).length
  if 3 ≤ count then some (List.replicate (count - 3) quote, t.drop count) else none

/-- The text of several lines between single quotes after the first three of them, and the rest. -/
def literalLines : Text → Option (Text × Text)
  | [] => none
  | c :: rest =>
    match closing? '\'' (c :: rest) with
    | some read => some read
    | none =>
      if isControl c && c != '\n' && !startsLine (c :: rest) then none
      else before (some c) (literalLines rest)

/-- What the reading of a text with escapes is in the middle of. -/
inductive EscapeState where
  | plain
  /-- After a backslash. -/
  | escape
  /-- In an escape of which `missing` digits are still to come. -/
  | digits (missing : Nat) (read : Text)
  /-- After a backslash at the end of a line. -/
  | skipping

/-- The text between double quotes after the first of them, and the rest; over several lines if
`long`. -/
def basicFrom (long : Bool) (state : EscapeState) (t : Text) : Option (Text × Text) :=
  match state, t with
  | _, [] => none
  | .escape, c :: rest =>
    match hexLength? c with
    | some count => basicFrom long (.digits count []) rest
    | none =>
      if long && startsLine ((c :: rest).dropWhile isSpace) then basicFrom long .skipping rest
      else before (escape? c) (basicFrom long .plain rest)
  | .digits missing read, c :: rest =>
    if missing ≤ 1 then before (hexChar? (read ++ [c])) (basicFrom long .plain rest)
    else basicFrom long (.digits (missing - 1) (read ++ [c])) rest
  | state, c :: rest =>
    let skipped : Bool :=
      match state with
      | .skipping => isSpace c || startsLine (c :: rest) || c == '\n'
      | _ => false
    if skipped then basicFrom long .skipping rest
    else if c = '\\' then basicFrom long .escape rest
    else if long then
      match closing? '"' (c :: rest) with
      | some read => some read
      | none =>
        if isControl c && c != '\n' && !startsLine (c :: rest) then none
        else before (some c) (basicFrom long .plain rest)
    else if c = '"' then some ([], rest)
    else if isControl c then none
    else before (some c) (basicFrom long .plain rest)

/-- The quoted text at the start of a text, and the rest; over several lines only if `long`. -/
def quoted? (long : Bool) (t : Text) : Option (Text × Text) :=
  match t with
  | '"' :: '"' :: '"' :: rest =>
    if long then basicFrom true .plain (skipLineStart rest) else none
  | '\'' :: '\'' :: '\'' :: rest => if long then literalLines (skipLineStart rest) else none
  | '"' :: rest => basicFrom false .plain rest
  | '\'' :: rest => literal rest
  | _ => none

end Transclude.Toml
