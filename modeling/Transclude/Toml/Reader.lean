import Transclude.Toml.Quote
import Transclude.Toml.Table

/-!
# Reading TOML documents

A document is read line by line: headers open tables, and keys get values in the table that the last
header opened. Arrays and tables in braces may go over several lines and be nested up to a bound.
-/

namespace Transclude.Toml

/-! ## Blanks and comments -/

/-- The text after a comment, which holds no control characters. -/
def skipComment : Text → Option Text
  | [] => some []
  | c :: rest =>
    if startsLine (c :: rest) then some (c :: rest)
    else if isControl c then none
    else skipComment rest

/-- The text after blanks, line feeds and comments; `comment` says whether it begins in one. -/
def skipGaps (comment : Bool) : Text → Option Text
  | [] => some []
  | c :: rest =>
    if c = '\n' ∨ startsLine (c :: rest) then skipGaps false rest
    else if comment then if isControl c then none else skipGaps true rest
    else if isSpace c then skipGaps false rest
    else if c = '#' then skipGaps true rest
    else some (c :: rest)

/-- The text after the end of a line, before which only blanks and a comment stand. -/
def skipLineEnd (t : Text) : Option Text :=
  let rest :=
    match t.dropWhile isSpace with
    | '#' :: comment => skipComment comment
    | other => some other
  rest.bind fun t => if t.isEmpty ∨ startsLine t then some (skipLineStart t) else none

/-! ## Keys -/

/-- The characters of keys without quotes. -/
def isKeyChar (c : Char) : Bool :=
  isDigit c || ('a' ≤ c && c ≤ 'z') || ('A' ≤ c && c ≤ 'Z') || c == '_' || c == '-'

/-- The key without periods at the start of a text, and the rest. -/
def simpleKey? (t : Text) : Option (Text × Text) :=
  match t with
  | '"' :: _ | '\'' :: _ => quoted? false t
  | _ =>
    let key := t.takeWhile isKeyChar
    if key.isEmpty then none else some (key, t.dropWhile isKeyChar)

/-- The keys at the start of a text, separated by periods, and the rest. Each takes a character, so
`fuel` is the length of the text. -/
def keyPath? (fuel : Nat) (t : Text) : Option (List Text × Text) :=
  match fuel with
  | 0 => none
  | fuel + 1 =>
    match simpleKey? (t.dropWhile isSpace) with
    | none => none
    | some (key, rest) =>
      match rest.dropWhile isSpace with
      | '.' :: more => (keyPath? fuel more).map fun (keys, rest) => (key :: keys, rest)
      | rest => some ([key], rest)

/-- The path at the start of a text, and the rest. -/
def path? (t : Text) : Option (List Text × Text) := keyPath? t.length t

/-- The path and the equal sign at the start of a text, and the rest. -/
def assigned? (t : Text) : Option (List Text × Text) :=
  match path? t with
  | some (path, '=' :: rest) => some (path, rest.dropWhile isSpace)
  | _ => none

/-! ## Values -/

mutual
/-- The value at the start of a text, with at most `depth` brackets and braces inside one another,
and the rest. `fuel` is twice the length of the text and two. -/
def value? (fuel depth : Nat) (t : Text) : Option (Value × Text) :=
  match fuel with
  | 0 => none
  | fuel + 1 =>
    match t with
    | '"' :: _ | '\'' :: _ => (quoted? true t).map fun (text, rest) => (.string text, rest)
    | '[' :: rest =>
      match depth with
      | 0 => none
      | depth + 1 => items? fuel depth [] rest
    | '\x7b' :: rest =>
      match depth with
      | 0 => none
      | depth + 1 => pairs? fuel depth [] rest
    | _ => (scalar? (word t).1).map fun value => (value, (word t).2)

/-- The array whose items so far, the last first, are `items`, and the rest after it. -/
def items? (fuel depth : Nat) (items : List Value) (t : Text) : Option (Value × Text) :=
  match fuel with
  | 0 => none
  | fuel + 1 =>
    match skipGaps false t with
    | none => none
    | some (']' :: rest) => some (.array items.reverse, rest)
    | some t =>
      match value? fuel depth t with
      | none => none
      | some (value, t) =>
        match skipGaps false t with
        | some (',' :: rest) => items? fuel depth (value :: items) rest
        | some (']' :: rest) => some (.array (value :: items).reverse, rest)
        | _ => none

/-- The table in braces whose entries so far are `entries`, and the rest after it. -/
def pairs? (fuel depth : Nat) (entries : Entries) (t : Text) : Option (Value × Text) :=
  match fuel with
  | 0 => none
  | fuel + 1 =>
    match skipGaps false t with
    | none => none
    | some ('\x7d' :: rest) => some (.table .braced entries, rest)
    | some t =>
      match assigned? t with
      | none => none
      | some (path, t) =>
        match value? fuel depth t with
        | none => none
        | some (value, t) =>
          match entries.insert? value path, skipGaps false t with
          | some entries, some (',' :: rest) => pairs? fuel depth entries rest
          | some entries, some ('\x7d' :: rest) => some (.table .braced entries, rest)
          | _, _ => none
end

/-- Deeper arrays and tables in braces are refused. -/
def maxDepth : Nat := 80

/-! ## Documents -/

/-- The header at the start of a text after its first bracket: whether its brackets are double, its
path, and the rest after its line. -/
def header? (t : Text) : Option (Bool × List Text × Text) :=
  match t with
  | '[' :: rest =>
    match path? rest with
    | some (path, ']' :: ']' :: rest) => (skipLineEnd rest).map fun rest => (true, path, rest)
    | _ => none
  | _ =>
    match path? t with
    | some (path, ']' :: rest) => (skipLineEnd rest).map fun rest => (false, path, rest)
    | _ => none

/-- The entries of a document whose rest is `t`, below a header. Each round takes a character, so
`fuel` is the length of the text and one. -/
def entriesFrom (fuel : Nat) (entries : Entries) (header : List Text) (t : Text) :
    Option Entries :=
  match fuel with
  | 0 => none
  | fuel + 1 =>
    match skipGaps false t with
    | none => none
    | some [] => some entries
    | some ('[' :: rest) =>
      match header? rest with
      | none => none
      | some (double, path, rest) =>
        match (if double then entries.openItem? path else entries.openTable? path) with
        | none => none
        | some entries => entriesFrom fuel entries path rest
    | some t =>
      match assigned? t with
      | none => none
      | some (path, t) =>
        match value? (2 * t.length + 2) maxDepth t with
        | none => none
        | some (value, t) =>
          match entries.insertUnder? header path value, skipLineEnd t with
          | some entries, some rest => entriesFrom fuel entries header rest
          | _, _ => none

/-- The entries of a document, which a byte order mark may precede. -/
def read? (document : Text) : Option Entries :=
  let t :=
    match document with
    | '\ufeff' :: rest => rest
    | _ => document
  entriesFrom (t.length + 1) [] [] t

end Transclude.Toml
