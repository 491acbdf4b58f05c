import Transclude.Text.Basic

/-!
# Quoted references

The text between the quotes of a reference is read as a shell word: a single or double quote opens
a quoted part and is dropped, and a backslash starts an escape only inside double quotes. Outside
of them it stands for itself. To write a reference between quotes, backslashes and double quotes are
escaped by a backslash.
-/

namespace Transclude

/-- Why hexadecimal digits name no 32-bit number. -/
inductive HexFault where
  | empty
  | invalidDigit
  | tooLarge
  deriving DecidableEq, Repr

/-- What is wrong with the digits. -/
def HexFault.message : HexFault → String
  | .empty => "cannot parse integer from empty string"
  | .invalidDigit => "invalid digit found in string"
  | .tooLarge => "number too large to fit in target type"

/-- Why a character escape names no character. -/
inductive ScalarFault where
  | noBrace
  | notHex (digits : Text) (fault : HexFault)
  | notScalar (value : Nat)
  deriving DecidableEq, Repr

/-- What is wrong with the escape. -/
def ScalarFault.message : ScalarFault → String
  | .noBrace => "expected '\x7b' character in unicode escape"
  | .notHex digits fault =>
    "could not parse " ++ String.ofList digits ++ " as u32 hex: " ++ fault.message
  | .notScalar value => "could not parse " ++ toString value ++ " as a unicode char"

/-- Why the text between two quotes has no reading. -/
inductive EscapeFault where
  | unknown (escape : Text) (index : Nat) (whole : Text)
  | scalar (index : Nat) (whole : Text) (fault : ScalarFault)
  deriving DecidableEq, Repr

/-- What is wrong with the text; indices count its characters. -/
def EscapeFault.message : EscapeFault → String
  | .unknown escape index whole =>
    "invalid escape " ++ String.ofList escape ++ " at " ++ toString index ++ " in " ++
      String.ofList whole
  | .scalar index whole fault =>
    "\\u could not be parsed at " ++ toString index ++ " in " ++ String.ofList whole ++ ": " ++
      fault.message

namespace Quoted

/-! ## Writing -/

/-- The text with a backslash before each backslash and each double quote. -/
def encode (text : Text) : Text :=
  text.flatMap fun c => if c = '\\' ∨ c = '"' then ['\\', c] else [c]

/-! ## Reading -/

/-- The value of a hexadecimal digit. -/
def hexDigit? (c : Char) : Option Nat :=
  if '0' ≤ c ∧ c ≤ '9' then some (c.toNat - '0'.toNat)
  else if 'a' ≤ c ∧ c ≤ 'f' then some (c.toNat - 'a'.toNat + 10)
  else if 'A' ≤ c ∧ c ≤ 'F' then some (c.toNat - 'A'.toNat + 10)
  else none

/-- Reads digits after `value`; a digit that is none is reported before an overflow at it. -/
def hexDigits (value : Nat) : Text → Except HexFault Nat
  | [] => .ok value
  | c :: rest =>
    match hexDigit? c with
    | none => .error .invalidDigit
    | some d =>
      if value * 16 < 0x100000000 then hexDigits (value * 16 + d) rest else .error .tooLarge

/-- The 32-bit number that `digits` write, with an optional plus sign. -/
def hexNumber (digits : Text) : Except HexFault Nat :=
  match digits with
  | [] => .error .empty
  | ['+'] => .error .invalidDigit
  | '+' :: rest => hexDigits 0 rest
  | _ => hexDigits 0 digits

/-- The character whose number `digits` write. -/
def scalar (digits : Text) : Except ScalarFault Char :=
  match hexNumber digits with
  | .error fault => .error (.notHex digits fault)
  | .ok value => if value.isValidChar then .ok (Char.ofNat value) else .error (.notScalar value)

/-- The character that a backslash and `c` stand for, `u` apart. -/
def escaped? (c : Char) : Option Char :=
  match c with
  | 'a' => some '\x07'
  | 'b' => some '\x08'
  | 'v' => some '\x0b'
  | 'f' => some '\x0c'
  | 'n' => some '\n'
  | 'r' => some '\r'
  | 't' => some '\t'
  | 'e' | 'E' => some '\x1b'
  | '\\' | '\'' | '"' | '$' | '\x60' | ' ' => some c
  | _ => none

/-- Where the reading of a quoted text stands. -/
inductive Mode where
  | bare
  | single
  | double
  /-- After a backslash inside double quotes. -/
  | escape
  /-- After a backslash and the `u` at `index`. -/
  | brace (index : Nat)
  /-- Inside the braces of the escape whose `u` is at `index`. -/
  | digits (index : Nat) (read : Text)
  deriving DecidableEq, Repr

/-- The character of an escape that ends, placed before what follows it. -/
def closeScalar (whole : Text) (index : Nat) (read : Text) (rest : Except EscapeFault Text) :
    Except EscapeFault Text :=
  match scalar read with
  | .error fault => .error (.scalar index whole fault)
  | .ok c => rest.map (c :: ·)

/-- Reads the rest of `whole` from its character number `index` on. -/
def decodeFrom (whole : Text) : Mode → Nat → Text → Except EscapeFault Text
  | .bare, _, [] | .single, _, [] | .double, _, [] => .ok []
  | .escape, index, [] => .error (.unknown ['\\'] (index - 1) whole)
  | .brace place, _, [] => .error (.scalar place whole .noBrace)
  | .digits place read, _, [] => closeScalar whole place read (.ok [])
  | .bare, index, c :: rest =>
    if c = '\'' then decodeFrom whole .single (index + 1) rest
    else if c = '"' then decodeFrom whole .double (index + 1) rest
    else (decodeFrom whole .bare (index + 1) rest).map (c :: ·)
  | .single, index, c :: rest =>
    if c = '\'' then decodeFrom whole .bare (index + 1) rest
    else (decodeFrom whole .single (index + 1) rest).map (c :: ·)
  | .double, index, c :: rest =>
    if c = '"' then decodeFrom whole .bare (index + 1) rest
    else if c = '\\' then decodeFrom whole .escape (index + 1) rest
    else (decodeFrom whole .double (index + 1) rest).map (c :: ·)
  | .escape, index, c :: rest =>
    if c = 'u' then decodeFrom whole (.brace index) (index + 1) rest
    else
      match escaped? c with
      | none => .error (.unknown ['\\', c] index whole)
      | some d => (decodeFrom whole .double (index + 1) rest).map (d :: ·)
  | .brace place, index, c :: rest =>
    if c = '\x7b' then decodeFrom whole (.digits place []) (index + 1) rest
    else .error (.scalar place whole .noBrace)
  | .digits place read, index, c :: rest =>
    if c = '\x7d' then closeScalar whole place read (decodeFrom whole .double (index + 1) rest)
    else decodeFrom whole (.digits place (read ++ [c])) (index + 1) rest

/-- The text that stands for itself between quotes is read as a shell word. -/
def decode (text : Text) : Except EscapeFault Text := decodeFrom text .bare 0 text

end Quoted

end Transclude
