import Transclude.Regex.Node

/-!
# Reading patterns

A pattern is read from left to right into its tree. The reader keeps a stack of the groups and
alternations it is inside of, so that nesting needs no recursion. With blanks ignored, white space
and comments count for nothing between the characters of most constructs.
-/

namespace Transclude.Regex

namespace Reader

/-! ## Characters that count -/

/-- The characters that satisfy `p` at the start of a text, and what follows them. With `skip`,
white space is passed over, and so are comments, from a number sign to the end of the line;
`comment` says whether the text begins inside one. -/
def significantWhile (skip : Bool) (p : Char → Bool) (comment : Bool) : Text → Text × Text
  | [] => ([], [])
  | c :: rest =>
    if skip && comment then significantWhile skip p (c != '\n') rest
    else if skip && Text.isBlank c then significantWhile skip p false rest
    else if skip && c == '#' then significantWhile skip p true rest
    else if p c then
      let (taken, tail) := significantWhile skip p false rest
      (c :: taken, tail)
    else ([], c :: rest)

/-- The text from its first character that counts. -/
def skipBlanks (skip : Bool) (t : Text) : Text := (significantWhile skip (fun _ => false) false t).2

/-- The next character that counts inside a class. A number sign is passed over with the blanks, but
not the comment that it begins, and where nothing counts the next character does. -/
def peekInClass (skip : Bool) (t : Text) : Option Char :=
  if skip then go false t <|> t.head? else t.head?
where
  /-- The first character that is no blank; `hash` says whether a number sign was passed over. -/
  go (hash : Bool) : Text → Option Char
    | [] => none
    | c :: rest =>
      if Text.isBlank c then go hash rest
      else if !hash && c == '#' then go true rest
      else some c

/-! ## Numbers -/

def isDigit (c : Char) : Bool := '0' ≤ c && c ≤ '9'

def isHexDigit (c : Char) : Bool :=
  isDigit c || ('a' ≤ c && c ≤ 'f') || ('A' ≤ c && c ≤ 'F')

/-- The number that digits write in a base. -/
def number (base : Nat) (digits : Text) : Nat :=
  digits.foldl (fun n c => n * base + digitValue c) 0
where
  /-- The value of a digit. -/
  digitValue (c : Char) : Nat :=
    if isDigit c then c.toNat - 48 else c.toLower.toNat - 87

/-- A decimal number of at most 32 bits with blanks around it. -/
def decimal (skip : Bool) (t : Text) : Option (Nat × Text) :=
  let (digits, tail) := significantWhile skip isDigit false (t.dropWhile Text.isBlank)
  let value := number 10 digits
  if digits.isEmpty || 0x100000000 ≤ value then none
  else some (value, tail.dropWhile Text.isBlank)

/-- The character with a code point. -/
def scalar? (code : Nat) : Option Char := if code.isValidChar then some (Char.ofNat code) else none

/-- Exactly `count` hexadecimal digits. -/
def fixedHex (skip : Bool) : Nat → Text → Option (Text × Text)
  | 0, t => some ([], t)
  | count + 1, c :: rest =>
    if isHexDigit c then
      (fixedHex skip count (skipBlanks skip rest)).map fun (digits, tail) => (c :: digits, tail)
    else none
  | _ + 1, [] => none

/-- The character that the digits after `kind` name, in braces or as many as `kind` takes. -/
def hexLiteral (skip : Bool) (kind : Char) (t : Text) : Option (Literal × Text) :=
  match skipBlanks skip t with
  | '\x7b' :: rest =>
    match significantWhile skip isHexDigit false rest with
    | ([], _) => none
    | (digits, '\x7d' :: tail) =>
      (scalar? (number 16 digits)).map fun c => (⟨c, false⟩, skipBlanks skip tail)
    | _ => none
  | rest =>
    let count := if kind = 'x' then 2 else if kind = 'u' then 4 else 8
    match fixedHex skip count rest with
    | none => none
    | some (digits, tail) =>
      (scalar? (number 16 digits)).map fun c => (⟨c, kind == 'x'⟩, tail)

/-! ## Escapes -/

/-- What an escape or a single character stands for. -/
inductive Primitive where
  | char (literal : Literal)
  | dot
  | assertion (kind : Assertion)
  | property (negated : Bool) (query : Unicode.PropertyQuery)
  | letter (negated : Bool) (kind : LetterClass)

/-- Splits a property's text at the sign between its name and value; an unequal sign anywhere goes
before a colon, and a colon before an equal sign. -/
def propertyQuery (name : Text) : Unicode.PropertyQuery × Bool :=
  match splitAtSign ['!', '='] name with
  | some (property, value) => (.valued property value, true)
  | none =>
    match splitAtSign [':'] name with
    | some (property, value) => (.valued property value, false)
    | none =>
      match splitAtSign ['='] name with
      | some (property, value) => (.valued property value, false)
      | none => (.named name, false)
where
  /-- What stands before and after the first occurrence of a sign. -/
  splitAtSign (sign : Text) : Text → Option (Text × Text)
    | [] => none
    | c :: rest =>
      match Text.after? sign (c :: rest) with
      | some value => some ([], value)
      | none => (splitAtSign sign rest).map fun (property, value) => (c :: property, value)

/-- The property class after `\p` or `\P`. The sign for inequality is read like equality. -/
def propertyClass (skip negated : Bool) (t : Text) : Option (Primitive × Text) :=
  match skipBlanks skip t with
  | [] | '\\' :: _ => none
  | '\x7b' :: rest =>
    match significantWhile skip (· != '\x7d') false rest with
    | (name, _ :: tail) => some (.property negated (propertyQuery name).1, tail)
    | (_, []) => none
  | c :: rest => some (.property negated (.named [c]), skipBlanks skip rest)

/-- The assertion that a name in braces after `\b` stands for; `some none` where the braces hold
something else. -/
def namedBoundary (skip : Bool) (t : Text) : Option (Option (Assertion × Text)) :=
  let isNameChar (c : Char) : Bool := c.isAlpha || c == '-'
  match t with
  | '\x7b' :: rest =>
    match skipBlanks skip rest with
    | [] => none
    | c :: _ =>
      if !isNameChar c then some none
      else
        match significantWhile skip isNameChar false rest with
        | (name, '\x7d' :: tail) =>
          match String.ofList name with
          | "start" => some (some (.wordStart, tail))
          | "end" => some (some (.wordEnd, tail))
          | "start-half" => some (some (.wordStartHalf, tail))
          | "end-half" => some (some (.wordEndHalf, tail))
          | _ => none
        | _ => none
  | _ => some none

/-- What the text after a backslash stands for. -/
def escape (skip : Bool) : Text → Option (Primitive × Text)
  | [] => none
  | c :: rest =>
    match c with
    | 'x' | 'u' | 'U' => (hexLiteral skip c rest).map fun (literal, tail) => (.char literal, tail)
    | 'p' => propertyClass skip false rest
    | 'P' => propertyClass skip true rest
    | 'd' => some (.letter false .digit, rest)
    | 'D' => some (.letter true .digit, rest)
    | 's' => some (.letter false .space, rest)
    | 'S' => some (.letter true .space, rest)
    | 'w' => some (.letter false .word, rest)
    | 'W' => some (.letter true .word, rest)
    | 'a' => some (.char ⟨'\x07', false⟩, rest)
    | 'f' => some (.char ⟨'\x0c', false⟩, rest)
    | 't' => some (.char ⟨'\t', false⟩, rest)
    | 'n' => some (.char ⟨'\n', false⟩, rest)
    | 'r' => some (.char ⟨'\r', false⟩, rest)
    | 'v' => some (.char ⟨'\x0b', false⟩, rest)
    | 'A' => some (.assertion .textStart, rest)
    | 'z' => some (.assertion .textEnd, rest)
    | 'b' =>
      match namedBoundary skip rest with
      | none => none
      | some none => some (.assertion .boundary, rest)
      | some (some (kind, tail)) => some (.assertion kind, tail)
    | 'B' => some (.assertion .noBoundary, rest)
    | '<' => some (.assertion .wordStart, rest)
    | '>' => some (.assertion .wordEnd, rest)
    | _ => if c.toNat < 0x80 && !c.isAlphanum then some (.char ⟨c, false⟩, rest) else none

/-! ## Bracketed classes -/

/-- The ASCII characters of a class that has a name between `[:` and `:]`. -/
def posixSet? (name : String) : Option Unicode.CodeSet :=
  let of (ranges : List (Nat × Nat)) : Option Unicode.CodeSet :=
    some (ranges.map fun r => ⟨r.1, r.2⟩)
  match name with
  | "alnum" => of [(48, 57), (65, 90), (97, 122)]
  | "alpha" => of [(65, 90), (97, 122)]
  | "ascii" => of [(0, 127)]
  | "blank" => of [(9, 9), (32, 32)]
  | "cntrl" => of [(0, 31), (127, 127)]
  | "digit" => of [(48, 57)]
  | "graph" => of [(33, 126)]
  | "lower" => of [(97, 122)]
  | "print" => of [(32, 126)]
  | "punct" => of [(33, 47), (58, 64), (91, 96), (123, 126)]
  | "space" => of [(9, 13), (32, 32)]
  | "upper" => of [(65, 90)]
  | "word" => of [(48, 57), (65, 90), (95, 95), (97, 122)]
  | "xdigit" => of [(48, 57), (65, 70), (97, 102)]
  | _ => none

/-- The named ASCII class after an opening bracket; `none` where there is none. -/
def posixClass? (t : Text) : Option (ClassNode × Text) :=
  match t with
  | ':' :: rest =>
    let (negated, named) :=
      match rest with
      | '^' :: tail => (true, tail)
      | _ => (false, rest)
    let name := named.takeWhile (· != ':')
    match named.dropWhile (· != ':') with
    | ':' :: ']' :: tail =>
      (posixSet? (String.ofList name)).map fun set => (.posix negated set, tail)
    | _ => none
  | _ => none

/-- One character of a class or an escape. -/
def classPrimitive (skip : Bool) : Text → Option (Primitive × Text)
  | [] => none
  | '\\' :: rest => escape skip rest
  | c :: rest => some (.char ⟨c, false⟩, rest)

/-- The part of a class that a primitive is by itself. -/
def Primitive.toClass? : Primitive → Option ClassNode
  | .char literal => some (.char literal)
  | .property negated query => some (.property negated query)
  | .letter negated kind => some (.letter negated kind)
  | .dot | .assertion _ => none

/-- A character, an escape or a range of characters in a class. -/
def classPart (skip : Bool) (t : Text) : Option (ClassNode × Text) :=
  match classPrimitive skip t with
  | none => none
  | some (first, tail) =>
    match skipBlanks skip tail with
    | [] => none
    | '-' :: rest =>
      if peekInClass skip rest = some ']' ∨ peekInClass skip rest = some '-' then
        first.toClass?.map (·, '-' :: rest)
      else
        match skipBlanks skip rest with
        | [] => none
        | upper =>
          match first, classPrimitive skip upper with
          | .char lo, some (.char hi, tail) =>
            if lo.char ≤ hi.char then some (.range lo hi, tail) else none
          | _, _ => none
    | rest => first.toClass?.map (·, rest)

/-- The hyphens at the start of a class. -/
def leadingHyphens (skip : Bool) (t : Text) : List ClassNode × Text :=
  let (hyphens, rest) := significantWhile skip (· == '-') false t
  (hyphens.map fun c => .char ⟨c, false⟩, rest)

/-- The start of a class after its opening bracket: whether it is negated, and the hyphens or the
closing bracket that stand for themselves there. -/
def classOpen (skip : Bool) (t : Text) : Option (Bool × List ClassNode × Text) :=
  let t := skipBlanks skip t
  let (negated, t) :=
    match t with
    | '^' :: rest => (true, skipBlanks skip rest)
    | _ => (false, t)
  let (hyphens, t) := leadingHyphens skip t
  match hyphens, t with
  | _, [] => none
  | [], ']' :: rest =>
    match skipBlanks skip rest with
    | [] => none
    | tail => some (negated, [.char ⟨']', false⟩], tail)
  | hyphens, t => some (negated, hyphens, t)

/-- What encloses the part of a class being read. -/
inductive ClassFrame where
  /-- A bracket, with the parts before it in the enclosing class, the last first. -/
  | opened (before : List ClassNode) (negated : Bool)
  /-- The left side of an operation. -/
  | operation (op : SetOp) (left : ClassNode)

/-- The class that ends here, joined with the operation it is the right side of. -/
def closeOperation (stack : List ClassFrame) (right : ClassNode) : ClassNode × List ClassFrame :=
  match stack with
  | .operation op left :: below => (.binary op left right, below)
  | _ => (right, stack)

/-- Reads the rest of a class. `parts` are the parts since the last bracket or operator, the last
first. Each round takes a character, so `fuel` is the length of the text. -/
def classRest (skip : Bool) (fuel : Nat) (stack : List ClassFrame) (parts : List ClassNode)
    (t : Text) : Option (Node × Text) :=
  match fuel with
  | 0 => none
  | fuel + 1 =>
    let operator (op : SetOp) (rest : Text) : Option (Node × Text) :=
      let (left, below) := closeOperation stack (.ofParts parts.reverse)
      classRest skip fuel (.operation op left :: below) [] rest
    match skipBlanks skip t with
    | [] => none
    | '[' :: rest =>
      let nested : Option (Node × Text) :=
        match classOpen skip rest with
        | none => none
        | some (negated, first, tail) =>
          classRest skip fuel (.opened parts negated :: stack) first.reverse tail
      if stack.isEmpty then nested
      else
        match posixClass? rest with
        | some (part, tail) => classRest skip fuel stack (part :: parts) tail
        | none => nested
    | ']' :: rest =>
      match closeOperation stack (.ofParts parts.reverse) with
      | (body, [.opened _ negated]) => some (.bracketed negated body, rest)
      | (body, .opened before negated :: below) =>
        classRest skip fuel below (.nested negated body :: before) rest
      | _ => none
    | '&' :: '&' :: rest => operator .inter rest
    | '-' :: '-' :: rest => operator .diff rest
    | '~' :: '~' :: rest => operator .symmDiff rest
    | rest =>
      match classPart skip rest with
      | none => none
      | some (part, tail) => classRest skip fuel stack (part :: parts) tail

/-! ## Flags and groups -/

/-- The flag that a letter sets. -/
def flag? : Char → Option Flag
  | 'i' => some .ignoreCase
  | 'm' => some .multiLine
  | 's' => some .dotAll
  | 'U' => some .swapGreed
  | 'u' => some .unicode
  | 'R' => some .crlf
  | 'x' => some .ignoreBlanks
  | _ => none

/-- Reads the settings of a group up to a colon or a parenthesis, which stays. A flag may be named
once, and a hyphen stands once and before a flag. `minus` says whether a hyphen was read, and `bare`
whether nothing follows it yet. -/
def flagSettings (minus bare : Bool) (seen : List Flag) : Text → Option (List FlagSetting × Text)
  | [] => none
  | c :: rest =>
    if c = ':' ∨ c = ')' then if bare then none else some ([], c :: rest)
    else if c = '-' then if minus then none else flagSettings true true seen rest
    else
      match flag? c with
      | none => none
      | some flag =>
        if seen.contains flag then none
        else
          (flagSettings minus false (flag :: seen) rest).map fun (settings, tail) =>
            (⟨flag, !minus⟩ :: settings, tail)

/-- What the settings do to a flag, if they name it. -/
def settingOf? (flag : Flag) (settings : List FlagSetting) : Option Bool :=
  (settings.find? (·.flag = flag)).map (·.on)

/-- Whether `c` may stand in the name of a group, first or later. -/
def isNameChar (first : Bool) (c : Char) : Bool :=
  let alphabetic := Unicode.Binary.alphabetic.contains c.toNat
  if first then c == '_' || alphabetic
  else
    c == '_' || c == '.' || c == '[' || c == ']' || alphabetic ||
      (Unicode.GeneralCategory.ofGroup 'N').contains c.toNat

/-- The name of a group up to its closing angle bracket. -/
def groupName (t : Text) : Option (Text × Text) :=
  let name := t.takeWhile (· != '>')
  match name, t.dropWhile (· != '>') with
  | c :: rest, _ :: tail =>
    if isNameChar true c && rest.all (isNameChar false) then some (name, tail) else none
  | _, _ => none

/-- What a parenthesis opens. -/
inductive Opening where
  /-- Settings for the rest of the enclosing group. -/
  | settings (settings : List FlagSetting)
  | group (settings : List FlagSetting)
  | capture (name : Option Text)

/-- What follows an opening parenthesis. Groups that look around are refused. -/
def opening (skip : Bool) (t : Text) : Option (Opening × Text) :=
  match skipBlanks skip t with
  | '?' :: '=' :: _ | '?' :: '!' :: _ | '?' :: '<' :: '=' :: _ | '?' :: '<' :: '!' :: _ => none
  | '?' :: 'P' :: '<' :: rest | '?' :: '<' :: rest =>
    (groupName rest).map fun (name, tail) => (.capture (some name), tail)
  | '?' :: rest =>
    match flagSettings false false [] rest with
    | some (settings, ')' :: tail) =>
      if settings.isEmpty then none else some (.settings settings, tail)
    | some (settings, _ :: tail) => some (.group settings, tail)
    | _ => none
  | rest => some (.capture none, rest)

/-! ## Repetitions -/

/-- Passes over the question mark that makes a repetition lazy. -/
def skipLazy : Text → Text
  | '?' :: rest => rest
  | t => t

/-- The counts after an opening brace, and what follows the repetition. -/
def counts (skip : Bool) (t : Text) : Option (Nat × Option Nat × Text) :=
  match decimal skip (skipBlanks skip t) with
  | none => none
  | some (least, tail) =>
    let finish (most : Option Nat) (tail : Text) : Option (Nat × Option Nat × Text) :=
      match tail with
      | '\x7d' :: rest => some (least, most, skipLazy (skipBlanks skip rest))
      | _ => none
    match tail with
    | ',' :: rest =>
      match skipBlanks skip rest with
      | '\x7d' :: tail => finish none ('\x7d' :: tail)
      | rest =>
        match decimal skip rest with
        | some (most, tail) => if least ≤ most then finish (some most) tail else none
        | none => none
    | _ => finish (some least) tail

/-- Repeats the last part, unless there is none or it is a setting of flags. -/
def repeatLast (parts : List Node) (least : Nat) (most : Option Nat) : Option (List Node) :=
  match parts with
  | [] | .empty :: _ | .flags _ :: _ => none
  | part :: before => some (.repeated part least most :: before)

/-! ## Patterns -/

/-- What encloses the part of a pattern being read. -/
inductive Frame where
  /-- A group, with the parts before it, the last first, and whether blanks were ignored there. -/
  | group (before : List Node) (wrap : Node → Node) (skip : Bool)
  /-- The branches before a vertical bar, the last first. -/
  | branches (done : List Node)

/-- The node of the branch that ends here, with those before it. -/
def closeBranches (stack : List Frame) (parts : List Node) : Node × List Frame :=
  let branch := Node.ofParts parts.reverse
  match stack with
  | .branches done :: below => (.alternation (branch :: done).reverse, below)
  | _ => (branch, stack)

/-- The stack after a vertical bar. -/
def pushBranch (stack : List Frame) (parts : List Node) : List Frame :=
  let branch := Node.ofParts parts.reverse
  match stack with
  | .branches done :: below => .branches (branch :: done) :: below
  | _ => .branches [branch] :: stack

/-- The node that a primitive is outside of classes. -/
def Primitive.toNode : Primitive → Node
  | .char literal => .char literal
  | .dot => .dot
  | .assertion kind => .assertion kind
  | .property negated query => .property negated query
  | .letter negated kind => .letter negated kind

/-- Reads the rest of a pattern. `parts` are the parts of the current branch, the last first, and
`names` those of the groups so far. Each round takes a character, so `fuel` is the length of the
text and one. -/
def patternRest (fuel : Nat) (skip : Bool) (names : List Text) (stack : List Frame)
    (parts : List Node) (t : Text) : Option Node :=
  match fuel with
  | 0 => none
  | fuel + 1 =>
    let repetition (least : Nat) (most : Option Nat) (rest : Text) : Option Node :=
      match repeatLast parts least most with
      | none => none
      | some parts => patternRest fuel skip names stack parts rest
    match skipBlanks skip t with
    | [] =>
      match closeBranches stack parts with
      | (node, []) => some node
      | _ => none
    | '(' :: rest =>
      match opening skip rest with
      | none => none
      | some (.settings settings, tail) =>
        patternRest fuel ((settingOf? .ignoreBlanks settings).getD skip) names stack
          (.flags settings :: parts) tail
      | some (.group settings, tail) =>
        patternRest fuel ((settingOf? .ignoreBlanks settings).getD skip) names
          (.group parts (.group settings) skip :: stack) [] tail
      | some (.capture none, tail) =>
        patternRest fuel skip names (.group parts .capture skip :: stack) [] tail
      | some (.capture (some name), tail) =>
        if names.contains name then none
        else patternRest fuel skip (name :: names) (.group parts .capture skip :: stack) [] tail
    | ')' :: rest =>
      match closeBranches stack parts with
      | (node, .group before wrap outer :: below) =>
        patternRest fuel outer names below (wrap node :: before) rest
      | _ => none
    | '|' :: rest => patternRest fuel skip names (pushBranch stack parts) [] rest
    | '[' :: rest =>
      match classOpen skip rest with
      | none => none
      | some (negated, first, tail) =>
        match classRest skip tail.length [.opened [] negated] first.reverse tail with
        | none => none
        | some (node, tail) => patternRest fuel skip names stack (node :: parts) tail
    | '?' :: rest => repetition 0 (some 1) (skipLazy rest)
    | '*' :: rest => repetition 0 none (skipLazy rest)
    | '+' :: rest => repetition 1 none (skipLazy rest)
    | '\x7b' :: rest =>
      match counts skip rest with
      | none => none
      | some (least, most, tail) => repetition least most tail
    | '.' :: rest => patternRest fuel skip names stack (.dot :: parts) rest
    | '^' :: rest => patternRest fuel skip names stack (.assertion .lineStart :: parts) rest
    | '$' :: rest => patternRest fuel skip names stack (.assertion .lineEnd :: parts) rest
    | '\\' :: rest =>
      match escape skip rest with
      | none => none
      | some (primitive, tail) =>
        patternRest fuel skip names stack (primitive.toNode :: parts) tail
    | c :: rest => patternRest fuel skip names stack (.char ⟨c, false⟩ :: parts) rest

end Reader

/-- The tree of a pattern, if it is well formed and not nested too deep. -/
def Node.ofText? (pattern : Text) : Option Node :=
  match Reader.patternRest (pattern.length + 1) false [] [] [] pattern with
  | some node => if node.depth ≤ maxDepth then some node else none
  | none => none

end Transclude.Regex
