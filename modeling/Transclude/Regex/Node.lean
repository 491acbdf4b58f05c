import Transclude.Text.Basic
import Transclude.Unicode.Property

/-!
# Patterns as written

The tree of a regular expression keeps what its text says and decides nothing about it: flags are
settings in their places, and classes are the operations that spell them.
-/

namespace Transclude.Regex

/-- A switch that changes how the rest of a group is read or matched. -/
inductive Flag where
  | ignoreCase
  | multiLine
  | dotAll
  | swapGreed
  | unicode
  | crlf
  | ignoreBlanks
  deriving DecidableEq, Repr

/-- A flag that is set or cleared. -/
structure FlagSetting where
  flag : Flag
  on : Bool
  deriving DecidableEq, Repr

/-- A character of a pattern; `isByte` marks those written as `\x` and two digits. -/
structure Literal where
  char : Char
  isByte : Bool := false
  deriving DecidableEq, Repr

/-- A condition on the place between two characters. -/
inductive Assertion where
  | lineStart
  | lineEnd
  | textStart
  | textEnd
  | boundary
  | noBoundary
  | wordStart
  | wordEnd
  | wordStartHalf
  | wordEndHalf
  deriving DecidableEq, Repr

/-- A class with a letter of its own. -/
inductive LetterClass where
  | digit
  | space
  | word
  deriving DecidableEq, Repr

/-- An operation between two parts of a bracketed class. -/
inductive SetOp where
  | inter
  | diff
  | symmDiff
  deriving DecidableEq, Repr

/-- A part of a bracketed class. -/
inductive ClassNode where
  | empty
  | char (literal : Literal)
  | range (lo hi : Literal)
  /-- A class of ASCII characters between `[:` and `:]`. -/
  | posix (negated : Bool) (set : Unicode.CodeSet)
  | property (negated : Bool) (query : Unicode.PropertyQuery)
  | letter (negated : Bool) (kind : LetterClass)
  | nested (negated : Bool) (body : ClassNode)
  | union (parts : List ClassNode)
  | binary (op : SetOp) (left right : ClassNode)

/-- A pattern or a part of one. -/
inductive Node where
  | empty
  | flags (settings : List FlagSetting)
  | char (literal : Literal)
  | dot
  | assertion (kind : Assertion)
  | property (negated : Bool) (query : Unicode.PropertyQuery)
  | letter (negated : Bool) (kind : LetterClass)
  | bracketed (negated : Bool) (body : ClassNode)
  | repeated (body : Node) (least : Nat) (most : Option Nat)
  | capture (body : Node)
  | group (settings : List FlagSetting) (body : Node)
  | alternation (branches : List Node)
  | concat (parts : List Node)

/-- The union of parts; a single part is itself. -/
def ClassNode.ofParts : List ClassNode → ClassNode
  | [] => .empty
  | [part] => part
  | parts => .union parts

/-- The concatenation of parts; a single part is itself. -/
def Node.ofParts : List Node → Node
  | [] => .empty
  | [part] => part
  | parts => .concat parts

/-! ## Depth -/

mutual
/-- How deep the operations of a class are nested. -/
def ClassNode.depth : ClassNode → Nat
  | .nested _ body => body.depth + 1
  | .union parts => depthOfParts parts + 1
  | .binary _ left right => max left.depth right.depth + 1
  | .empty | .char _ | .range _ _ | .posix _ _ | .property _ _ | .letter _ _ => 0

/-- The greatest depth among parts of a class. -/
def ClassNode.depthOfParts : List ClassNode → Nat
  | [] => 0
  | part :: rest => max part.depth (depthOfParts rest)
end

mutual
/-- How deep the operations of a pattern are nested. -/
def Node.depth : Node → Nat
  | .bracketed _ body => body.depth + 1
  | .repeated body _ _ | .capture body | .group _ body => body.depth + 1
  | .alternation parts | .concat parts => depthOfParts parts + 1
  | .empty | .flags _ | .char _ | .dot | .assertion _ | .property _ _ | .letter _ _ => 0

/-- The greatest depth among parts of a pattern. -/
def Node.depthOfParts : List Node → Nat
  | [] => 0
  | part :: rest => max part.depth (depthOfParts rest)
end

/-- Deeper patterns are refused. -/
def maxDepth : Nat := 250

end Transclude.Regex
