import Transclude.Regex.Expr
import Transclude.Regex.Node
import Transclude.Unicode.CaseFolding

/-!
# The expression that a pattern writes

Flags decide what a pattern means: a setting holds from where it stands to the end of its group.
Without the flag for Unicode a pattern is about ASCII, and whatever would match part of a character
is refused.
-/

namespace Transclude.Regex

/-- The flags that change what a pattern matches. -/
structure Flags where
  ignoreCase : Bool := false
  multiLine : Bool := false
  dotAll : Bool := false
  unicode : Bool := true
  crlf : Bool := false
  deriving DecidableEq, Repr

namespace Flags

/-- The flags after a setting. -/
def set (flags : Flags) (setting : FlagSetting) : Flags :=
  match setting.flag with
  | .ignoreCase => { flags with ignoreCase := setting.on }
  | .multiLine => { flags with multiLine := setting.on }
  | .dotAll => { flags with dotAll := setting.on }
  | .unicode => { flags with unicode := setting.on }
  | .crlf => { flags with crlf := setting.on }
  | .swapGreed | .ignoreBlanks => flags

/-- The flags after settings, from the first to the last. -/
def apply (flags : Flags) (settings : List FlagSetting) : Flags := settings.foldl set flags

/-! ## Sets of characters -/

/-- The set, refused where it is not about whole characters: without Unicode it may hold ASCII
characters only. -/
def whole? (flags : Flags) (set : Unicode.CodeSet) : Option Unicode.CodeSet :=
  if flags.unicode || List.all set (·.hi < 0x80) then some set else none

/-- The set with all cases of its letters. -/
def fold (flags : Flags) (set : Unicode.CodeSet) : Unicode.CodeSet :=
  if !flags.ignoreCase then set
  else if flags.unicode then Unicode.CaseFolding.fold set
  else Unicode.CaseFolding.foldAscii set

/-- The complement of the set, or the set. -/
def negate (negated : Bool) (set : Unicode.CodeSet) : Unicode.CodeSet :=
  if negated then set.complement else set

/-- The set with all cases of its letters, negated after that. -/
def foldNegate? (flags : Flags) (negated : Bool) (set : Unicode.CodeSet) :
    Option Unicode.CodeSet :=
  flags.whole? (negate negated (flags.fold set))

/-- The code point of a literal, unless it is a byte that is no character. -/
def codeOf? (flags : Flags) (literal : Literal) : Option Nat :=
  if !flags.unicode && literal.isByte && 0x80 ≤ literal.char.toNat then none
  else some literal.char.toNat

/-- The code point of a literal in a class, which without Unicode is ASCII. -/
def classCodeOf? (flags : Flags) (literal : Literal) : Option Nat :=
  if !flags.unicode && 0x80 ≤ literal.char.toNat then none else some literal.char.toNat

/-- The set of a class with a letter of its own. -/
def letterSet? (flags : Flags) (negated : Bool) (kind : LetterClass) : Option Unicode.CodeSet :=
  let set : Unicode.CodeSet :=
    match kind, flags.unicode with
    | .digit, true => Unicode.GeneralCategory.ofCodes ["Nd"]
    | .space, true => Unicode.Binary.whiteSpace
    | .word, true => Unicode.Binary.word
    | .digit, false => [⟨48, 57⟩]
    | .space, false => [⟨9, 13⟩, ⟨32, 32⟩]
    | .word, false => asciiWord
  flags.whole? (negate negated set)

/-- The set of a property, which only Unicode has. -/
def propertySet? (flags : Flags) (negated : Bool) (query : Unicode.PropertyQuery) :
    Option Unicode.CodeSet :=
  if flags.unicode then query.codeSet?.bind (flags.foldNegate? negated) else none

/-- The characters that a dot stands for. -/
def dotSet? (flags : Flags) : Option Unicode.CodeSet :=
  if !flags.unicode then none
  else if flags.dotAll then some Unicode.CodeSet.all
  else if flags.crlf then some (Unicode.CodeSet.complement [⟨10, 10⟩, ⟨13, 13⟩])
  else some (Unicode.CodeSet.complement [⟨10, 10⟩])

end Flags

/-- The set that an operation makes of two. -/
def SetOp.apply : SetOp → Unicode.CodeSet → Unicode.CodeSet → Unicode.CodeSet
  | .inter => Unicode.CodeSet.inter
  | .diff => Unicode.CodeSet.diff
  | .symmDiff => Unicode.CodeSet.symmDiff

mutual
/-- The set of a part of a class. -/
def ClassNode.set? (flags : Flags) : ClassNode → Option Unicode.CodeSet
  | .empty => some []
  | .char literal => (flags.classCodeOf? literal).map Unicode.CodeSet.single
  | .range lo hi =>
    match flags.classCodeOf? lo, flags.classCodeOf? hi with
    | some lo, some hi => some (Unicode.CodeSet.range lo hi)
    | _, _ => none
  | .posix negated set => flags.foldNegate? negated set
  | .property negated query => flags.propertySet? negated query
  | .letter negated kind => flags.letterSet? negated kind
  | .nested negated body => (body.set? flags).bind (flags.foldNegate? negated)
  | .union parts => (setsOfParts? flags parts).map Unicode.CodeSet.unions
  | .binary op left right =>
    match left.set? flags, right.set? flags with
    | some left, some right => some (op.apply (flags.fold left) (flags.fold right))
    | _, _ => none

/-- The sets of parts of a class. -/
def ClassNode.setsOfParts? (flags : Flags) : List ClassNode → Option (List Unicode.CodeSet)
  | [] => some []
  | part :: rest =>
    match part.set? flags, setsOfParts? flags rest with
    | some set, some sets => some (set :: sets)
    | _, _ => none
end

/-- The condition that an assertion stands for. -/
def Flags.condition (flags : Flags) : Assertion → Condition
  | .lineStart => if flags.multiLine then .lineStart flags.crlf else .textStart
  | .lineEnd => if flags.multiLine then .lineEnd flags.crlf else .textEnd
  | .textStart => .textStart
  | .textEnd => .textEnd
  | .boundary => .word .boundary flags.unicode
  | .noBoundary => .word .noBoundary flags.unicode
  | .wordStart => .word .start flags.unicode
  | .wordEnd => .word .stop flags.unicode
  | .wordStartHalf => .word .startHalf flags.unicode
  | .wordEndHalf => .word .stopHalf flags.unicode

/-- Whether the expression can match nothing but the empty text. -/
def Expr.matchesOnlyEmpty : Expr → Bool
  | .empty | .condition _ => true
  | .set _ => false
  | .concat parts => allMatchOnlyEmpty parts
  | .alternation branches => allMatchOnlyEmpty branches
  | .repeated body _ _ => body.matchesOnlyEmpty
  | .capture body => body.matchesOnlyEmpty
where
  /-- Whether each of the expressions can match nothing but the empty text. -/
  allMatchOnlyEmpty : List Expr → Bool
    | [] => true
    | e :: rest => e.matchesOnlyEmpty && allMatchOnlyEmpty rest

/-- The repetition of an expression. One that only matches the empty text is repeated at most once,
and no repetition at all is the empty expression. -/
def Expr.repetition (body : Expr) (least : Nat) (most : Option Nat) : Expr :=
  let single := body.matchesOnlyEmpty
  let least := if single then min least 1 else least
  let most := if single then some (min (most.getD 1) 1) else most
  if most = some 0 then .empty
  else if least = 1 ∧ most = some 1 then body
  else .repeated body least most

mutual
/-- The expression that a part of a pattern writes, and the flags after it. -/
def Node.expr? (flags : Flags) : Node → Option (Expr × Flags)
  | .empty => some (.empty, flags)
  | .flags settings => some (.empty, flags.apply settings)
  | .char literal =>
    (flags.codeOf? literal).map fun code =>
      (.set (flags.fold (Unicode.CodeSet.single code)), flags)
  | .dot => flags.dotSet?.map fun set => (.set set, flags)
  | .assertion kind => some (.condition (flags.condition kind), flags)
  | .property negated query =>
    (flags.propertySet? negated query).map fun set => (.set set, flags)
  | .letter negated kind => (flags.letterSet? negated kind).map fun set => (.set set, flags)
  | .bracketed negated body =>
    ((body.set? flags).bind (flags.foldNegate? negated)).map fun set => (.set set, flags)
  | .repeated body least most =>
    (body.expr? flags).map fun (e, after) => (e.repetition least most, after)
  | .capture body => (body.expr? flags).map fun (e, _) => (.capture e, flags)
  | .group settings body => (body.expr? (flags.apply settings)).map fun (e, _) => (e, flags)
  | .alternation branches =>
    (exprsOf? flags branches).map fun (es, after) => (.alternation es, after)
  | .concat parts => (exprsOf? flags parts).map fun (es, after) => (.concat es, after)

/-- The expressions that parts of a pattern write, each with the flags that those before it
leave. -/
def Node.exprsOf? (flags : Flags) : List Node → Option (List Expr × Flags)
  | [] => some ([], flags)
  | part :: rest =>
    match part.expr? flags with
    | none => none
    | some (e, flags) => (exprsOf? flags rest).map fun (es, after) => (e :: es, after)
end

end Transclude.Regex
