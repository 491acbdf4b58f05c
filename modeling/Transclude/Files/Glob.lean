import Transclude.Regex.Expr
import Transclude.Text.Bytes

/-!
# Globs

A glob is a pattern for paths. A question mark stands for one byte and a star for any number, but
neither for a slash; two stars between slashes stand for any number of directories. A set in
brackets stands for one of its bytes and branches in braces for one of them. A backslash takes the
special meaning from the character after it. Matching is done on the bytes of a path in UTF-8, and
always on the whole path.
-/

namespace Transclude

/-- A part of a glob. -/
inductive GlobPart where
  | literal (c : Char)
  | anyOne
  | anyMany
  /-- Any number of directories at the beginning. -/
  | leading
  /-- Anything below a directory at the end. -/
  | trailing
  /-- A slash, with any number of directories between it and another. -/
  | between
  | oneOf (negated : Bool) (ranges : List (Char × Char))
  | branches (globs : List (List GlobPart))

/-- A pattern for paths. -/
abbrev Glob := List GlobPart

namespace Glob

/-! ## Sets in brackets -/

/-- How the reading of a set ends. -/
inductive SetEnd where
  | unclosed
  /-- A range has its greater end first. -/
  | reversed
  /-- The ranges, and what comes after the closing bracket. -/
  | closed (ranges : List (Char × Char)) (rest : Text)

/-- Reads the ranges of a set; those before are in `ranges`, the last first. `inRange` says that the
end of the first of them is to come. A closing bracket that comes first is in the set, and so is a
hyphen at either end. -/
def readRanges (ranges : List (Char × Char)) (inRange atStart : Bool) : Text → SetEnd
  | [] => .unclosed
  | c :: rest =>
    if c = ']' && !atStart then
      .closed (if inRange then ('-', '-') :: ranges else ranges).reverse rest
    else if c = '-' && !atStart && !inRange then readRanges ranges true false rest
    else
      match inRange, ranges with
      | true, (lo, _) :: more =>
        if c < lo then .reversed else readRanges ((lo, c) :: more) false false rest
      | _, _ => readRanges ((c, c) :: ranges) false false rest

theorem length_of_readRanges {ranges found : List (Char × Char)} {inRange atStart : Bool}
    {t rest : Text} (h : readRanges ranges inRange atStart t = .closed found rest) :
    rest.length < t.length := by
  fun_induction readRanges ranges inRange atStart t with
  | case1 => cases h
  | case2 =>
    injection h with _ hr
    subst hr
    simp
  | case4 => cases h
  | _ => grind

/-! ## Symbols -/

/-- What the characters of a glob are before their neighbours are looked at. -/
inductive Symbol where
  | char (c : Char)
  | slash
  | question
  | star
  | set (negated : Bool) (ranges : List (Char × Char))
  | openBrace
  | closeBrace
  | comma

/-- The set that begins the text after an opening bracket. -/
def readSet (t : Text) : Bool × SetEnd :=
  match t with
  | [] => (false, .unclosed)
  | c :: rest =>
    if c = '!' || c = '^' then (true, readRanges [] false true rest)
    else (false, readRanges [] false true (c :: rest))

theorem length_of_readSet {t rest : Text} {negated : Bool} {ranges : List (Char × Char)}
    (h : readSet t = (negated, .closed ranges rest)) : rest.length < t.length := by
  unfold readSet at h
  split at h
  · cases h
  · split at h
    · injection h with _ h
      exact Nat.lt_succ_of_lt (length_of_readRanges h)
    · injection h with _ h
      exact length_of_readRanges h

/-- The symbol of a character that stands alone. -/
def Symbol.ofChar (c : Char) : Symbol :=
  if c = '/' then .slash
  else if c = '?' then .question
  else if c = '*' then .star
  else if c = '{' then .openBrace
  else if c = '}' then .closeBrace
  else if c = ',' then .comma
  else .char c

/-- The symbols of a text. A bracket that is not closed stands for itself, and no bracket after it
is closed either: `sets` says that there was none yet. A backslash at the end and a reversed range
are refused. -/
def symbols (sets : Bool) : Text → Option (List Symbol)
  | [] => some []
  | ['\\'] => none
  | '\\' :: c :: rest => (symbols sets rest).map (.char c :: ·)
  | '[' :: rest =>
    if sets then
      match h : readSet rest with
      | (_, .unclosed) => (symbols false rest).map (.char '[' :: ·)
      | (_, .reversed) => none
      | (negated, .closed ranges after) =>
        have := length_of_readSet h
        (symbols sets after).map (.set negated ranges :: ·)
    else (symbols false rest).map (.char '[' :: ·)
  | c :: rest => (symbols sets rest).map (Symbol.ofChar c :: ·)
termination_by t => t.length

/-! ## Parts -/

/-- The branch that is being read: its parts, the last first, and the branches before it, the last
first. -/
structure Level where
  branches : List Glob := []
  parts : Glob := []

/-- The level with one more part. -/
def Level.add (level : Level) (part : GlobPart) : Level :=
  { level with parts := part :: level.parts }

/-- The level with two stars that stand for what one does. -/
def Level.addStars (level : Level) : Level := (level.add .anyMany).add .anyMany

/-- The level with directories in place of the part before, unless that stands for directories at
an end of the glob. -/
def Level.addDirectories (level : Level) (part : GlobPart) : Level :=
  match level.parts with
  | .leading :: _ | .trailing :: _ => level
  | _ :: below => { level with parts := part :: below }
  | [] => level.add part

/-- All branches of the level, the last of them being finished. -/
def Level.finished (level : Level) : List Glob := (level.parts.reverse :: level.branches).reverse

/-- Whether two stars after `last` may stand for directories: after a slash, and in braces at the
start of a branch. -/
def opensDirectories (inBraces : Bool) (last : Option Char) : Bool :=
  last == some '/' || (inBraces && (last == some ',' || last == some '{'))

/-- Reads the parts of a glob: `outer` holds the levels around the braces that are open, the
innermost first, and `last` is the character before. -/
def build (outer : List Level) (level : Level) (last : Option Char) :
    List Symbol → Option Glob
  | [] => if outer.isEmpty then some level.parts.reverse else none
  | .star :: .star :: .slash :: rest =>
    let next :=
      if level.parts.isEmpty then level.add .leading
      else if opensDirectories (!outer.isEmpty) last then level.addDirectories .between
      else level.addStars.add (.literal '/')
    build outer next (some '/') rest
  | [.star, .star] =>
    let next :=
      if level.parts.isEmpty then level.add .leading
      else if opensDirectories (!outer.isEmpty) last then level.addDirectories .trailing
      else level.addStars
    build outer next (some '*') []
  | .star :: .star :: symbol :: rest =>
    let ends : Bool :=
      match symbol with
      | .comma | .closeBrace => !outer.isEmpty
      | _ => false
    let next :=
      if !level.parts.isEmpty && ends && opensDirectories (!outer.isEmpty) last then
        level.addDirectories .trailing
      else level.addStars
    build outer next (some '*') (symbol :: rest)
  | .star :: rest => build outer (level.add .anyMany) (some '*') rest
  | .question :: rest => build outer (level.add .anyOne) (some '?') rest
  | .slash :: rest => build outer (level.add (.literal '/')) (some '/') rest
  | .char c :: rest => build outer (level.add (.literal c)) (some c) rest
  | .set negated ranges :: rest => build outer (level.add (.oneOf negated ranges)) (some ']') rest
  | .openBrace :: rest => build (level :: outer) {} (some '{') rest
  | .closeBrace :: rest =>
    match outer with
    | [] => none
    | around :: outer => build outer (around.add (.branches level.finished)) (some '}') rest
  | .comma :: rest =>
    if outer.isEmpty then build outer (level.add (.literal ',')) (some ',') rest
    else build outer { branches := level.parts.reverse :: level.branches } (some ',') rest

/-- The glob that a text writes, if it writes one. -/
def ofText? (t : Text) : Option Glob := (symbols true t).bind (build [] {} none)

/-! ## Matching -/

open Regex (Expr)

/-- Any byte. -/
def anyByte : Unicode.CodeSet := .range 0 255

/-- Any byte but a slash. -/
def nameByte : Unicode.CodeSet := [⟨0, 46⟩, ⟨48, 255⟩]

/-- A slash. -/
def slash : Expr := .set (.single 47)

/-- Any bytes. -/
def anyBytes : Expr := .repeated (.set anyByte) 0 none

/-- The expression for the bytes of a character. -/
def literalExpr (c : Char) : Expr :=
  .concat ((Text.octets [c]).map fun b => .set (.single b.toNat))

/-- The bytes that a range of a set holds. A range of characters with more than one byte goes from
the last byte of the one to the first byte of the other, and the bytes around those are members. -/
def rangeBytes (range : Char × Char) : Unicode.CodeSet :=
  let lo := (Text.octets [range.1]).map Char.toNat
  let hi := (Text.octets [range.2]).map Char.toNat
  if range.1 = range.2 then .unions (lo.map .single)
  else
    .unions ([.range (lo.getLastD 0) (hi.headD 0)] ++ lo.dropLast.map .single ++
      hi.tail.map .single)

/-- The bytes that a set stands for. -/
def setBytes (negated : Bool) (ranges : List (Char × Char)) : Unicode.CodeSet :=
  let members := Unicode.CodeSet.unions (ranges.map rangeBytes)
  if negated then members.complement else members

mutual
/-- The expression for a part; branches that are all empty have none. -/
def partExpr? : GlobPart → Option Expr
  | .literal c => some (literalExpr c)
  | .anyOne => some (.set nameByte)
  | .anyMany => some (.repeated (.set nameByte) 0 none)
  | .leading => some (.alternation [.repeated slash 0 (some 1), .concat [anyBytes, slash]])
  | .trailing => some (.concat [slash, anyBytes])
  | .between => some (.alternation [slash, .concat [slash, anyBytes, slash]])
  | .oneOf negated ranges => some (.set (setBytes negated ranges))
  | .branches globs =>
    match branchExprs globs with
    | [] => none
    | exprs => some (.alternation exprs)

/-- The expressions for the parts that have one. -/
def partExprs : List GlobPart → List Expr
  | [] => []
  | part :: rest => (partExpr? part).toList ++ partExprs rest

/-- The expressions for the branches that are not empty. -/
def branchExprs : List (List GlobPart) → List Expr
  | [] => []
  | glob :: rest =>
    match partExprs glob with
    | [] => branchExprs rest
    | exprs => .concat exprs :: branchExprs rest
end

/-- The expression for the whole glob. -/
def expr : Glob → Expr
  | [.leading] => anyBytes
  | glob =>
    .concat ([.condition .textStart] ++ partExprs glob ++ [.condition .textEnd])

/-- Whether the glob matches the path. -/
def isMatch (glob : Glob) (path : Text) : Bool := (expr glob).isMatch (Text.octets path)

end Glob

end Transclude
