/-!
# Text

A text is a list of characters. This module holds what every other part says about texts: blank
characters and trimming, the size in UTF-8, and the split into lines. The lines of a text, joined,
are the text (`flatten_lines`).
-/

namespace Transclude

/-- A text is a list of characters, so that proofs follow its structure. -/
abbrev Text := List Char

namespace Text

/-! ## Blanks -/

/-- The characters with the Unicode property `White_Space`. -/
def isBlank (c : Char) : Bool :=
  let n := c.toNat
  (9 ≤ n && n ≤ 13) || n == 0x20 || n == 0x85 || n == 0xA0 || n == 0x1680 ||
  (0x2000 ≤ n && n ≤ 0x200A) || n == 0x2028 || n == 0x2029 || n == 0x202F || n == 0x205F ||
  n == 0x3000

/-- The text from its first character that is not blank. -/
def trimStart (t : Text) : Text := t.dropWhile isBlank

/-- The text up to its last character that is not blank. -/
def trimEnd (t : Text) : Text := (t.reverse.dropWhile isBlank).reverse

/-- The text without blanks at either end. -/
def trim (t : Text) : Text := trimEnd (trimStart t)

/-! ## Parts -/

/-- What follows `start` in `t`, when `t` begins with it. -/
def after? (start t : Text) : Option Text := start.isPrefixOf? t

/-- What precedes `tail` in `t`, when `t` ends with it. -/
def before? (tail t : Text) : Option Text := tail.isSuffixOf? t

/-- The pieces of `t` between the characters that satisfy `p`; there is always at least one. -/
def pieces (p : Char → Bool) : Text → List Text
  | [] => [[]]
  | c :: rest =>
    match pieces p rest with
    | [] => [[c]]
    | piece :: more => if p c then [] :: piece :: more else (c :: piece) :: more

/-- What comes before and after the last `c` in the text. -/
def cutLast? (c : Char) : Text → Option (Text × Text)
  | [] => none
  | d :: rest =>
    match cutLast? c rest with
    | some (before, after) => some (d :: before, after)
    | none => if d = c then some ([], rest) else none

/-- A cut text is put together by the character at the cut, which does not come after it. -/
theorem eq_of_cutLast? {c : Char} {t before after : Text}
    (h : cutLast? c t = some (before, after)) : t = before ++ c :: after ∧ c ∉ after := by
  induction t generalizing before with
  | nil => simp [cutLast?] at h
  | cons d rest ih =>
    unfold cutLast? at h
    split at h
    · next heq =>
      obtain ⟨rfl, rfl⟩ := by simpa using h
      obtain ⟨rfl, hn⟩ := ih heq
      exact ⟨rfl, hn⟩
    · next heq =>
      split at h
      · next hd =>
        obtain ⟨rfl, rfl⟩ := by simpa using h
        exact ⟨by simp [hd], not_mem_of_cutLast?_eq_none heq⟩
      · cases h
where
  /-- A text that cannot be cut at `c` does not hold it. -/
  not_mem_of_cutLast?_eq_none {c : Char} {t : Text} (h : cutLast? c t = none) : c ∉ t := by
    induction t with
    | nil => simp
    | cons d rest ih =>
      unfold cutLast? at h
      split at h
      · cases h
      · next heq =>
        split at h
        · cases h
        · next hd => simp [Ne.symm hd, ih heq]

/-! ## Sizes -/

/-- The number of bytes of the text in UTF-8. -/
def utf8Size : Text → Nat
  | [] => 0
  | c :: rest => c.utf8Size + utf8Size rest

@[simp] theorem utf8Size_nil : utf8Size [] = 0 := rfl

@[simp] theorem utf8Size_cons (c : Char) (t : Text) :
    utf8Size (c :: t) = c.utf8Size + utf8Size t := rfl

@[simp] theorem utf8Size_append (s t : Text) : utf8Size (s ++ t) = utf8Size s + utf8Size t := by
  induction s with
  | nil => simp
  | cons c rest ih => simp [ih, Nat.add_assoc]

/-! ## Case -/

/-- The text with the letters `A` to `Z` in lower case. -/
def toAsciiLower (t : Text) : Text := t.map Char.toLower

/-! ## Lines -/

/-- The pieces of a text that end after each line feed; the last may lack one. -/
def lines : Text → List Text
  | [] => []
  | c :: rest =>
    if c = '\n' then [c] :: lines rest
    else
      match lines rest with
      | [] => [[c]]
      | line :: more => (c :: line) :: more

/-- The lines of a text, joined, are the text. -/
@[simp] theorem flatten_lines (t : Text) : (lines t).flatten = t := by
  induction t with
  | nil => rfl
  | cons c rest ih =>
    unfold lines
    split
    · simp [ih]
    · split
      · next h => simp [h] at ih; simp [← ih]
      · next h => simp [h] at ih; simp [← ih]

/-- No line is empty. -/
theorem ne_nil_of_mem_lines {t line : Text} (h : line ∈ lines t) : line ≠ [] := by
  induction t generalizing line with
  | nil => simp [lines] at h
  | cons c rest ih =>
    unfold lines at h
    split at h
    · rcases List.mem_cons.mp h with rfl | h
      · simp
      · exact ih h
    · split at h
      · simp at h; simp [h]
      · next heq =>
        rcases List.mem_cons.mp h with rfl | h
        · simp
        · exact ih (heq ▸ List.mem_cons_of_mem _ h)

/-- Whether the text ends with a line feed. -/
def endsLine (t : Text) : Bool := t.getLast? == some '\n'

/-- Whether the text ends with a carriage return and a line feed. -/
def endsCrlf (t : Text) : Bool := ['\r', '\n'].isSuffixOf t

/-- The line without the line feed, or carriage return and line feed, at its end. A carriage
return left at the end of a line without a line feed goes too. -/
def stripLineEnding (line : Text) : Text :=
  let body := if line.getLast? = some '\n' then line.dropLast else line
  if body.getLast? = some '\r' then body.dropLast else body

/-- The line ending that `line` uses, a line feed where it has none. -/
def lineEnding (line : Text) : Text := if endsCrlf line then ['\r', '\n'] else ['\n']

/-- The line with `eol` supplied where its line feed is missing. -/
def completeLine (eol line : Text) : Text := if endsLine line then line else line ++ eol

end Text

end Transclude
