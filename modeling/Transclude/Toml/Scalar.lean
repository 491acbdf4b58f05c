import Transclude.Toml.Value

/-!
# Numbers, dates and times

What is written without quotes and brackets is a word of letters, digits and a few signs. It is one
of the two truth values, a number, a date, a time, or a date and a time.
-/

namespace Transclude.Toml

/-! ## Digits -/

/-- Whether `c` is a decimal digit. -/
def isDigit (c : Char) : Bool := '0' ≤ c && c ≤ '9'

/-- The value of a digit in a base up to sixteen. -/
def digit? (base : Nat) (c : Char) : Option Nat :=
  let value :=
    if isDigit c then c.toNat - 48
    else if 'a' ≤ c ∧ c ≤ 'f' then c.toNat - 87
    else if 'A' ≤ c ∧ c ≤ 'F' then c.toNat - 55
    else 16
  if value < base then some value else none

/-- The number that digits write after `value`; an underscore stands between two digits. -/
def digitsAfter (base value : Nat) : Text → Option Nat
  | [] => some value
  | '_' :: c :: rest => (digit? base c).bind fun d => digitsAfter base (value * base + d) rest
  | c :: rest => (digit? base c).bind fun d => digitsAfter base (value * base + d) rest

/-- The number that digits write, of which there is at least one. -/
def digits? (base : Nat) : Text → Option Nat
  | [] => none
  | c :: rest => (digit? base c).bind fun d => digitsAfter base d rest

/-- The number that decimal digits write, without a zero before other digits. -/
def decimal? (t : Text) : Option Nat :=
  match t with
  | '0' :: _ :: _ => none
  | _ => digits? 10 t

/-- The sign before a number and the rest. -/
def signed (t : Text) : Int × Text :=
  match t with
  | '-' :: rest => (-1, rest)
  | '+' :: rest => (1, rest)
  | _ => (1, t)

/-! ## Numbers -/

/-- The integer that a word writes. -/
def integer? (word : Text) : Option Int :=
  match word with
  | '0' :: 'x' :: rest => (digits? 16 rest).map Int.ofNat
  | '0' :: 'o' :: rest => (digits? 8 rest).map Int.ofNat
  | '0' :: 'b' :: rest => (digits? 2 rest).map Int.ofNat
  | _ =>
    let (sign, rest) := signed word
    (decimal? rest).map fun n => sign * n

/-- The parts of a number before and after the mark of its exponent. -/
def splitExponent (t : Text) : Text × Option Text :=
  match t.dropWhile fun c => c != 'e' && c != 'E' with
  | [] => (t, none)
  | _ :: exponent => (t.takeWhile fun c => c != 'e' && c != 'E', some exponent)

/-- The parts of a number before and after its period. -/
def splitPeriod (t : Text) : Text × Option Text :=
  match t.dropWhile (· != '.') with
  | [] => (t, none)
  | _ :: fraction => (t.takeWhile (· != '.'), some fraction)

/-- The parts of a number with a period or an exponent: its integer, the digits of its fraction and
its exponent. -/
def floatParts? (word : Text) : Option (Nat × Text × Int) :=
  let (mantissa, exponent) := splitExponent (signed word).2
  let (whole, fraction) := splitPeriod mantissa
  if exponent.isNone && fraction.isNone then none
  else do
    let integer ← decimal? whole
    let fraction ← match fraction with
      | none => some []
      | some digits => (digits? 10 digits).map fun _ => digits.filter (· != '_')
    let exponent ← match exponent with
      | none => some 0
      | some text => (digits? 10 (signed text).2).map fun n => (signed text).1 * n
    return (integer, fraction, exponent)

/-- Whether a word writes a number with a period or an exponent, an infinite one or none. -/
def isFloat (word : Text) : Bool :=
  (floatParts? word).isSome || (signed word).2 == "inf".toList || (signed word).2 == "nan".toList

/-- The least number that is nearer to two to the power of 1024 than to a double below that. -/
def floatLimit : Nat := Nat.pow 2 1024 - Nat.pow 2 970

/-- Whether the number that a word writes is in the range of doubles. -/
def floatFits (word : Text) : Bool :=
  match floatParts? word with
  | none => true
  | some (integer, fraction, exponent) =>
    let value := fraction.foldl (fun n c => n * 10 + (c.toNat - 48)) integer
    let scale := exponent - fraction.length
    if value = 0 ∨ scale + (Nat.toDigits 10 value).length < 300 then true
    else if 400 < scale + (Nat.toDigits 10 value).length then false
    else if 0 ≤ scale then value * Nat.pow 10 scale.toNat < floatLimit
    else value < floatLimit * Nat.pow 10 (-scale).toNat

/-! ## Dates and times -/

/-- The number of exactly `count` digits and the rest. -/
def fixedDigits? (count : Nat) (t : Text) : Option (Nat × Text) :=
  let digits := t.take count
  if digits.length = count ∧ digits.all isDigit then
    some (digits.foldl (fun n c => n * 10 + (c.toNat - 48)) 0, t.drop count)
  else none

/-- The rest after a character. -/
def after? (c : Char) (t : Text) : Option Text :=
  match t with
  | d :: rest => if d = c then some rest else none
  | [] => none

/-- A number in decimal with at least `width` digits. -/
def padded (width n : Nat) : Text :=
  let digits := Nat.toDigits 10 n
  List.replicate (width - digits.length) '0' ++ digits

/-- The number of days in a month. -/
def daysIn (year month : Nat) : Nat :=
  if month = 2 then if year % 4 = 0 ∧ (year % 100 ≠ 0 ∨ year % 400 = 0) then 29 else 28
  else if month = 4 ∨ month = 6 ∨ month = 9 ∨ month = 11 then 30
  else 31

/-- The date at the start of a text in its normal form, and the rest. -/
def date? (t : Text) : Option (Text × Text) := do
  let (year, t) ← fixedDigits? 4 t
  let (month, t) ← fixedDigits? 2 (← after? '-' t)
  let (day, t) ← fixedDigits? 2 (← after? '-' t)
  if 1 ≤ month ∧ month ≤ 12 ∧ 1 ≤ day ∧ day ≤ daysIn year month then
    some (padded 4 year ++ '-' :: padded 2 month ++ '-' :: padded 2 day, t)
  else none

/-- The fraction of a second at the start of a text in its normal form, and the rest: at most nine
digits, without zeros at the end. -/
def fraction? (t : Text) : Option (Text × Text) :=
  match t with
  | '.' :: rest =>
    let digits := rest.takeWhile isDigit
    let kept := ((digits.take 9).reverse.dropWhile (· == '0')).reverse
    if digits.isEmpty then none
    else some ('.' :: (if kept.isEmpty then ['0'] else kept), rest.dropWhile isDigit)
  | _ => some ([], t)

/-- The seconds at the start of a text in their normal form, if there are any, and the rest. -/
def seconds? (t : Text) : Option (Text × Text) :=
  match t with
  | ':' :: rest => do
    let (second, t) ← fixedDigits? 2 rest
    let (fraction, t) ← fraction? t
    if second ≤ 60 then some (':' :: padded 2 second ++ fraction, t) else none
  | _ => some ([], t)

/-- The time at the start of a text in its normal form, and the rest. -/
def time? (t : Text) : Option (Text × Text) := do
  let (hour, t) ← fixedDigits? 2 t
  let (minute, t) ← fixedDigits? 2 (← after? ':' t)
  let (seconds, t) ← seconds? t
  if hour < 24 ∧ minute < 60 then some (padded 2 hour ++ ':' :: padded 2 minute ++ seconds, t)
  else none

/-- The distance from universal time that a text writes, in its normal form. -/
def offset? (t : Text) : Option Text :=
  match t with
  | [] => some []
  | ['Z'] | ['z'] => some ['Z']
  | sign :: rest => do
    let (hours, t) ← fixedDigits? 2 rest
    let (minutes, t) ← fixedDigits? 2 (← after? ':' t)
    let sign' := if sign = '-' ∧ (hours ≠ 0 ∨ minutes ≠ 0) then '-' else '+'
    if (sign = '+' ∨ sign = '-') ∧ hours < 24 ∧ minutes < 60 ∧ t = [] then
      some (sign' :: padded 2 hours ++ ':' :: padded 2 minutes)
    else none

/-- The date, time or both that a word writes, in its normal form. -/
def moment? (word : Text) : Option Text :=
  match date? word with
  | some (date, []) => some date
  | some (date, c :: rest) => do
    if c = 'T' ∨ c = 't' ∨ c = ' ' then
      let (time, rest) ← time? rest
      let offset ← offset? rest
      some (date ++ 'T' :: time ++ offset)
    else none
  | none =>
    match time? word with
    | some (time, []) => some time
    | _ => none

/-! ## Words -/

/-- The value that a word writes. -/
def scalar? (word : Text) : Option Value :=
  if word = "true".toList then some (.boolean true)
  else if word = "false".toList then some (.boolean false)
  else
    match integer? word with
    | some value => some (.integer value)
    | none => if isFloat word then some (.float word) else (moment? word).map .moment

/-- The characters of words. -/
def isWordChar (c : Char) : Bool :=
  isDigit c || ('a' ≤ c && c ≤ 'z') || ('A' ≤ c && c ≤ 'Z') || c == '+' || c == '-' ||
    c == '_' || c == '.' || c == ':'

/-- The word at the start of a text, and the rest. A date reaches over one space to a time. -/
def word (t : Text) : Text × Text :=
  let first := t.takeWhile isWordChar
  let rest := t.dropWhile isWordChar
  match date? first, rest with
  | some (_, []), ' ' :: more =>
    match more with
    | a :: b :: ':' :: _ =>
      if isDigit a && isDigit b then
        (first ++ ' ' :: more.takeWhile isWordChar, more.dropWhile isWordChar)
      else (first, rest)
    | _ => (first, rest)
  | _, _ => (first, rest)

end Transclude.Toml
