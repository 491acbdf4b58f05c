import Transclude.Toml.Value

/-!
# Building tables

Keys with periods and headers name a place in a table by the path to it. Tables on the way come into
being as they are needed. What was defined once is not defined again: a header may complete what
longer headers implied but nothing else, and keys with periods go into tables that such keys made.
-/

namespace Transclude.Toml.Entries

/-- The entries with `value` at the end of a path of keys with periods. -/
def insert? (entries : Entries) (value : Value) : List Text → Option Entries
  | [] => none
  | [key] => entries.add? key value
  | key :: more =>
    match entries.find? key with
    | none => (insert? [] value more).map fun inner => entries.put key (.table .dotted inner)
    | some (.table .dotted inner) =>
      (insert? inner value more).map fun inner => entries.put key (.table .dotted inner)
    | some (.table .implied inner) =>
      if more.length = 1 then none
      else (insert? inner value more).map fun inner => entries.put key (.table .implied inner)
    | some (.tables (last :: before)) =>
      if more.length = 1 then none
      else (insert? last value more).map fun last => entries.put key (.tables (last :: before))
    | some _ => none

/-- The entries with the value at the end of a header's path changed by `f`. -/
def change? (entries : Entries) (f : Option Value → Option Value) : List Text → Option Entries
  | [] => none
  | [key] => (f (entries.find? key)).map fun value => entries.put key value
  | key :: more =>
    match entries.find? key with
    | none => (change? [] f more).map fun inner => entries.put key (.table .implied inner)
    | some (.table origin inner) =>
      if origin = .braced then none
      else (change? inner f more).map fun inner => entries.put key (.table origin inner)
    | some (.tables (last :: before)) =>
      (change? last f more).map fun last => entries.put key (.tables (last :: before))
    | some _ => none

/-- The entries with the table that a header opens. -/
def openTable? (entries : Entries) (path : List Text) : Option Entries :=
  entries.change? (fun
    | none => some (.table .header [])
    | some (.table .implied inner) => some (.table .header inner)
    | some _ => none) path

/-- The entries with one more table under a header in double brackets. -/
def openItem? (entries : Entries) (path : List Text) : Option Entries :=
  entries.change? (fun
    | none => some (.tables [[]])
    | some (.tables items) => some (.tables ([] :: items))
    | some _ => none) path

/-- The entries with `value` at a path in the table that the last header opened. -/
def insertUnder? (entries : Entries) (header path : List Text) (value : Value) : Option Entries :=
  if header.isEmpty then entries.insert? value path
  else
    entries.change? (fun
      | some (.table origin inner) =>
        (insert? inner value path).map fun inner => .table origin inner
      | some (.tables (last :: before)) =>
        (insert? last value path).map fun last => .tables (last :: before)
      | _ => none) header

end Transclude.Toml.Entries
