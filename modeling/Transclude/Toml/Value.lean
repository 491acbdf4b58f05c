import Transclude.Text.Basic

/-!
# Values of a TOML document

A document is a table. How a table came about decides what may be added to it later, so each table
remembers its origin.
-/

namespace Transclude.Toml

/-- How a table came about. -/
inductive Origin where
  /-- By a header of its own, or as the document. -/
  | header
  /-- As part of a longer header. -/
  | implied
  /-- By keys with periods. -/
  | dotted
  /-- Between braces. -/
  | braced
  deriving DecidableEq, Repr

/-- A value of a document. -/
inductive Value where
  | string (text : Text)
  | integer (value : Int)
  /-- A number that is no integer, as it is written. -/
  | float (text : Text)
  | boolean (value : Bool)
  /-- A date, a time or both, in its normal form. -/
  | moment (text : Text)
  | array (items : List Value)
  | table (origin : Origin) (entries : List (Text × Value))
  /-- The tables under headers in double brackets, the last first, each with its entries. -/
  | tables (items : List (List (Text × Value)))

/-- The entries of a table. -/
abbrev Entries := List (Text × Value)

namespace Entries

/-- The value under a key. -/
def find? (entries : Entries) (key : Text) : Option Value := entries.lookup key

/-- The entries with the value under a key replaced, or added at the end. -/
def put (key : Text) (value : Value) : Entries → Entries
  | [] => [(key, value)]
  | (k, v) :: rest => if k = key then (k, value) :: rest else (k, v) :: put key value rest

/-- The entries with a value under a new key. -/
def add? (entries : Entries) (key : Text) (value : Value) : Option Entries :=
  match entries.find? key with
  | none => some (entries ++ [(key, value)])
  | some _ => none

end Entries

end Transclude.Toml
