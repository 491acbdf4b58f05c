import Transclude.Unicode.Age
import Transclude.Unicode.Binary
import Transclude.Unicode.Boundary
import Transclude.Unicode.Script

/-!
# Properties by name

A set of code points is asked for by the name of a binary property, a general category or a script,
or by the name of a property and one of its values. Names are compared loosely: case, spaces,
hyphens, underscores and a leading `is` do not count.
-/

namespace Transclude.Unicode

/-- How a pattern names a set of code points. -/
inductive PropertyQuery where
  | named (name : List Char)
  | valued (property value : List Char)
  deriving DecidableEq, Repr

namespace PropertyQuery

/-- The characters of a name that count, in lower case. -/
def significant (name : List Char) : List Char :=
  (name.filter fun c => c.toNat < 0x80 && c != ' ' && c != '_' && c != '-').map Char.toLower

/-- The name in the form in which names are compared. The name `isc` keeps its beginning, which is
part of an abbreviation. -/
def normalize (name : List Char) : String :=
  match name with
  | i :: s :: rest =>
    if i.toLower = 'i' ∧ s.toLower = 's' then
      let body := significant rest
      if body = ['c'] then "isc" else String.ofList body
    else String.ofList (significant name)
  | _ => String.ofList (significant name)

/-- The set that a single name asks for: a binary property, else a category, else a script. Three
abbreviations of categories are abbreviations of other properties too and mean the category. -/
def ofName? (name : String) : Option CodeSet :=
  let binary := if ["cf", "sc", "lc"].contains name then none else Binary.named? name
  binary <|> GeneralCategory.named? name <|> Script.named? name

/-- The set of the code points for which a property has a value. -/
def ofValue? (property value : String) : Option CodeSet :=
  match property with
  | "gc" | "generalcategory" => GeneralCategory.named? value
  | "sc" | "script" => Script.named? value
  | "scx" | "scriptextensions" => Script.extensionsNamed? value
  | "age" => Age.named? value
  | "gcb" | "graphemeclusterbreak" => Boundary.graphemeNamed? value
  | "wb" | "wordbreak" => Boundary.wordNamed? value
  | "sb" | "sentencebreak" => Boundary.sentenceNamed? value
  | _ => none

/-- The set that a query asks for, if it names one. -/
def codeSet? : PropertyQuery → Option CodeSet
  | .named name => ofName? (normalize name)
  | .valued property value => ofValue? (normalize property) (normalize value)

end PropertyQuery

end Transclude.Unicode
