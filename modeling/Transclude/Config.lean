import Transclude.Document.Refresh
import Transclude.Toml.Reader

/-!
# Configurations

A configuration says how contents are fetched and which languages go with extensions. Whatever a
file leaves out has a default, and whatever it holds beyond that is ignored.
-/

namespace Transclude

/-- How contents are fetched, as a configuration has it. -/
structure FetchConfig where
  timeoutSeconds : Nat := 30
  /-- The variable that holds the token for remote contents. -/
  tokenVariable : Text := "GITHUB_TOKEN".toList
  allowRemote : Bool := true
  deriving DecidableEq, Repr

/-- A configuration. -/
structure Config where
  fetch : FetchConfig := {}
  /-- Extensions, as they are written, each with its language. -/
  languages : List (Text × Text) := []
  /-- Whether a fence without marks below a directive is a block. -/
  bareFences : Bool := false
  deriving DecidableEq, Repr

/-- How contents are fetched. -/
structure FetchOptions where
  timeoutSeconds : Nat := 30
  token : Option Text := none
  allowRemote : Bool := true
  deriving DecidableEq, Repr

/-- The order in which the entries of a table are gone through; it may be another one in each run. -/
structure Order where
  arrange : List (Text × Text) → List (Text × Text)
  perm : ∀ entries, (arrange entries).Perm entries

/-- The order in which entries are written. -/
def Order.asWritten : Order := ⟨id, fun _ => .refl _⟩

namespace Config

/-! ## Values -/

open Toml (Value Entries)

/-- The least integer of 128 bits with a sign. -/
def leastInteger : Int := -0x80000000000000000000000000000000

/-- The greatest integer of 128 bits without a sign. -/
def greatestInteger : Int := 0xFFFFFFFFFFFFFFFFFFFFFFFFFFFFFFFF

mutual
/-- Whether the numbers in a value that is ignored are in range: integers of 128 bits, and doubles
for all others. -/
def isReadable : Value → Bool
  | .integer value => leastInteger ≤ value && value ≤ greatestInteger
  | .float text => Toml.floatFits text
  | .string _ | .boolean _ | .moment _ => true
  | .array items => areReadable items
  | .table _ entries => areEntriesReadable entries
  | .tables items => areTablesReadable items

/-- Whether the numbers in all values are in range. -/
def areReadable : List Value → Bool
  | [] => true
  | value :: rest => isReadable value && areReadable rest

/-- Whether the numbers in all entries are in range. -/
def areEntriesReadable : List (Text × Value) → Bool
  | [] => true
  | (_, value) :: rest => isReadable value && areEntriesReadable rest

/-- Whether the numbers in all tables are in range. -/
def areTablesReadable : List (List (Text × Value)) → Bool
  | [] => true
  | entries :: rest => areEntriesReadable entries && areTablesReadable rest
end

/-- The number of seconds that a value is, in 64 bits. -/
def seconds? : Value → Option Nat
  | .integer value => if 0 ≤ value ∧ value < 0x10000000000000000 then some value.toNat else none
  | _ => none

/-- The text that a value is. -/
def text? : Value → Option Text
  | .string text => some text
  | _ => none

/-- The truth value that a value is. -/
def flag? : Value → Option Bool
  | .boolean value => some value
  | _ => none

/-! ## Tables -/

/-- How contents are fetched, with one more entry. -/
def setFetch? (config : FetchConfig) (key : Text) (value : Value) : Option FetchConfig :=
  match String.ofList key with
  | "timeout_secs" => (seconds? value).map fun n => { config with timeoutSeconds := n }
  | "token_env" => (text? value).map fun t => { config with tokenVariable := t }
  | "allow_remote" => (flag? value).map fun b => { config with allowRemote := b }
  | _ => if isReadable value then some config else none

/-- How contents are fetched, from a table or from an array of the values in order. A date is a
table of other entries. -/
def fetch? : Value → Option FetchConfig
  | .table _ entries => entries.foldlM (fun config entry => setFetch? config entry.1 entry.2) {}
  | .array items =>
    (["timeout_secs", "token_env", "allow_remote"].zip items).foldlM
      (fun config entry => setFetch? config entry.1.toList entry.2) {}
  | .moment _ => some {}
  | _ => none

/-- The key under which a date stands as a table. -/
def momentKey : Text := "$__toml_private_datetime".toList

/-- The languages of extensions, from a table of texts. -/
def languages? : Value → Option (List (Text × Text))
  | .table _ entries => entries.mapM fun entry => (text? entry.2).map (entry.1, ·)
  | .moment text => some [(momentKey, text)]
  | _ => none

/-- The configuration with one more entry. -/
def set? (config : Config) (key : Text) (value : Value) : Option Config :=
  match String.ofList key with
  | "fetch" => (fetch? value).map fun fetch => { config with fetch }
  | "languages" => (languages? value).map fun languages => { config with languages }
  | "legacy_fences" => (flag? value).map fun b => { config with bareFences := b }
  | _ => if isReadable value then some config else none

/-- The configuration that a document writes. -/
def ofToml? (document : Text) : Option Config :=
  (Toml.read? document).bind fun entries =>
    entries.foldlM (fun config entry => config.set? entry.1 entry.2) {}

/-! ## Use -/

/-- How documents are refreshed. -/
def options (config : Config) (order : Order) : Options :=
  ⟨Languages.ofOverrides (order.arrange config.languages), config.bareFences⟩

/-- How contents are fetched with the token that was found. An empty token is none. -/
def fetchOptions (config : Config) (token : Option Text) : FetchOptions :=
  ⟨config.fetch.timeoutSeconds, token.filter fun t => !t.isEmpty, config.fetch.allowRemote⟩

end Config

end Transclude
