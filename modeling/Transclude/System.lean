import Transclude.Config
import Transclude.Files.Tree

/-!
# The system around a run

A run depends on more than files and arguments: on variables, on what comes back from the network, on
whether files can be written, and on the order in which tables are gone through. None of this is known
beforehand, so a run is given all of it. Left out are permissions on directories, rules that a user keeps
outside of the tree, what others do to the files meanwhile, and all that is logged.
-/

namespace Transclude

/-- A request for the content at an address. -/
structure Request where
  address : Text
  timeoutSeconds : Nat
  /-- The token that is sent along. -/
  token : Option Text
  deriving DecidableEq, Repr

/-- The answer to a request. -/
structure Response where
  status : Nat
  /-- What the status is called. -/
  phrase : Text
  /-- The content, or why it does not arrive. -/
  body : Except Text Bytes

/-- What comes back for a request, or why nothing does. Requests alike are answered alike as long as a
run lasts. -/
abbrev Network := Request → Except Text Response

/-- A network that no answer comes from. -/
def Network.none : Network := fun _ => .error "remote content cannot be reached".toList

/-- What a run depends on apart from files. -/
structure System where
  /-- The values of the variables. -/
  valueOf? : Text → Option Text := fun _ => Option.none
  network : Network := .none
  disk : Disk := .free
  order : Order := .asWritten

namespace System

/-- The token for remote contents, from the variable that the configuration names. -/
def token? (system : System) (config : Config) : Option Text :=
  if config.fetch.tokenVariable.isEmpty then Option.none
  else system.valueOf? config.fetch.tokenVariable

end System

end Transclude
