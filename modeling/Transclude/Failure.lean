import Transclude.Command.Fault

/-!
# What can fail

A failure has a cause, and the lines of the directives that it concerns, one inside the other. Each
cause has a message, a code and, for some, a hint at what to do.
-/

namespace Transclude

/-- Why a file cannot be read or written. -/
inductive FileFault where
  | notFound
  | isDirectory
  | notDirectory
  | nameTooLong
  /-- The name holds the character with number zero. -/
  | nulInName
  | tooManyLinks
  | notText
  /-- Whatever else the system says. -/
  | refused (message : String)
  deriving DecidableEq, Repr

/-- What the system says about a file. -/
def FileFault.message : FileFault → String
  | .notFound => "No such file or directory (os error 2)"
  | .isDirectory => "Is a directory (os error 21)"
  | .notDirectory => "Not a directory (os error 20)"
  | .nameTooLong => "File name too long (os error 36)"
  | .nulInName => "file name contained an unexpected NUL byte"
  | .tooManyLinks => "Too many levels of symbolic links (os error 40)"
  | .notText => "stream did not contain valid UTF-8"
  | .refused message => message

/-- Why the content of a reference cannot be had. -/
inductive FetchFault where
  | unknown
  | remoteDisabled
  /-- The network has no answer, for the reason that it gives. -/
  | network (reason : Text)
  /-- The answer has another status than the one for success. -/
  | status (code : Nat) (phrase : Text)
  | notText
  | file (fault : FileFault)
  deriving DecidableEq, Repr

/-- Why there is no content. -/
def FetchFault.message : FetchFault → String
  | .unknown => "not found"
  | .remoteDisabled => "remote references are disabled"
  | .network reason => String.ofList reason
  | .status code phrase => "status " ++ toString code ++ " " ++ String.ofList phrase
  | .notText => "content is not valid UTF-8"
  | .file fault => fault.message

/-- The end of a selection that a pattern is for. -/
inductive Boundary where
  | start
  | stop
  deriving DecidableEq, Repr

/-- The word for a boundary. -/
def Boundary.word : Boundary → String
  | .start => "start"
  | .stop => "end"

/-- Why a document cannot be brought up to date. -/
inductive Cause where
  | file (fault : FileFault)
  | malformed (fault : CommandFault)
  | fetch (reference : Text) (fault : FetchFault)
  | noMatch (literal : Text) (boundary : Boundary)
  /-- No line closes a generated block as `marker` does. -/
  | unterminated (marker : Text)
  /-- The content has a line that is `marker`, and nothing around it would hide that. -/
  | markerInSnippet (reference marker : Text)
  | config
  deriving DecidableEq, Repr

namespace Cause

/-- What went wrong. -/
def message : Cause → String
  | .file fault => fault.message
  | .malformed fault => "malformed directive: " ++ fault.message
  | .fetch reference fault =>
    "failed to fetch `" ++ String.ofList reference ++ "`: " ++ fault.message
  | .noMatch literal boundary =>
    boundary.word ++ " pattern `/" ++ String.ofList literal ++ "/` did not match any line"
  | .unterminated marker =>
    "generated block is missing its closing `" ++ String.ofList marker ++ "` line"
  | .markerInSnippet reference marker =>
    "content of `" ++ String.ofList reference ++ "` contains the `" ++ String.ofList marker ++
      "` line and cannot be embedded unfenced"
  | .config => "failed to parse config file"

/-- The code of the cause. -/
def code : Cause → String
  | .file _ => "embedmd::io_error"
  | .malformed _ => "embedmd::malformed_directive"
  | .fetch _ _ => "embedmd::fetch"
  | .noMatch _ _ => "embedmd::no_match"
  | .unterminated _ => "embedmd::unterminated_block"
  | .markerInSnippet _ _ => "embedmd::marker_in_snippet"
  | .config => "embedmd::config_parse"

/-- What may help against the cause. -/
def help? : Cause → Option String
  | .file _ | .fetch _ _ => none
  | .malformed _ =>
    some "directives look like `[embedmd]:# (path/to/file.ext lang /start/ /end/)`"
  | .noMatch _ _ =>
    some "the referenced content may have changed; update the pattern in the directive"
  | .unterminated _ =>
    some "restore the closing marker or delete the stale generated block by hand"
  | .markerInSnippet _ _ => some "embed this snippet with a language other than `none`"
  | .config =>
    some "check that embedmd.toml is valid TOML with optional [fetch] and [languages] sections"

end Cause

/-- A cause and the lines of the directives that it concerns, the outermost first, each counted from
one. -/
structure Failure where
  lines : List Nat
  cause : Cause
  deriving DecidableEq, Repr

namespace Failure

/-- The failure that concerns no directive. -/
def ofCause (cause : Cause) : Failure := ⟨[], cause⟩

/-- The failure of a directive on a line, because of another. -/
def atLine (line : Nat) (failure : Failure) : Failure := ⟨line :: failure.lines, failure.cause⟩

/-- Whether there is nothing but a reading that never ends. -/
def isEndless (failure : Failure) : Bool := failure.cause == .malformed .endless

/-- What went wrong, and where. -/
def message (failure : Failure) : String :=
  String.join (failure.lines.map fun line => "line " ++ toString line ++ ": ") ++
    failure.cause.message

/-- The code of the failure; all failures of directives share one. -/
def code (failure : Failure) : String :=
  match failure.lines with
  | [] => failure.cause.code
  | _ :: _ => "embedmd::directive"

/-- What may help against the failure, if no directive is to blame. -/
def help? (failure : Failure) : Option String :=
  match failure.lines with
  | [] => failure.cause.help?
  | _ :: _ => none

end Failure

end Transclude
