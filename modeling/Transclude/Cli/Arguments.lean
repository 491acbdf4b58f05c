import Transclude.Text.Basic

/-!
# Arguments of the command line

A command line names paths and parameters. A parameter has a long name after two hyphens and may
have a letter after one; letters may stand together. What takes a value has it after an equals sign,
attached to its letter or in the next argument. After two hyphens alone everything is a path. No
parameter is given twice.
-/

namespace Transclude

/-- What is done with the documents. -/
inductive Mode where
  | print
  | write
  | diff
  deriving DecidableEq, Repr

/-- What a command line asks for. -/
structure Arguments where
  paths : List Text := []
  mode : Mode := .print
  bareFences : Bool := false
  config : Option Text := none
  verbose : Bool := false
  noColor : Bool := false
  deriving DecidableEq, Repr

/-- Whether the document is read from standard input. -/
def Arguments.readsInput (arguments : Arguments) : Bool := arguments.paths.isEmpty

/-! ## Parameters -/

/-- What a command line can name. -/
inductive Parameter where
  | write
  | diff
  | bareFences
  | config
  | verbose
  | noColor
  | help
  | version
  deriving DecidableEq, Repr

namespace Parameter

/-- All parameters. -/
def all : List Parameter :=
  [.write, .diff, .bareFences, .config, .verbose, .noColor, .help, .version]

/-- The name after two hyphens. -/
def name : Parameter → String
  | .write => "write"
  | .diff => "diff"
  | .bareFences => "legacy-fences"
  | .config => "config"
  | .verbose => "verbose"
  | .noColor => "no-color"
  | .help => "help"
  | .version => "version"

/-- The letter after one hyphen. -/
def letter? : Parameter → Option Char
  | .write => some 'w'
  | .diff => some 'd'
  | .config => some 'c'
  | .verbose => some 'v'
  | .help => some 'h'
  | .version => some 'V'
  | .bareFences | .noColor => none

/-- How messages show the parameter. -/
def shown : Parameter → String
  | .config => "--config <CONFIG>"
  | parameter => "--" ++ parameter.name

end Parameter

/-- Why a command line does not lead to a run. -/
inductive ArgumentFault where
  | help
  | version
  | unknown (argument : Text)
  /-- A value for what takes none. -/
  | unexpectedValue (value : Text) (parameter : Parameter)
  /-- No value, or an empty one, for what needs one; the paths are the `none`. -/
  | missingValue (parameter : Option Parameter)
  | repeated (parameter : Parameter)
  | conflict (first second : Parameter)
  deriving DecidableEq, Repr

/-- What is wrong with the command line; asking for help or the version is not wrong. -/
def ArgumentFault.message? : ArgumentFault → Option String
  | .help | .version => none
  | .unknown argument => some ("unexpected argument '" ++ String.ofList argument ++ "' found")
  | .unexpectedValue value parameter =>
    some ("unexpected value '" ++ String.ofList value ++ "' for '" ++ parameter.shown ++
      "' found; no more were expected")
  | .missingValue parameter =>
    let shown := (parameter.map Parameter.shown).getD "[PATHS]..."
    some ("a value is required for '" ++ shown ++ "' but none was supplied")
  | .repeated parameter =>
    some ("the argument '" ++ parameter.shown ++ "' cannot be used multiple times")
  | .conflict first second =>
    some ("the argument '" ++ first.shown ++ "' cannot be used with '" ++ second.shown ++ "'")

namespace Arguments

/-! ## Reading -/

/-- What was read last and is not checked yet. -/
inductive Pending where
  | nothing
  /-- Paths in a row, the last first. -/
  | paths (values : List Text)
  /-- The configuration, perhaps before its value. -/
  | config (value : Option Text)
  deriving DecidableEq, Repr

/-- What was read of a command line. -/
structure Reading where
  pending : Pending := .nothing
  paths : List Text := []
  config : Option Text := none
  /-- The parameters without a value, in order. -/
  switches : List Parameter := []
  deriving DecidableEq, Repr

namespace Reading

/-- The reading with its configuration at `value`. -/
def setConfig (reading : Reading) (value : Text) : Except ArgumentFault Reading :=
  if reading.config.isSome then .error (.repeated .config)
  else if value.isEmpty then .error (.missingValue (some .config))
  else .ok { reading with config := some value }

/-- The reading with all of it checked. -/
def settle (reading : Reading) : Except ArgumentFault Reading :=
  let settled := { reading with pending := .nothing }
  match reading.pending with
  | .nothing => .ok settled
  | .paths values =>
    if values.contains [] then .error (.missingValue none)
    else .ok { settled with paths := reading.paths ++ values.reverse }
  | .config none => .error (.missingValue (some .config))
  | .config (some value) => settled.setConfig value

/-- Reads a parameter without a value attached. -/
def readParameter (reading : Reading) (parameter : Parameter) : Except ArgumentFault Reading :=
  match reading.settle with
  | .error fault => .error fault
  | .ok settled =>
    match parameter with
    | .help => .error .help
    | .version => .error .version
    | .config => .ok { settled with pending := .config none }
    | switch =>
      if settled.switches.contains switch then .error (.repeated switch)
      else .ok { settled with switches := settled.switches ++ [switch] }

/-- Reads a value that is attached to the name or letter of the configuration. -/
def readAttached (reading : Reading) (value : Text) : Except ArgumentFault Reading :=
  match reading.settle with
  | .error fault => .error fault
  | .ok settled => settled.setConfig value

/-- Reads what follows two hyphens. -/
def readName (reading : Reading) (argument : Text) : Except ArgumentFault Reading :=
  let name := argument.takeWhile (· != '=')
  let value := (argument.dropWhile (· != '=')).tail?
  match Parameter.all.find? fun parameter => parameter.name.toList == name with
  | none => .error (.unknown ("--".toList ++ name))
  | some parameter =>
    match value with
    | none => reading.readParameter parameter
    | some value =>
      if parameter = .config then reading.readAttached value
      else .error (.unexpectedValue value parameter)

/-- Reads what follows one hyphen. The letter of the configuration takes the rest as its value. -/
def readLetters (reading : Reading) : Text → Except ArgumentFault Reading
  | [] => .ok reading
  | letter :: rest =>
    match Parameter.all.find? fun parameter => parameter.letter? == some letter with
    | none => .error (.unknown ['-', letter])
    | some .config =>
      match rest with
      | [] => reading.readParameter .config
      | '=' :: value => reading.readAttached value
      | value => reading.readAttached value
    | some parameter =>
      match reading.readParameter parameter with
      | .error fault => .error fault
      | .ok next => next.readLetters rest

/-- Reads a path. -/
def readPath (reading : Reading) (path : Text) : Except ArgumentFault Reading :=
  match reading.pending with
  | .paths values => .ok { reading with pending := .paths (path :: values) }
  | _ =>
    match reading.settle with
    | .error fault => .error fault
    | .ok settled => .ok { settled with pending := .paths [path] }

/-- Reads the arguments from the first on that is a path in any case. -/
def readPaths (reading : Reading) : List Text → Except ArgumentFault Reading
  | [] => reading.settle
  | path :: rest =>
    match reading.readPath path with
    | .error fault => .error fault
    | .ok next => next.readPaths rest

/-- Reads an argument that is not two hyphens. -/
def readArgument (reading : Reading) (argument : Text) : Except ArgumentFault Reading :=
  match argument with
  | '-' :: '-' :: name => reading.readName name
  | '-' :: letter :: rest => reading.readLetters (letter :: rest)
  | _ =>
    match reading.pending with
    | .config none => .ok { reading with pending := .config (some argument) }
    | _ => reading.readPath argument

/-- Reads all arguments. -/
def readAll (reading : Reading) : List Text → Except ArgumentFault Reading
  | [] => reading.settle
  | argument :: rest =>
    if argument = ['-', '-'] then reading.readPaths rest
    else
      match reading.readArgument argument with
      | .error fault => .error fault
      | .ok next => next.readAll rest

/-- What is done with the documents. Only one thing is done. -/
def mode (reading : Reading) : Except ArgumentFault Mode :=
  match reading.switches.filter fun switch => switch = .write || switch = .diff with
  | [] => .ok .print
  | [.write] => .ok .write
  | [_] => .ok .diff
  | first :: second :: _ => .error (.conflict first second)

end Reading

/-- What the arguments ask for. -/
def read (arguments : List Text) : Except ArgumentFault Arguments :=
  match ({} : Reading).readAll arguments with
  | .error fault => .error fault
  | .ok reading =>
    match reading.mode with
    | .error fault => .error fault
    | .ok mode => .ok {
        paths := reading.paths
        mode
        bareFences := reading.switches.contains .bareFences
        config := reading.config
        verbose := reading.switches.contains .verbose
        noColor := reading.switches.contains .noColor }

end Arguments

end Transclude
