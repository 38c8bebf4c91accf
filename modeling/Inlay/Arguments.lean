import Inlay.Config

/-!
# Command line arguments

Options and paths. A long option may have its value behind an equals sign; otherwise the next
argument is the value, unless that looks like an option. `--` makes paths of all that follows. The
whole is refused at the first argument that cannot be read, and then if its parts do not go
together.
-/

namespace Inlay

inductive OutputMode
  | stdout
  | write
  | check
  deriving DecidableEq, Repr

def OutputMode.text : OutputMode → Text
  | stdout => Inlay.text "stdout"
  | write => Inlay.text "write"
  | check => Inlay.text "check"

inductive Switch
  | version
  | help
  | verbose
  | debug
  | check
  | write
  | strict
  deriving DecidableEq, Repr

inductive ValueOption
  | lineLength
  | statementLength
  | concurrency
  | tabWidth
  | timeout
  | engine
  | engineCommand
  | indentPolicy
  deriving DecidableEq, Repr

inductive Flag
  | switch (s : Switch)
  | value (v : ValueOption)
  deriving DecidableEq, Repr

def Flag.spellings : List (Text × Flag) :=
  [(text "--version", .switch .version), (text "-V", .switch .version),
    (text "--help", .switch .help), (text "-h", .switch .help),
    (text "--verbose", .switch .verbose), (text "-v", .switch .verbose),
    (text "--debug", .switch .debug), (text "-d", .switch .debug),
    (text "--check", .switch .check),
    (text "--write", .switch .write), (text "-w", .switch .write),
    (text "--strict", .switch .strict),
    (text "--line-length", .value .lineLength), (text "-l", .value .lineLength),
    (text "--inline-line-length", .value .statementLength),
    (text "--concurrency", .value .concurrency), (text "-j", .value .concurrency),
    (text "--tab-width", .value .tabWidth),
    (text "--timeout", .value .timeout),
    (text "--engine", .value .engine),
    (text "--engine-command", .value .engineCommand),
    (text "--indent-policy", .value .indentPolicy)]

def Flag.ofText? (t : Text) : Option Flag := spellings.lookup t

structure Options where
  inputs : List Text
  check : Bool
  write : Bool
  strict : Option Bool
  lineLength : Option Nat
  statementLength : Option Nat
  concurrency : Option Nat
  /-- In milliseconds. -/
  timeout : Option Number
  engine : Option EngineName
  engineCommand : Option Text
  indentPolicy : Option IndentPolicy
  tabWidth : Option Nat
  verbose : Bool
  debug : Bool
  help : Bool
  version : Bool
  deriving DecidableEq

def Options.empty : Options where
  inputs := []
  check := false
  write := false
  strict := none
  lineLength := none
  statementLength := none
  concurrency := none
  timeout := none
  engine := none
  engineCommand := none
  indentPolicy := none
  tabWidth := none
  verbose := false
  debug := false
  help := false
  version := false

inductive UsageError
  | unknownOption (option : Text)
  | missingValue (option : Text)
  | badCount (error : CountError)
  | badDuration (option value : Text)
  | noDuration (option : Text)
  | badEngine (value : Text)
  | badPolicy (value : Text)
  | checkAndWrite
  | stdinAndPaths
  | writeStdin
  deriving DecidableEq, Repr

def UsageError.message : UsageError → Text
  | unknownOption option => text "Unknown option: " ++ option
  | missingValue option => option ++ text " requires a value"
  | badCount e => e.message
  | badDuration option value =>
    option ++ text " must be a duration such as \"10s\" or \"500ms\", got: " ++ value
  | noDuration option => option ++ text " must be greater than zero"
  | badEngine value => text "--engine must be one of black, ruff, got: " ++ value
  | badPolicy value => text "--indent-policy must be one of reject, expand-tabs, got: " ++ value
  | checkAndWrite => text "--check and --write cannot be used together"
  | stdinAndPaths => text "\"-\" (stdin) cannot be combined with other paths"
  | writeStdin => text "--write needs file paths; stdin is always written to stdout"

namespace Options

open CodeUnit

def dash : Text := [ofChar '-']

def doubleDash : Text := [ofChar '-', ofChar '-']

def isPath (argument : Text) : Bool := argument = dash || !dash.isPrefixOf argument

def splitValue (argument : Text) : Text × Option Text :=
  if doubleDash.isPrefixOf argument then
    match Text.cutAt? (ofChar '=') argument with
    | some (option, value) => (option, some value)
    | none => (argument, none)
  else (argument, none)

def switchOn (s : Switch) (o : Options) : Options :=
  match s with
  | .version => { o with version := true }
  | .help => { o with help := true }
  | .verbose => { o with verbose := true }
  | .debug => { o with debug := true }
  | .check => { o with check := true }
  | .write => { o with write := true }
  | .strict => { o with strict := some true }

def readCount (option value : Text) : Except UsageError Nat :=
  (Count.ofText option value).mapError .badCount

/-- A duration of at least a millisecond. -/
def readTimeout (option value : Text) : Except UsageError Number :=
  match Duration.parse value with
  | .error _ => .error (.badDuration option value)
  | .ok millis => if millis.lt (.ofNat 1) then .error (.noDuration option) else .ok millis

def assign (v : ValueOption) (option value : Text) (o : Options) : Except UsageError Options :=
  match v with
  | .lineLength => return { o with lineLength := some (← readCount option value) }
  | .statementLength => return { o with statementLength := some (← readCount option value) }
  | .concurrency => return { o with concurrency := some (← readCount option value) }
  | .tabWidth => return { o with tabWidth := some (← readCount option value) }
  | .timeout => return { o with timeout := some (← readTimeout option value) }
  | .engine =>
    match EngineName.ofText? value with
    | some name => .ok { o with engine := some name }
    | none => .error (.badEngine value)
  | .engineCommand => .ok { o with engineCommand := some value }
  | .indentPolicy =>
    match IndentPolicy.ofText? value with
    | some policy => .ok { o with indentPolicy := some policy }
    | none => .error (.badPolicy value)

def addInputs (inputs : List Text) (o : Options) : Options :=
  { o with inputs := o.inputs ++ inputs }

/-- Reads arguments into options, without asking whether these go together. -/
def read (o : Options) : List Text → Except UsageError Options
  | [] => .ok o
  | argument :: rest =>
    if isPath argument then read (o.addInputs [argument]) rest
    else if argument = doubleDash then .ok (o.addInputs rest)
    else
      let (option, attached) := splitValue argument
      match Flag.ofText? option with
      | none => .error (.unknownOption option)
      | some (.switch s) => read (o.switchOn s) rest
      | some (.value v) =>
        match attached with
        | some value =>
          match o.assign v option value with
          | .ok o => read o rest
          | .error e => .error e
        | none =>
          match rest with
          | [] => .error (.missingValue option)
          | value :: rest =>
            if isPath value then
              match o.assign v option value with
              | .ok o => read o rest
              | .error e => .error e
            else .error (.missingValue option)

def readsStdin (o : Options) : Bool := o.inputs = [] || o.inputs = [dash]

def validate (o : Options) : Except UsageError Options :=
  if o.check && o.write then .error .checkAndWrite
  else if o.inputs.contains dash && o.inputs.length > 1 then .error .stdinAndPaths
  else if o.write && o.readsStdin then .error .writeStdin
  else .ok o

def parse (arguments : List Text) : Except UsageError Options := do
  validate (← read .empty arguments)

end Options

end Inlay
