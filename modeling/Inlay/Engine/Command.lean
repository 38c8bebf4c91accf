import Inlay.Engine.SyntaxReport

/-!
# Engines that are commands

A formatter that is run as a process once per source: the source goes to its standard input, the
code comes from its standard output, and the exit code tells whether that worked. Running the
process is left to whoever has one; here stand the arguments it is given and what its end means.
-/

namespace Inlay

inductive EngineName
  | black
  | ruff
  deriving DecidableEq, Repr

namespace EngineName

def text : EngineName → Text
  | black => Inlay.text "black"
  | ruff => Inlay.text "ruff"

def all : List EngineName := [black, ruff]

def ofText? (t : Text) : Option EngineName := all.find? (·.text = t)

def leadingArgs : EngineName → List Text
  | black => [Inlay.text "--quiet"]
  | ruff => [Inlay.text "format"]

def args (name : EngineName) (lineLength : Number) (extra : List Text) : List Text :=
  name.leadingArgs ++ [Inlay.text "--line-length", lineLength.text] ++ extra ++ [Inlay.text "-"]

end EngineName

structure EngineConfig where
  name : Option EngineName
  /-- The executable to run in place of the one the engine is named for. -/
  command : Option Text
  args : Option (List Text)
  deriving DecidableEq, Repr

def EngineConfig.empty : EngineConfig := ⟨none, none, none⟩

structure Invocation where
  command : Text
  args : List Text
  stdin : Text
  deriving DecidableEq, Repr

inductive ProcessEnd
  | notStarted (message : Text)
  /-- The process ended; writing to its standard input may have failed before. -/
  | exited (code : Option Int) (stdout stderr : Text) (stdinError : Option Text)
  | hung
  deriving DecidableEq, Repr

structure Command where
  engine : EngineName
  executable : Text
  extraArgs : List Text
  deriving DecidableEq, Repr

namespace Command

def ofConfig (config : EngineConfig) : Command :=
  let engine := config.name.getD .black
  ⟨engine, config.command.getD engine.text, config.args.getD []⟩

def invocation (c : Command) (call : EngineCall) (extra : List Text) : Invocation :=
  ⟨c.executable, c.engine.args call.lineLength (c.extraArgs ++ extra), call.source⟩

def codeText (code : Option Int) : Text :=
  match code with
  | some code => (Number.ofInt code).text
  | none => text "null"

def firstNonempty (texts : List Text) : Text := (texts.find? (!·.isEmpty)).getD []

def cancelled (c : Command) : EngineError :=
  .failure ⟨c.engine.text ++ text " was cancelled", .timeout, none,
    some (text "The operation was aborted")⟩

def answerOf (c : Command) : ProcessEnd → Answer
  | .notStarted message =>
    .error (.failure
      ⟨text "Failed to start " ++ c.executable ++ text ": " ++ message, .spawn, none, some message⟩)
  | .hung => .silence (some c.cancelled)
  | .exited code stdout stderr stdinError =>
    if code = some 0 then .output stdout
    else
      match SyntaxReport.ofStderr? stderr with
      | some report => .error report.toError
      | none =>
        let detail := firstNonempty [Text.trim stderr, stdinError.getD [], text "no output"]
        .error (.failure
          ⟨c.engine.text ++ text " exited with code " ++ codeText code ++ text ": " ++ detail,
            .exit, some ⟨code, stderr⟩, none⟩)

def engineBy (c : Command) (run : Invocation → ProcessEnd) : Engine where
  name := c.engine.text
  answer call := c.answerOf (run (c.invocation call []))

end Command

end Inlay
