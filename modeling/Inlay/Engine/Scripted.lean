import Inlay.Engine.Command
import Inlay.Engine.StandIn
import Inlay.Json.Basic

/-!
# Scripted engines

Engines that answer by a list of rules, each of which says for which sources it holds: for those
that contain a text, or for all. The first rule that holds decides. Scripts stand in for a formatter
in process, or for the process of one that is a command.
-/

namespace Inlay

structure Rule (α : Type) where
  needle : Option Text
  action : α
  deriving DecidableEq, Repr

namespace Rule

def holds (source : Text) (r : Rule α) : Bool := r.needle.all (Text.containsText source)

def decide? (rules : List (Rule α)) (source : Text) : Option α :=
  (rules.find? (·.holds source)).map (·.action)

end Rule

def EngineError.ofValue (value : Json) : EngineError :=
  if value.isShowable then .other value.shown
  else .textless (text "Cannot convert object to primitive value")

inductive ScriptedAction
  | output (code : Text)
  | fail (error : EngineError)
  /-- Fails with what this, written to an error stream, reports. -/
  | report (stderr : Text)
  deriving DecidableEq, Repr

def ScriptedAction.answer : ScriptedAction → Answer
  | output code => .output code
  | fail error => .error error
  | report stderr =>
    match SyntaxReport.ofStderr? stderr with
    | some found => .error found.toError
    | none => .error (.other (text "unrecognized stderr"))

def Engine.identity : Engine := .standIn .output

def Engine.scripted (rules : List (Rule ScriptedAction)) : Engine :=
  .standIn fun source => match Rule.decide? rules source with
    | some action => action.answer
    | none => .output source

/-- Processes by rules; one for which none holds writes what it reads. -/
def ProcessEnd.scripted (rules : List (Rule ProcessEnd)) (i : Invocation) : ProcessEnd :=
  (Rule.decide? rules i.stdin).getD (.exited (some 0) i.stdin [] none)

end Inlay
