import Inlay.Number.Shortest

/-!
# Engines

An engine is a formatter that is asked with one source and a line length at a time. It may give no
answer: such a call ends when it is cancelled, and then the engine either says so itself or leaves
it to its caller to report the time that passed. What it fails with may be anything. The answers of
an `Engine` depend on the call alone; over one document a `Behaviour` may also answer by what came
before.
-/

namespace Inlay

inductive FailureReason
  | timeout
  | exit
  | spawn
  | output
  deriving DecidableEq, Repr

def FailureReason.text : FailureReason → Text
  | timeout => Inlay.text "timeout"
  | exit => Inlay.text "exit"
  | spawn => Inlay.text "spawn"
  | output => Inlay.text "output"

structure ExitReport where
  code : Option Int
  stderr : Text
  deriving DecidableEq, Repr

structure EngineFailure where
  message : Text
  reason : FailureReason
  exit : Option ExitReport
  cause : Option Text
  deriving DecidableEq, Repr

inductive EngineError
  | syntaxError (message : Text) (line column : Rat)
  | failure (failure : EngineFailure)
  | other (message : Text)
  /-- Anything that has no text: to ask for it fails with a complaint. -/
  | textless (complaint : Text)
  deriving DecidableEq, Repr

inductive Answer
  | output (code : Text)
  | error (error : EngineError)
  /-- No answer until the call is cancelled; then what the engine itself reports, if anything. -/
  | silence (cancelled : Option EngineError)
  deriving DecidableEq, Repr

structure EngineCall where
  source : Text
  lineLength : Number
  deriving DecidableEq

structure Engine where
  name : Text
  answer : EngineCall → Answer

/-- What an engine does over one document: its answer to a call may depend on how many calls came
before. -/
structure Behaviour where
  name : Text
  answer : Nat → EngineCall → Answer

def Engine.behaviour (e : Engine) : Behaviour := ⟨e.name, fun _ => e.answer⟩

end Inlay
