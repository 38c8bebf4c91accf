import Inlay.Engine.SyntaxReport
import Inlay.Engine.Assignments

/-!
# A stand-in engine

An engine that runs in process and answers by a given function of the source. Markers in the
source make it misbehave as a real engine might: hang, crash, or refuse to parse a line.
-/

namespace Inlay

namespace StandIn

open CodeUnit

def name : Text := text "fake"

def hangMarker : Text := text "HANG"
def crashMarker : Text := text "CRASH"
def syntaxMarker : Text := text "!!"

def crash : EngineError :=
  .failure ⟨text "fake exited with code 1: crashed", .exit, some ⟨some 1, []⟩, none⟩

/-- The error at the first marker that refuses to parse, the lines of the source counted from a
number. -/
def refusal? (number : Nat) : List Text → Option EngineError
  | [] => none
  | line :: rest =>
    match Text.offsetOf? syntaxMarker line with
    | some offset =>
      some (.syntaxError (text "Cannot parse: " ++ Text.trim line) number (offset + 1 : Nat))
    | none => refusal? (number + 1) rest

def answer (transform : Text → Answer) (call : EngineCall) : Answer :=
  if Text.containsText call.source hangMarker then .silence none
  else if Text.containsText call.source crashMarker then .error crash
  else
    match refusal? 1 (Text.splitOn lineFeed call.source) with
    | some error => .error error
    | none => transform call.source

end StandIn

def Engine.standIn (transform : Text → Answer) : Engine := ⟨StandIn.name, StandIn.answer transform⟩

def Engine.assignments : Engine := .standIn fun source => .output (Assignments.format source)

end Inlay
