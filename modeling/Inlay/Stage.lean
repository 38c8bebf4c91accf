import Inlay.Text.Basic

/-!
# Stages

The stages that a document goes through, and a tracker that refuses to leave their order.
-/

namespace Inlay

inductive Stage
  | scanning
  | extracting
  | extracted
  | dispatching
  | dispatched
  | splicing
  | done
  | aborted
  deriving DecidableEq, Repr

namespace Stage

def text : Stage → Text
  | scanning => Inlay.text "scanning"
  | extracting => Inlay.text "extracting"
  | extracted => Inlay.text "extracted"
  | dispatching => Inlay.text "dispatching"
  | dispatched => Inlay.text "dispatched"
  | splicing => Inlay.text "splicing"
  | done => Inlay.text "done"
  | aborted => Inlay.text "aborted"

def all : List Stage :=
  [scanning, extracting, extracted, dispatching, dispatched, splicing, done, aborted]

def ofText? (t : Text) : Option Stage := all.find? (·.text = t)

def next : Stage → List Stage
  | scanning => [extracting, aborted]
  | extracting => [extracted, aborted]
  | extracted => [dispatching]
  | dispatching => [dispatched]
  | dispatched => [splicing]
  | splicing => [done]
  | done => []
  | aborted => []

end Stage

structure TransitionError where
  file : Text
  current : Stage
  asked : Text
  deriving DecidableEq, Repr

def TransitionError.message (e : TransitionError) : Text :=
  text "Illegal pipeline transition " ++ e.current.text ++ text " -> " ++ e.asked ++
    text " for " ++ e.file

structure Tracker where
  file : Text
  current : Stage
  history : List Stage
  deriving DecidableEq, Repr

namespace Tracker

def start (file : Text) : Tracker := ⟨file, .scanning, [.scanning]⟩

def advance (t : Tracker) (stage : Stage) : Except TransitionError Tracker :=
  if t.current.next.contains stage then
    .ok { t with current := stage, history := t.history ++ [stage] }
  else .error ⟨t.file, t.current, stage.text⟩

/-- Advances to a stage by its name; a name of no stage is refused like a stage out of order. -/
def advanceTo (t : Tracker) (name : Text) : Except TransitionError Tracker :=
  match Stage.ofText? name with
  | some stage => t.advance stage
  | none => .error ⟨t.file, t.current, name⟩

end Tracker

end Inlay
