import Inlay.Fault
import Inlay.Paint
import Inlay.Text.Collation

/-!
# Diagnostics

What a run has to report about a document: one line per problem, `file:line:column: kind: message`,
listed by file and place.
-/

namespace Inlay

inductive DiagnosticKind
  | malformedIntroducer
  | inconsistentIndentation
  | syntaxError
  | engineError
  | fileError
  deriving DecidableEq, Repr

namespace DiagnosticKind

def text : DiagnosticKind → Text
  | malformedIntroducer => Inlay.text "MalformedIntroducer"
  | inconsistentIndentation => Inlay.text "InconsistentIndentation"
  | syntaxError => Inlay.text "SyntaxError"
  | engineError => Inlay.text "EngineError"
  | fileError => Inlay.text "FileError"

def all : List DiagnosticKind :=
  [malformedIntroducer, inconsistentIndentation, syntaxError, engineError, fileError]

def ofText? (t : Text) : Option DiagnosticKind := all.find? (·.text = t)

def paint : DiagnosticKind → Paint
  | syntaxError => .yellow
  | engineError => .magenta
  | _ => .red

end DiagnosticKind

def StructureKind.diagnostic : StructureKind → DiagnosticKind
  | malformedIntroducer => .malformedIntroducer
  | inconsistentIndentation => .inconsistentIndentation

/-- A problem at a place of a document, numbers from 1. In the diagnostics of this library the
numbers are whole; one that is only to be rendered may come with any. -/
structure Diagnostic where
  file : Text
  line : Rat
  column : Rat
  kind : DiagnosticKind
  message : Text
  deriving DecidableEq, Repr

namespace Diagnostic

def render (colours : Bool) (d : Diagnostic) : Text :=
  Paint.bold.when colours (d.file ++ text ":" ++ Text.ofPlace d.line d.column) ++ text ": " ++
    d.kind.paint.when colours d.kind.text ++ text ": " ++ d.message

def comparePlace (a b : Diagnostic) : Ordering :=
  (compareOfLessAndEq a.line b.line).then (compareOfLessAndEq a.column b.column)

def compare (a b : Diagnostic) : Ordering :=
  (Collation.compare a.file b.file).then (comparePlace a b)

def le (a b : Diagnostic) : Bool := (a.compare b).isLE

/-- The lines of a list of diagnostics. Those of one place keep their order. -/
def renderAll (colours : Bool) (ds : List Diagnostic) : Text :=
  Text.joinWith [CodeUnit.lineFeed] ((ds.mergeSort le).map (render colours))

end Diagnostic

end Inlay
