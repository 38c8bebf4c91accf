import Inlay.Engine.Basic
import Inlay.Json.Printer
import Inlay.StructureError
import Inlay.Text.Search

/-!
# Faults

The common form in which the errors of this library are reported: a message, a code, a severity,
and where they are known details, a place, and the document they occurred in. `Fault.excerpt` shows
the lines around the place.
-/

namespace Inlay

inductive Severity
  | recoverable
  | fatal
  deriving DecidableEq, Repr

def Severity.text : Severity → Text
  | recoverable => Inlay.text "recoverable"
  | fatal => Inlay.text "fatal"

structure Location where
  file : Option Text
  line : Rat
  column : Rat
  deriving DecidableEq, Repr

/-- A line and a column in a message. Each is written as the double nearest to it. -/
def Text.ofPlace (line column : Rat) : Text :=
  (Number.nearest line).text ++ text ":" ++ (Number.nearest column).text

def Location.text (l : Location) : Text :=
  let place := Text.ofPlace l.line l.column
  match l.file with
  | some file => if file.isEmpty then place else file ++ Inlay.text ":" ++ place
  | none => place

inductive FileOperation
  | read
  | write
  deriving DecidableEq, Repr

def FileOperation.text : FileOperation → Text
  | read => Inlay.text "read"
  | write => Inlay.text "write"

structure FileError where
  file : Text
  operation : FileOperation
  reason : Text
  deriving DecidableEq, Repr

def FileError.message (e : FileError) : Text :=
  text "Could not " ++ e.operation.text ++ text " " ++ e.file ++ text ": " ++ e.reason

inductive StructureKind
  | malformedIntroducer
  | inconsistentIndentation
  deriving DecidableEq, Repr

def StructureError.kind (e : StructureError) : StructureKind :=
  match e.cause with
  | .introducer _ => .malformedIntroducer
  | .indentation _ => .inconsistentIndentation

inductive Fault
  | structural (kind : StructureKind) (message : Text) (location : Option Location)
      (source : Option Text)
  | engineSyntax (message : Text) (line column : Rat)
  | engineFailure (message reason : Text) (details : Json.Members)
  | fileAccess (error : FileError)
  | other (message code : Text) (severity : Severity) (details : Option Json.Members)
      (location : Option Location) (source : Option Text)

namespace Fault

def message : Fault → Text
  | structural _ message _ _ => message
  | engineSyntax message _ _ => message
  | engineFailure message _ _ => message
  | fileAccess error => error.message
  | other message _ _ _ _ _ => message

def code : Fault → Text
  | structural .malformedIntroducer _ _ _ => text "MALFORMED_INTRODUCER"
  | structural .inconsistentIndentation _ _ _ => text "INCONSISTENT_INDENTATION"
  | engineSyntax _ _ _ => text "ENGINE_SYNTAX_ERROR"
  | engineFailure _ _ _ => text "ENGINE_FAILURE"
  | fileAccess _ => text "FILE_ACCESS"
  | other _ code _ _ _ _ => code

def severity : Fault → Severity
  | structural _ _ _ _ => .fatal
  | engineSyntax _ _ _ => .recoverable
  | engineFailure _ _ _ => .recoverable
  | fileAccess _ => .fatal
  | other _ _ severity _ _ _ => severity

def details : Fault → Option Json.Members
  | structural _ _ _ _ => none
  | engineSyntax _ line column =>
    some [(text "line", .number (.nearest line)), (text "column", .number (.nearest column))]
  | engineFailure _ reason details =>
    some (Json.Members.enumerated
      (details.foldl (fun ms m => Json.Members.put m.1 m.2 ms) [(text "reason", .string reason)]))
  | fileAccess error => some [(text "operation", .string error.operation.text)]
  | other _ _ _ details _ _ => details

def location : Fault → Option Location
  | structural _ _ location _ => location
  | fileAccess error => some ⟨some error.file, 1, 1⟩
  | other _ _ _ _ location _ => location
  | _ => none

def source : Fault → Option Text
  | structural _ _ _ source => source
  | other _ _ _ _ _ source => source
  | _ => none

def locate (file source : Text) : Fault → Fault
  | structural kind message location _ =>
    let place := location.getD ⟨none, 1, 1⟩
    structural kind message (some { place with file := some file }) (some source)
  | fault => fault

end Fault

def StructureError.toFault (e : StructureError) : Fault :=
  .structural e.kind e.message (some ⟨none, e.line, e.column⟩) none

def ExitReport.details (e : ExitReport) : Json.Members :=
  [(text "exitCode", (e.code.map fun code => Json.number (.ofInt code)).getD .null),
    (text "stderr", .string e.stderr)]

def EngineFailure.toFault (f : EngineFailure) : Fault :=
  .engineFailure f.message f.reason.text ((f.exit.map ExitReport.details).getD [])

-- ---------------------------------------------------------------------------
-- Excerpts
-- ---------------------------------------------------------------------------

namespace Excerpt

open CodeUnit

def rows : Text → List Text
  | [] => [[]]
  | u :: rest =>
    if u = lineFeed then [] :: rows rest
    else if u = carriageReturn then
      match rest with
      | v :: behind => if v = lineFeed then [] :: rows behind else [] :: rows (v :: behind)
      | [] => [[], []]
    else
      match rows rest with
      | row :: more => (u :: row) :: more
      | [] => [[u]]

/-- The content of the row with a number from 1. There is none between two rows. -/
def content? (rows : List Text) (number : Rat) : Option Text :=
  if number.den = 1 then rows[(number.num - 1).toNat]? else none

def row (marked : Bool) (number : Rat) (content : Option Text) : Text :=
  text (if marked then "> " else "  ") ++ Text.padLeft 4 space (Number.nearest number).text ++
    text " | " ++ content.getD (text "undefined") ++ [lineFeed]

def pointer (column : Rat) : Text :=
  text "       | " ++ List.replicate (column - 1).floor.toNat space ++ [ofChar '^', lineFeed]

/-- The rows up to a distance from a line, the column of which is pointed at, both from 1. There is
none for a line that the document does not have. -/
def around (source : Text) (line column distance : Rat) : Option Text :=
  let rows := rows source
  if line < 1 ∨ rows.length + 1 ≤ line then none
  else
    let first := if line - distance < 1 then 1 else line - distance
    let last := if rows.length < line + distance then (rows.length : Rat) else line + distance
    some <| (List.range (last - first + 1).floor.toNat).flatMap fun (n : Nat) =>
      let number := first + n
      row (decide (number = line)) number (content? rows number) ++
        if number = line then pointer column else []

end Excerpt

def Fault.excerpt (f : Fault) (distance : Rat) : Option Text := do
  let source ← f.source
  let place ← f.location
  if source.isEmpty then none else Excerpt.around source place.line place.column distance

end Inlay
