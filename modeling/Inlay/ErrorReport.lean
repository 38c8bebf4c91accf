import Inlay.Fault
import Inlay.Paint
import Inlay.Text.Blank

/-!
# Error reports

What a run says about the error that ended it, and the exit status that the error calls for.
-/

namespace Inlay

inductive RunError
  | usage (message : Text)
  | fault (fault : Fault)
  | unexpected (message : Text) (cause trace : Option Text)
  | unknown (shown : Text)

structure ReportOptions where
  colours : Bool
  verbose : Bool
  debug : Bool
  deriving DecidableEq, Repr

namespace RunError

/-- A fault that costs no more than a region is no reason to fail. -/
def exit : RunError → Nat
  | usage _ => 2
  | fault f => match f.severity with
    | .fatal => 1
    | .recoverable => 0
  | unexpected _ _ _ => 1
  | unknown _ => 1

def excerptDistance (o : ReportOptions) : Int := if o.verbose then 3 else 2

def headline (colours : Bool) (f : Fault) : Text :=
  let place := match f.location with
    | some location => location.text ++ text ": "
    | none => []
  let label := match f.severity with
    | .fatal => Paint.red.when colours (text "error")
    | .recoverable => Paint.yellow.when colours (text "warning")
  Paint.bold.when colours place ++ label ++ text ": " ++ f.message ++ text " " ++
    Paint.gray.when colours (text "[" ++ f.code ++ text "]")

def faultParts (o : ReportOptions) (f : Fault) : List Text :=
  let excerpt := (f.excerpt (excerptDistance o)).map fun excerpt =>
    Paint.gray.when o.colours (Text.trimEnd excerpt)
  let details := (if o.debug then f.details else none).map fun details =>
    Paint.gray.when o.colours (Json.pretty (.object details))
  headline o.colours f :: excerpt.toList ++ details.toList

/-- A trace is shown on request only, and an empty one never. -/
def unexpectedParts (o : ReportOptions) (message : Text) (cause trace : Option Text) : List Text :=
  let cause := cause.map fun cause => Paint.red.when o.colours (text "  Cause: " ++ cause)
  let trace := (trace.filter fun trace => !trace.isEmpty && (o.verbose || o.debug)).map
    (Paint.gray.when o.colours)
  (text "  ⎿  " ++ Paint.red.when o.colours (text "Error: ") ++ message) ::
    cause.toList ++ trace.toList

def parts (o : ReportOptions) : RunError → List Text
  | usage message =>
    [Paint.red.when o.colours (text "Error: ") ++ message,
      text "Run " ++ Paint.bold.when o.colours (text "rpyfmt --help") ++ text " for usage."]
  | fault f => faultParts o f
  | unexpected message cause trace => unexpectedParts o message cause trace
  | unknown shown => [Paint.red.when o.colours (text "Unknown Error: " ++ shown)]

def report (o : ReportOptions) (e : RunError) : List Text :=
  (e.parts o).map (· ++ [CodeUnit.lineFeed])

end RunError

end Inlay
