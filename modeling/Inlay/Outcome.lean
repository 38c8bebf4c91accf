import Inlay.Diagnostic
import Inlay.Dispatch
import Inlay.Stage

/-!
# Outcomes

What becomes of one document. It is done when its regions could be told apart, however many of them
failed, and aborted otherwise; both come with the diagnostics that say why. `formatDocument` goes
through the stages under a tracker and checks the partition on the way; neither can refuse, but
their errors are part of its type. What can keep a document from an outcome is a failure of the
engine that cannot be reported.
-/

namespace Inlay

structure RegionReport where
  region : Region
  result : RegionResult
  changed : Bool

structure DoneDocument where
  file : Text
  output : Text
  changed : Bool
  regions : List RegionReport
  diagnostics : List Diagnostic
  calls : List EngineCall

structure AbortedDocument where
  file : Text
  fault : Fault
  diagnostics : List Diagnostic

inductive Outcome
  | done (document : DoneDocument)
  | aborted (document : AbortedDocument)

namespace Outcome

def diagnostics : Outcome → List Diagnostic
  | done d => d.diagnostics
  | aborted a => a.diagnostics

def isAborted : Outcome → Bool
  | done _ => false
  | aborted _ => true

def isChanged : Outcome → Bool
  | done d => d.changed
  | aborted _ => false

def calls : Outcome → List EngineCall
  | done d => d.calls
  | aborted _ => []

end Outcome

inductive PipelineError
  | tiling (error : TilingError)
  | transition (error : TransitionError)
  | report (error : ReportError)
  deriving DecidableEq, Repr

def PipelineError.message : PipelineError → Text
  | tiling e => e.message
  | transition e => e.message
  | report e => e.message

structure PipelineOptions where
  dispatch : DispatchOptions
  indentation : Indentation

namespace RegionReport

/-- The place of a region that failed as a whole: where its code starts. -/
def failureColumn (r : Region) : Nat :=
  if r.isStatement then r.codeColumn + 1 else r.margin.length + 1

def diagnostics (file : Text) (report : RegionReport) : List Diagnostic :=
  match report.result with
  | .formatted _ => []
  | .failed (.syntaxError message line column) => [⟨file, line, column, .syntaxError, message⟩]
  | .failed (.engineError message) =>
    [⟨file, report.region.startLine + 1, failureColumn report.region, .engineError, message⟩]

end RegionReport

namespace Outcome

def ofStructureError (file source : Text) (e : StructureError) : Outcome :=
  .aborted
    { file
      fault := e.toFault.locate file source
      diagnostics := [⟨file, e.line, e.column, e.kind.diagnostic, e.message⟩] }

def ofFileError (e : FileError) : Outcome :=
  .aborted
    { file := e.file
      fault := .fileAccess e
      diagnostics := [⟨e.file, 1, 1, .fileError, e.message⟩] }

def ofResults (file : Text) (p : Partition) (results : List RegionResult)
    (calls : List EngineCall) : Outcome :=
  let source := p.document.text
  let output := p.splice (results.map some)
  let reports := (p.regions.zip results).map fun (region, result) =>
    { region, result
      changed := region.render source (some result) !=
        Text.slice source region.span.start region.span.stop : RegionReport }
  .done
    { file, output
      changed := output != source
      regions := reports
      diagnostics := reports.flatMap (RegionReport.diagnostics file)
      calls }

end Outcome

def formatDocument (engine : Behaviour) (limit : PoolLimit) (options : PipelineOptions)
    (file source : Text) : Except PipelineError Outcome := do
  let advance (t : Tracker) (stage : Stage) := (t.advance stage).mapError PipelineError.transition
  let tracker ← advance (Tracker.start file) .extracting
  match Partition.build options.indentation (Document.ofText source) with
  | .error e =>
    let _ ← advance tracker .aborted
    return .ofStructureError file source e
  | .ok partition =>
    partition.check.mapError PipelineError.tiling
    let tracker ← advance tracker .extracted
    let tracker ← advance tracker .dispatching
    let dispatched := dispatch engine limit options.dispatch partition.regions
    let results ← dispatched.results.mapError PipelineError.report
    let tracker ← advance tracker .dispatched
    let tracker ← advance tracker .splicing
    let outcome := Outcome.ofResults file partition results dispatched.calls
    let _ ← advance tracker .done
    return outcome

end Inlay
