import Inlay.Engine.Basic
import Inlay.Pool
import Inlay.Position
import Inlay.Quantity
import Inlay.Splice

/-!
# Dispatch

Every region of a document is sent to the engine once, as a task of a pool. What the engine answers
is cleaned and either becomes the region's formatted code or the reason why it has none. A region's
result depends on that region and its answer alone, in whatever order the answers come. There are
failures, though, of which nothing can be reported; one of them leaves all regions without results.
-/

namespace Inlay

structure DispatchOptions where
  lineLength : Number
  statementLength : Number
  /-- The milliseconds that a call may take. -/
  timeout : Number
  deriving DecidableEq

-- ---------------------------------------------------------------------------
-- Cleaning
-- ---------------------------------------------------------------------------

inductive OutputProblem
  | empty
  | manyLines
  deriving DecidableEq, Repr

def OutputProblem.message : OutputProblem → Text
  | empty => text "engine returned empty output for non-empty code"
  | manyLines => text "formatted \"$\" statement spans more than one line"

def Text.unifyBreaks : Text → Text
  | [] => []
  | u :: rest =>
    if u = CodeUnit.carriageReturn then
      match rest with
      | v :: behind =>
        if v = CodeUnit.lineFeed then CodeUnit.lineFeed :: unifyBreaks behind
        else CodeUnit.lineFeed :: unifyBreaks (v :: behind)
      | [] => [CodeUnit.lineFeed]
    else u :: unifyBreaks rest

/-- Output without blanks at its end and with one line feed there. Empty output is right for blank
code only, and the output for a statement must be one line. -/
def cleanOutput (isStatement : Bool) (code output : Text) : Except OutputProblem Text :=
  let trimmed := Text.trimEnd (Text.unifyBreaks output)
  if trimmed.isEmpty then if Text.isBlank code then .ok [] else .error .empty
  else if isStatement && trimmed.contains CodeUnit.lineFeed then .error .manyLines
  else .ok (trimmed ++ [CodeUnit.lineFeed])

namespace Region

def clean (r : Region) (output : Text) : Except OutputProblem Text :=
  cleanOutput r.isStatement r.code output

end Region

-- ---------------------------------------------------------------------------
-- One region
-- ---------------------------------------------------------------------------

/-- Nothing can be reported of a failure. -/
inductive ReportError
  /-- The engine failed with something that has no text. -/
  | textless (complaint : Text)
  /-- The source does not parse between two lines, of a statement or of a block. -/
  | betweenLines (isStatement : Bool)
  deriving DecidableEq, Repr

def ReportError.message : ReportError → Text
  | textless complaint => complaint
  | betweenLines isStatement =>
    text "Cannot read properties of undefined (reading '" ++
      text (if isStatement then "line" else "normalizedIndent") ++ text "')"

namespace Region

def call (options : DispatchOptions) (r : Region) : EngineCall :=
  ⟨r.code, if r.isStatement then options.statementLength else options.lineLength⟩

def failureOf (r : Region) : EngineError → Except ReportError RegionFailure
  | .syntaxError message line column =>
    match r.toDocument? line column with
    | some place => .ok (.syntaxError message place.line place.column)
    | none => .error (.betweenLines r.isStatement)
  | .failure failure => .ok (.engineError failure.message)
  | .other message => .ok (.engineError message)
  | .textless complaint => .error (.textless complaint)

def resultOf (engine : Text) (timeout : Number) (r : Region) :
    Answer → Except ReportError RegionResult
  | .output output =>
    match r.clean output with
    | .ok code => .ok (.formatted code)
    | .error problem => .ok (.failed (.engineError problem.message))
  | .error error => (r.failureOf error).map .failed
  | .silence (some cancelled) => (r.failureOf cancelled).map .failed
  | .silence none =>
    .ok (.failed (.engineError (engine ++ text " timed out after " ++ Duration.format timeout)))

/-- What becomes of the region with a number. Regions are called for in order, so the number is that
of its call, too. -/
def format (engine : Behaviour) (options : DispatchOptions) (number : Nat) (r : Region) :
    Except ReportError RegionResult :=
  r.resultOf engine.name options.timeout (engine.answer number (r.call options))

end Region

-- ---------------------------------------------------------------------------
-- All regions
-- ---------------------------------------------------------------------------

structure Dispatched where
  results : Except ReportError (List RegionResult)
  calls : List EngineCall

/-- The results of numbered tasks in their order. Of several failures the first to come counts. -/
def gather (count : Nat) (settled : List (Nat × Except ε α)) : Except ε (List α) := do
  let results ← settled.mapM fun (id, result) => result.map (id, ·)
  return (List.range count).filterMap fun id => results.lookup id

def Dispatched.ofTasks (options : DispatchOptions) (regions : List Region) (started : List Nat)
    (settled : List (Nat × Except ReportError RegionResult)) : Dispatched where
  results := gather regions.length settled
  calls := started.filterMap fun id => regions[id]?.map (Region.call options)

def dispatchIn (order : List Nat) (engine : Behaviour) (limit : PoolLimit)
    (options : DispatchOptions) (regions : List Region) : Dispatched :=
  let submitted : Pool Nat (Except ReportError RegionResult) :=
    (List.range regions.length).foldl Pool.submit (Pool.empty limit)
  let settled := order.foldl (fun pool id =>
    match regions[id]? with
    | some region => pool.openGate id (region.format engine options id)
    | none => pool) submitted
  .ofTasks options regions settled.started settled.settled

def dispatch (engine : Behaviour) (limit : PoolLimit) (options : DispatchOptions)
    (regions : List Region) : Dispatched :=
  dispatchIn (List.range regions.length) engine limit options regions

end Inlay
