import Inlay.Arguments
import Inlay.Files.Disk
import Inlay.Outcome
import Inlay.Workers

/-!
# Batches

Formatting many documents. As many workers go through them as engine calls may run; each reads a
document, formats it, writes it if it is to be written, and takes the next. Documents do not affect
each other: one that cannot be read or written, or has no readable structure, is reported as aborted
and the others go on. Only where nothing can be reported of a document, nothing is of the others.
-/

namespace Inlay

structure FormatOptions where
  lineLength : Option Number
  statementLength : Option Number
  timeout : Option Duration
  concurrency : Option Number
  policy : Option IndentPolicy
  tabWidth : Option Nat

inductive FormatError
  | limit (error : PoolLimitError)
  | duration (error : DurationError)
  | pipeline (error : PipelineError)

def FormatError.message : FormatError → Text
  | limit e => e.message
  | duration e => e.message
  | pipeline e => e.message

namespace FormatOptions

def empty : FormatOptions := ⟨none, none, none, none, none, none⟩

/-- The limit and the options of a run. A pool that is shared brings its own limit. -/
def resolve (o : FormatOptions) (shared : Option PoolLimit) :
    Except FormatError (PoolLimit × PipelineOptions) := do
  let base := ResolvedConfig.default
  let limit ←
    match shared with
    | some limit => .ok limit
    | none =>
      (PoolLimit.ofValue (.number (o.concurrency.getD (.ofNat base.concurrency)))).mapError .limit
  let timeout ←
    match o.timeout with
    | some d => d.toMillis.mapError .duration
    | none => .ok base.timeout
  let dispatch : DispatchOptions :=
    { lineLength := o.lineLength.getD (.ofNat base.lineLength)
      statementLength := o.statementLength.getD (.ofNat base.statementLength)
      timeout }
  return (limit, ⟨dispatch, o.policy.getD base.indentation.policy,
    o.tabWidth.getD base.indentation.tabWidth⟩)

end FormatOptions

def formatTextBy (engine : Behaviour) (options : FormatOptions) (shared : Option PoolLimit)
    (file source : Text) : Except FormatError Outcome := do
  let (limit, pipeline) ← options.resolve shared
  (formatDocument engine limit pipeline file source).mapError .pipeline

def formatText (engine : Engine) (options : FormatOptions) (shared : Option PoolLimit)
    (file source : Text) : Except FormatError Outcome :=
  formatTextBy engine.behaviour options shared file source

def formatAgain (engine : Engine) (options : FormatOptions) (file : Text) :
    Nat → Text → Except FormatError (List Outcome)
  | 0, _ => .ok []
  | times + 1, source => do
    let outcome ← formatText engine options none file source
    match outcome with
    | .done d => return outcome :: (← formatAgain engine options file times d.output)
    | .aborted _ => return [outcome]

-- ---------------------------------------------------------------------------
-- Files
-- ---------------------------------------------------------------------------

structure FileReport where
  file : Text
  outcome : Outcome
  written : Bool
  /-- What the engine was asked, also for a document that was lost afterwards. -/
  calls : List EngineCall

def finishFile (format : Text → Text → Except PipelineError Outcome) (mode : OutputMode)
    (disk : Disk) (file : Text) (content : Except Text Text) :
    Except PipelineError FileReport × Disk :=
  match content with
  | .error reason => (.ok ⟨file, .ofFileError ⟨file, .read, reason⟩, false, []⟩, disk)
  | .ok source =>
    match format file source with
    | .error e => (.error e, disk)
    | .ok outcome =>
      match mode, outcome with
      | .write, .done d =>
        if d.changed then
          match disk.write file d.output with
          | .ok written => (.ok ⟨file, outcome, true, d.calls⟩, written)
          | .error reason =>
            (.ok ⟨file, .ofFileError ⟨file, .write, reason⟩, false, d.calls⟩, disk)
        else (.ok ⟨file, outcome, false, d.calls⟩, disk)
      | _, _ => (.ok ⟨file, outcome, false, outcome.calls⟩, disk)

/-- Files on their way: the workers that go through them, what was read of them, by their numbers,
and the disk as it is now. -/
structure FileRun where
  files : List Text
  workers : Workers PipelineError FileReport
  contents : List (Nat × Except Text Text)
  disk : Disk

namespace FileRun

def start (disk : Disk) (files : List Text) (workers : Nat) : FileRun :=
  ⟨files, .start files.length workers, [], disk⟩

def file (run : FileRun) (item : Nat) : Text := (run.files[item]?).getD []

def content? (run : FileRun) (item : Nat) : Option (Except Text Text) := run.contents.lookup item

section

variable (format : Text → Text → Except PipelineError Outcome) (mode : OutputMode)

def advance (run : FileRun) (item : Nat) : FileRun :=
  if run.workers.busy.contains item then
    match run.content? item with
    | none => { run with contents := (item, run.disk.read (run.file item)) :: run.contents }
    | some content =>
      let (result, disk) := finishFile format mode run.disk (run.file item) content
      { run with workers := run.workers.complete item result, disk }
  else run

/-- The file that goes on where nothing else is asked for. All are read before one of them comes to
its end, in the order in which they were taken. -/
def next? (run : FileRun) : Option Nat :=
  run.workers.busy.find? (fun item => (run.content? item).isNone)
    |>.or run.workers.busy.head?

variable {format mode}

def unread (run : FileRun) : Nat :=
  (run.workers.busy.filter fun item => (run.content? item).isNone).length

theorem mem_busy_of_next? {run : FileRun} {item : Nat} (h : run.next? = some item) :
    item ∈ run.workers.busy := by
  rcases Option.or_eq_some_iff.mp h with h | ⟨-, h⟩
  · exact List.mem_of_find?_eq_some h
  · exact List.mem_of_head? h

theorem content?_cons {run : FileRun} {item other : Nat} {content : Except Text Text} :
    content? { run with contents := (item, content) :: run.contents } other =
      if other = item then some content else run.content? other := by
  by_cases heq : other = item
  · simp [content?, heq]
  · simp [content?, List.lookup_cons, heq, beq_false_of_ne heq]

theorem unread_cons_lt {run : FileRun} {item : Nat} {content : Except Text Text}
    (hm : item ∈ run.workers.busy) (h : run.content? item = none) :
    unread { run with contents := (item, content) :: run.contents } < run.unread := by
  have hfilter : (run.workers.busy.filter fun other =>
        (content? { run with contents := (item, content) :: run.contents } other).isNone) =
      (run.workers.busy.filter fun other => (run.content? other).isNone).filter (· != item) := by
    rw [List.filter_filter]
    refine List.filter_congr fun other _ => ?_
    rw [content?_cons]
    split <;> simp_all
  unfold unread
  rw [hfilter]
  exact List.length_filter_lt_length_iff_exists.mpr ⟨item, by simp [hm, h], by simp⟩

variable (format mode)

def drain (run : FileRun) : FileRun :=
  match _h : run.next? with
  | none => run
  | some item => (run.advance format mode item).drain
termination_by (run.workers.busy.length + 2 * (run.workers.items - run.workers.next), run.unread)
decreasing_by
  have hm := mem_busy_of_next? _h
  rw [advance, if_pos (List.contains_iff_mem.mpr hm)]
  split
  · next hnone => exact .right _ (unread_cons_lt hm hnone)
  · exact .left _ _ (Workers.rest_complete_lt _ hm)

end

end FileRun

/-- Formats files, and writes those that change if the mode says so. Of the files that are being
worked on, those whose turn it is by their numbers go on, and then all come to their end. Over each
file the engine may do something else. All files share one pool; each is formatted here as in a pool
of its own, from which its outcome does not differ (`Shares.formatDocument_eq_ok_iff`). -/
def formatFilesBy (turns : List Nat) (engine : Text → Behaviour) (options : FormatOptions)
    (shared : Option PoolLimit) (mode : OutputMode) (disk : Disk) (files : List Text) :
    Except FormatError (List FileReport) × Disk :=
  match options.resolve shared with
  | .error e => (.error e, disk)
  | .ok (limit, pipeline) =>
    let format (file : Text) := formatDocument (engine file) limit pipeline file
    let workers := workerCount (some (.ofNat limit.value)) files.length
    let run := turns.foldl (FileRun.advance format mode) (.start disk files workers)
    let ended := run.drain format mode
    (ended.workers.outcome.mapError .pipeline, ended.disk)

def formatFilesIn (turns : List Nat) (engine : Engine) (options : FormatOptions)
    (shared : Option PoolLimit) (mode : OutputMode) (disk : Disk) (files : List Text) :
    Except FormatError (List FileReport) × Disk :=
  formatFilesBy turns (fun _ => engine.behaviour) options shared mode disk files

def formatFiles (engine : Engine) (options : FormatOptions) (shared : Option PoolLimit)
    (mode : OutputMode) (disk : Disk) (files : List Text) :
    Except FormatError (List FileReport) × Disk :=
  formatFilesIn [] engine options shared mode disk files

-- ---------------------------------------------------------------------------
-- Reports
-- ---------------------------------------------------------------------------

structure RunReport where
  files : List FileReport
  diagnostics : List Diagnostic
  changed : List Text
  aborted : List Text

def RunReport.ofFiles (files : List FileReport) : RunReport where
  files := files
  diagnostics := files.flatMap (·.outcome.diagnostics)
  changed := (files.filter (·.outcome.isChanged)).map (·.file)
  aborted := (files.filter (·.outcome.isAborted)).map (·.file)

structure ExitPolicy where
  strict : Bool
  check : Bool

def RunReport.fails (r : RunReport) (policy : ExitPolicy) : Bool :=
  !r.aborted.isEmpty || (policy.check && !r.changed.isEmpty) ||
    (policy.strict && !r.diagnostics.isEmpty)

end Inlay
