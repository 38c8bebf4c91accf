import Inlay.Batch
import Inlay.ConfigFiles
import Inlay.ErrorReport
import Inlay.Files.Collect
import Inlay.Help
import Inlay.Settings

/-!
# The command line

One run of the program as a function of its arguments and of what it finds around it: the files, a
way to search directories, its standard input, and an engine for every choice of one. It yields an
exit status, what is written to either stream, and the files afterwards. Formatted documents go to
standard output and everything else to the error stream.
-/

namespace Inlay

inductive Stream
  | out
  | err
  deriving DecidableEq, Repr

structure Chunk where
  stream : Stream
  content : Text
  deriving DecidableEq, Repr

structure Environment where
  directory : Text
  home : Text
  disk : Disk
  /-- The files below a directory that match a glob and none of those to ignore. -/
  search : (glob directory : Text) → (ignored : List Text) → List Text
  stdin : Text
  colours : Bool
  concurrency : Option Text

structure Surroundings extends Environment where
  engineFor : EngineChoice → Engine

structure RunResult where
  exit : Nat
  chunks : List Chunk
  /-- What is logged of configuration files that are none. -/
  warnings : List Text
  disk : Disk
  engine : Option EngineChoice
  calls : List EngineCall

def RunSettings.formatOptions (s : RunSettings) : FormatOptions where
  lineLength := some (.ofNat s.lineLength)
  statementLength := some (.ofNat s.statementLength)
  timeout := some (.millis s.timeout)
  concurrency := some (.ofNat s.concurrency)
  policy := some s.indentation.policy
  tabWidth := some s.indentation.tabWidth

structure Work where
  report : RunReport
  chunks : List Chunk

def Environment.directories (s : Environment) : Collect.Directories :=
  ⟨s.disk.isDirectory, s.search⟩

namespace CommandLine

def stdinName : Text := text "<stdin>"

def unexpected (message : Text) : RunError := .unexpected message none none

def output (content : Text) : Chunk := ⟨.out, content⟩

def status (colours : Bool) (paint : Paint) (message : Text) : Chunk :=
  ⟨.err, paint.when colours message ++ [CodeUnit.lineFeed]⟩

def display (directory file : Text) : Text :=
  if file = stdinName then file
  else
    let way := Path.relative directory file
    if way.isEmpty || Path.parent.isPrefixOf way then file else way

def diagnosticChunks (s : Environment) (ds : List Diagnostic) : List Chunk :=
  if ds.isEmpty then []
  else
    let shown := ds.map fun d => { d with file := display s.directory d.file }
    [⟨.err, Diagnostic.renderAll s.colours shown ++ [CodeUnit.lineFeed]⟩]

-- ---------------------------------------------------------------------------
-- Standard input
-- ---------------------------------------------------------------------------

/-- A document that cannot be formatted is passed on as it is, so that nothing is lost. -/
def stdinChunks (s : Environment) (mode : OutputMode) (outcome : Outcome) : List Chunk :=
  let shown :=
    if mode = .check then
      if outcome.isChanged then [status s.colours .yellow (text "would reformat " ++ stdinName)]
      else []
    else
      match outcome with
      | .done d => [output d.output]
      | .aborted _ => [output s.stdin]
  shown ++ diagnosticChunks s outcome.diagnostics

def formatStdin (s : Environment) (settings : RunSettings) (engine : Behaviour) :
    Except RunError Work := do
  let outcome ← (formatTextBy engine settings.formatOptions none stdinName s.stdin).mapError
    fun e => unexpected e.message
  let report := RunReport.ofFiles [⟨stdinName, outcome, false, outcome.calls⟩]
  return ⟨report, stdinChunks s settings.mode outcome⟩

-- ---------------------------------------------------------------------------
-- Files
-- ---------------------------------------------------------------------------

def excerptChunks (s : Environment) (document : AbortedDocument) : List Chunk :=
  match document.fault.excerpt 2 with
  | some excerpt => [status s.colours .gray (Text.trimEnd excerpt)]
  | none => []

def fileChunks (s : Environment) (mode : OutputMode) (verbose : Bool) (r : FileReport) :
    List Chunk :=
  let name := display s.directory r.file
  match r.outcome with
  | .aborted document =>
    status s.colours .red (text "could not format " ++ name) ::
      if verbose then excerptChunks s document else []
  | .done document =>
    if mode = .stdout then [output document.output]
    else if r.written then [status s.colours .green (text "reformatted " ++ name)]
    else if mode = .check && document.changed then
      [status s.colours .yellow (text "would reformat " ++ name)]
    else if verbose then [status s.colours .gray (text "unchanged " ++ name)]
    else []

def summary (mode : OutputMode) (r : RunReport) : Text :=
  let changed := r.changed.length
  let aborted := r.aborted.length
  let done := if mode = .check then text "would be reformatted" else text "reformatted"
  let parts :=
    [Text.ofNat changed ++ text " file(s) " ++ done,
      Text.ofNat (r.files.length - changed - aborted) ++ text " unchanged"] ++
    if aborted = 0 then [] else [Text.ofNat aborted ++ text " failed"]
  Text.joinWith (text ", ") parts

def summaryChunks (s : Environment) (mode : OutputMode) (r : RunReport) : List Chunk :=
  if mode = .stdout || r.files.isEmpty then [] else [status s.colours .bold (summary mode r)]

def filesChunks (s : Environment) (mode : OutputMode) (verbose : Bool) (r : RunReport) :
    List Chunk :=
  (if r.files.isEmpty then [status s.colours .yellow (text "No .rpy files found")] else []) ++
    r.files.flatMap (fileChunks s mode verbose) ++ diagnosticChunks s r.diagnostics ++
    summaryChunks s mode r

def missing (s : Environment) (inputs : List Text) : List Text :=
  inputs.filter fun input => !s.disk.contains (Path.resolve s.directory input)

def filesWork (s : Environment) (settings : RunSettings) (verbose : Bool)
    (reports : List FileReport) : Work :=
  let report := RunReport.ofFiles reports
  ⟨report, filesChunks s settings.mode verbose report⟩

/-- The work, and the files after it: they may have been written also if the work failed. -/
def formatInputs (turns : List Nat) (s : Environment) (settings : RunSettings)
    (engine : Text → Behaviour) (verbose : Bool) (inputs : List Text) :
    Except RunError Work × Disk :=
  let missing := missing s inputs
  if !missing.isEmpty then
    (.error <| unexpected <|
      text "No such file or directory: " ++ Text.joinWith (text ", ") missing, s.disk)
  else
    let files := Collect.collectFrom s.directories settings.exclude s.directory inputs
    let (reports, disk) :=
      formatFilesBy turns engine settings.formatOptions none settings.mode s.disk files
    ((reports.mapError fun e => unexpected e.message).map (filesWork s settings verbose), disk)

-- ---------------------------------------------------------------------------
-- Runs
-- ---------------------------------------------------------------------------

def configFile (s : Environment) (directory name : Text) : ConfigFile :=
  let path := Path.resolve directory name
  ⟨path, s.disk.look? path⟩

def configFiles (s : Environment) : ConfigFiles where
  user := configFile s s.home ConfigFiles.userName
  project := configFile s s.directory ConfigFiles.projectName

def settings (s : Environment) (o : Options) : Except RunError RunSettings :=
  match (configFiles s).merged.resolve s.concurrency with
  | .ok config => .ok (.ofOptions o config)
  | .error e => .error (unexpected e.message)

def format (turns : List Nat) (s : Environment) (o : Options) (settings : RunSettings)
    (engine : Text → Behaviour) : Except RunError Work × Disk :=
  if o.readsStdin then (formatStdin s settings (engine stdinName), s.disk)
  else formatInputs turns s settings engine o.verbose o.inputs

def failed (s : Environment) (verbose debug : Bool) (engine : Option EngineChoice)
    (warnings : List Text) (disk : Disk) (e : RunError) : RunResult where
  exit := e.exit
  chunks := (e.report ⟨s.colours, verbose, debug⟩).map (⟨.err, ·⟩)
  warnings := warnings
  disk := disk
  engine := engine
  calls := []

def succeeded (settings : RunSettings) (warnings : List Text) (disk : Disk) (w : Work) :
    RunResult where
  exit := if w.report.fails ⟨settings.strict, settings.mode = .check⟩ then 1 else 0
  chunks := w.chunks
  warnings := warnings
  disk := disk
  engine := some settings.engine
  calls := w.report.files.flatMap (·.calls)

def printed (s : Environment) (content : Text) : RunResult :=
  ⟨0, [output content], [], s.disk, none, []⟩

section

variable (turns : List Nat) (engineFor : EngineChoice → Text → Behaviour) (s : Environment)

def runOptions (o : Options) : RunResult :=
  if o.help then printed s Help.usage
  else if o.version then printed s Help.version
  else
    let warnings := (configFiles s).warnings
    match settings s o with
    | .error e => failed s o.verbose o.debug none warnings s.disk e
    | .ok settings =>
      match format turns s o settings (engineFor settings.engine) with
      | (.error e, disk) => failed s o.verbose o.debug (some settings.engine) warnings disk e
      | (.ok work, disk) => succeeded settings warnings disk work

/-- One run of the program with engines that may do to each document what they like. Files that are
being worked on go on in turns, as in `formatFilesBy`. -/
def runBy (arguments : List Text) : RunResult :=
  match Options.parse arguments with
  | .error e => failed s false false none [] s.disk (.usage e.message)
  | .ok o => runOptions turns engineFor s o

end

def run (s : Surroundings) (arguments : List Text) : RunResult :=
  runBy [] (fun choice _ => (s.engineFor choice).behaviour) s.toEnvironment arguments

end CommandLine

end Inlay
