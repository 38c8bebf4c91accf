import Inlay.CommandLine
import Inlay.Proofs.Acceptance
import Inlay.Proofs.Batches
import Inlay.Proofs.Collecting
import Inlay.Proofs.Margins
import Inlay.Proofs.Outcomes

/-!
# What runs come to

A run that gets as far as its documents has settings that can be run, and files with different
names. What it prints, what it leaves on the disk and how it exits come down to what becomes of each
document on its own (`Completes`), unless nothing can be reported of one of them.
-/

namespace Inlay

-- ---------------------------------------------------------------------------
-- Paths
-- ---------------------------------------------------------------------------

namespace Path

/-- A segment that leads to something below. -/
structure IsName (segment : Text) : Prop where
  ne_nil : segment ≠ []
  ne_dot : segment ≠ text "."
  ne_parent : segment ≠ parent
  slash_not_mem : slash ∉ segment

variable {directory path segment : Text} {found : List Text}

theorem enter_of_isName (h : IsName segment) (found : List Text) :
    enter found segment = found ++ [segment] := by
  simp [enter, h.ne_nil, h.ne_dot, h.ne_parent]

theorem foldl_enter (h : ∀ name ∈ found, IsName name) (before : List Text) :
    found.foldl enter before = before ++ found := by
  induction found generalizing before with
  | nil => simp
  | cons name found ih =>
    obtain ⟨hname, hfound⟩ := List.forall_mem_cons.mp h
    simp [enter_of_isName hname, ih hfound]

theorem isName_of_mem_enter (hfound : ∀ name ∈ found, IsName name) (hsegment : slash ∉ segment) :
    ∀ name ∈ enter found segment, IsName name := by
  unfold enter
  split_ifs with hnone hparent
  · exact hfound
  · exact fun name hname => hfound name (List.mem_of_mem_dropLast hname)
  · intro name hname
    rcases List.mem_append.mp hname with hname | hname
    · exact hfound name hname
    · obtain rfl := List.mem_singleton.mp hname
      simp only [Bool.or_eq_true, List.isEmpty_iff, decide_eq_true_eq, not_or] at hnone
      exact ⟨hnone.1, hnone.2, hparent, hsegment⟩

theorem isName_of_mem_names {name : Text} (h : name ∈ names path) : IsName name := by
  have hall : ∀ (segments found : List Text), (∀ segment ∈ segments, slash ∉ segment) →
      (∀ name ∈ found, IsName name) → ∀ name ∈ segments.foldl enter found, IsName name := by
    intro segments
    induction segments with
    | nil => exact fun _ _ hfound => hfound
    | cons segment segments ih =>
      intro found hsegments hfound
      obtain ⟨hsegment, hsegments⟩ := List.forall_mem_cons.mp hsegments
      exact ih _ hsegments (isName_of_mem_enter hfound hsegment)
  exact hall _ [] (fun _ => Text.not_mem_of_mem_splitOn) (by simp) name h

theorem ofNames_eq (hne : found ≠ []) : ofNames found = Text.joinWith [slash] ([] :: found) := by
  have hflat : found.flatMap (slash :: ·) = slash :: Text.joinWith [slash] found := by
    induction found with
    | nil => contradiction
    | cons name found ih =>
      cases found with
      | nil => simp [Text.joinWith]
      | cons next found => simp_all [Text.joinWith]
  rw [Text.joinWith_cons hne, ofNames, if_neg (by simpa using hne), hflat]
  rfl

theorem names_ofNames (h : ∀ name ∈ found, IsName name) : names (ofNames found) = found := by
  cases found with
  | nil => decide
  | cons name found =>
    have hpieces : ∀ piece ∈ [] :: name :: found, slash ∉ piece :=
      List.forall_mem_cons.mpr ⟨List.not_mem_nil, fun piece hpiece => (h piece hpiece).slash_not_mem⟩
    rw [ofNames_eq (List.cons_ne_nil _ _), names,
      Text.splitOn_joinWith (List.cons_ne_nil _ _) hpieces, List.foldl_cons]
    simpa [enter] using foldl_enter h []

theorem resolve_ofNames (h : ∀ name ∈ found, IsName name) :
    resolve directory (ofNames found) = ofNames found := by
  have hroot : root.isPrefixOf (ofNames found) = true := by
    cases found <;> simp [ofNames, root]
  rw [resolve, if_pos hroot, names_ofNames h]

theorem resolve_resolve (other directory path : Text) :
    resolve other (resolve directory path) = resolve directory path := by
  rw [resolve.eq_1 directory]
  split <;> exact resolve_ofNames fun _ => isName_of_mem_names

end Path

namespace Collect

variable {ds : Directories} {exclude inputs : List Text} {directory file : Text}

/-- A search names what it finds by its absolute path. -/
def Directories.Absolute (ds : Directories) : Prop :=
  ∀ glob directory ignored, ∀ file ∈ ds.search glob directory ignored,
    Path.resolve Path.root file = file

theorem resolve_of_mem_collectFrom (hds : ds.Absolute)
    (h : file ∈ collectFrom ds exclude directory inputs) : Path.resolve Path.root file = file := by
  obtain ⟨input, -, h⟩ := mem_collectFrom_iff.mp h
  rw [mem_expand_iff] at h
  split at h
  · exact hds _ _ _ file h
  · rw [h, Path.resolve_resolve]

theorem nodup_resolve_collectFrom (hds : ds.Absolute) (exclude : List Text) (directory : Text)
    (inputs : List Text) :
    ((collectFrom ds exclude directory inputs).map (Path.resolve Path.root)).Nodup := by
  have hsame : (collectFrom ds exclude directory inputs).map (Path.resolve Path.root) =
      (collectFrom ds exclude directory inputs).map id :=
    List.map_congr_left fun file hfile => resolve_of_mem_collectFrom hds hfile
  rw [hsame, List.map_id]
  exact nodup_collectFrom ..

end Collect

-- ---------------------------------------------------------------------------
-- One document
-- ---------------------------------------------------------------------------

/-- A document makes its run fail: it is aborted, it differs from what was read where that is
checked, or one of its regions failed and the run is strict. -/
inductive Outcome.Fails (check strict : Bool) (content : Except Text Text) : Outcome → Prop
  | aborted {a : AbortedDocument} : Fails check strict content (.aborted a)
  | differs {source : Text} {d : DoneDocument} : check = true → content = .ok source →
    d.output ≠ source → Fails check strict content (.done d)
  | region {d : DoneDocument} {report : RegionReport} : strict = true → report ∈ d.regions →
    report.result.isFailed = true → Fails check strict content (.done d)

/-- The text that goes on to whoever reads it: a document that could not be formatted is kept. -/
def Outcome.passedOn (source : Text) : Outcome → Text
  | .done d => d.output
  | .aborted _ => source

theorem Ends.of_done {ε : Type} {format : Text → Text → Except ε Outcome} {mode : OutputMode}
    {unwritable : List Text} {file : Text} {content : Except Text Text} {report : FileReport}
    {d : DoneDocument} (h : Ends format mode unwritable file content (.ok report))
    (hdone : report.outcome = .done d) :
    ∃ source, content = .ok source ∧ format file source = .ok (.done d) := by
  cases h with
  | unread => cases hdone
  | kept h _ => exact ⟨_, rfl, by rw [h, ← hdone]⟩
  | written h => exact ⟨_, rfl, by rw [h, ← hdone]⟩
  | unwritten => cases hdone

theorem RunReport.fails_ofFiles {reports : List FileReport} {policy : ExitPolicy} :
    (ofFiles reports).fails policy = true ↔ ∃ report ∈ reports, report.outcome.isAborted = true ∨
      (policy.check = true ∧ report.outcome.isChanged = true) ∨
      (policy.strict = true ∧ report.outcome.diagnostics ≠ []) := by
  simp only [fails, ofFiles, Bool.or_eq_true, Bool.and_eq_true, Bool.not_eq_true',
    ← Bool.not_eq_true, List.isEmpty_iff, List.map_eq_nil_iff, List.filter_eq_nil_iff,
    List.flatMap_eq_nil_iff]
  push Not
  grind

namespace RunSettings.Sound

variable {settings : RunSettings} (h : settings.Sound) {engine : Text → Behaviour}
  {mode : OutputMode} {unwritable : List Text} {file source : Text} {content : Except Text Text}
  {report : FileReport} {outcome : Outcome}

include h

theorem formatTextBy_isOk_iff {engine : Behaviour} :
    (∃ outcome, formatTextBy engine settings.formatOptions none file source = .ok outcome) ↔
      engine.CanReport settings.pipeline source := by
  simp only [formatTextBy_eq_ok_iff h.resolve, formatDocument_isOk_iff]

theorem fails_iff (hends : Ends (fun file => formatTextBy (engine file) settings.formatOptions none
      file) mode unwritable file content (.ok report)) {check strict : Bool} :
    report.outcome.Fails check strict content ↔ report.outcome.isAborted = true ∨
      (check = true ∧ report.outcome.isChanged = true) ∨
      (strict = true ∧ report.outcome.diagnostics ≠ []) := by
  cases houtcome : report.outcome with
  | aborted a => exact iff_of_true .aborted (.inl rfl)
  | done d =>
    obtain ⟨source, rfl, hformat⟩ := hends.of_done houtcome
    have hdone := (formatTextBy_eq_ok_iff h.resolve).mp hformat
    obtain ⟨p, -, haccounts⟩ := exists_accounts_of_done hdone
    have hchanged := changed_iff_of_done hdone
    have hfailed := haccounts.diagnostics_ne_nil_iff
    simp only [Outcome.isAborted, Outcome.isChanged, Outcome.diagnostics, hchanged, hfailed,
      Bool.false_eq_true, false_or]
    constructor
    · rintro (_ | ⟨hcheck, ⟨⟩, hdiffers⟩ | ⟨hstrict, hreport, hresult⟩)
      · exact .inl ⟨hcheck, hdiffers⟩
      · exact .inr ⟨hstrict, _, hreport, hresult⟩
    · rintro (⟨hcheck, hdiffers⟩ | ⟨hstrict, report, hreport, hresult⟩)
      · exact .differs hcheck rfl hdiffers
      · exact .region hstrict hreport hresult

end RunSettings.Sound

-- ---------------------------------------------------------------------------
-- Runs
-- ---------------------------------------------------------------------------

def RunResult.stdout (r : RunResult) : Text :=
  (r.chunks.filter fun chunk => chunk.stream = .out).flatMap (·.content)

namespace Options

variable {o : Options} {arguments : List Text}

theorem mode_eq_check_iff : o.mode = .check ↔ o.check = true := by
  unfold mode
  split_ifs <;> simp_all

theorem write_of_mode (h : o.mode = .write) : o.write = true := by
  unfold mode at h
  split_ifs at h
  assumption

theorem readsStdin_of_write (h : parse arguments = .ok o) (hwrite : o.write = true) :
    o.readsStdin = false := by
  obtain ⟨read, -, h⟩ := bind_eq_ok_iff.mp h
  unfold validate at h
  split_ifs at h with hboth _ hstdin
  cases h
  simpa [hwrite] using hstdin

end Options

namespace CommandLine

variable {turns : List Nat} {engineFor : EngineChoice → Text → Behaviour} {s : Environment}
  {o : Options} {settings : RunSettings} {arguments : List Text}

def documents (s : Environment) (o : Options) (settings : RunSettings) :
    List (Text × Except Text Text) :=
  if o.readsStdin then [(stdinName, .ok s.stdin)]
  else (Collect.collectFrom s.directories settings.exclude s.directory o.inputs).map fun file =>
    (file, s.disk.read file)

/-- What is reported of a document if it is formatted on its own. -/
def Becomes (engine : Text → Behaviour) (s : Environment) (settings : RunSettings)
    (document : Text × Except Text Text) (report : FileReport) : Prop :=
  Ends (fun file => formatTextBy (engine file) settings.formatOptions none file) settings.mode
    s.disk.unwritable document.1 document.2 (.ok report)

/-- What a run comes to by what becomes of each of its documents. -/
structure Completes (engine : Text → Behaviour) (s : Environment) (o : Options)
    (settings : RunSettings) (result : RunResult) : Prop where
  becomes : ∀ document ∈ documents s o settings, ∃ report,
    Becomes engine s settings document report
  exit : result.exit = 0 ∨ result.exit = 1
  exit_eq_one_iff : result.exit = 1 ↔ ∃ document ∈ documents s o settings, ∃ report,
    Becomes engine s settings document report ∧
      report.outcome.Fails o.check settings.strict document.2
  stdout : o.readsStdin = true → o.check = false → ∀ outcome,
    formatTextBy (engine stdinName) settings.formatOptions none stdinName s.stdin = .ok outcome →
      result.stdout = outcome.passedOn s.stdin

theorem exists_settings (s : Environment) (ho : o.Sound) :
    ∃ settings, CommandLine.settings s o = .ok settings ∧ settings.Sound ∧
      settings.mode = o.mode := by
  have hconfig := (configFiles s).sound_merged
  obtain ⟨config, hresolve⟩ := hconfig.exists_resolve s.concurrency
  exact ⟨.ofOptions o config, by rw [CommandLine.settings, hresolve],
    RunSettings.sound_ofOptions ho (hconfig.of_resolve hresolve), rfl⟩

theorem stdout_failed {verbose debug : Bool} {choice : Option EngineChoice}
    {warnings : List Text} {disk : Disk} {e : RunError} :
    (failed s verbose debug choice warnings disk e).stdout = [] := by
  have hnone : (failed s verbose debug choice warnings disk e).chunks.filter
      (fun chunk => chunk.stream = .out) = [] := by
    simp [failed, List.filter_map]
  rw [RunResult.stdout, hnone, List.flatMap_nil]

theorem filter_diagnosticChunks {ds : List Diagnostic} :
    (diagnosticChunks s ds).filter (fun chunk => chunk.stream = .out) = [] := by
  unfold diagnosticChunks
  split <;> rfl

theorem stdout_stdinChunks {mode : OutputMode} (hmode : mode ≠ .check) {outcome : Outcome} :
    ((stdinChunks s mode outcome).filter fun chunk => chunk.stream = .out).flatMap (·.content) =
      outcome.passedOn s.stdin := by
  unfold stdinChunks
  dsimp only
  rw [if_neg hmode, List.filter_append, filter_diagnosticChunks]
  cases outcome <;> simp [CommandLine.output, Outcome.passedOn]

theorem missing_eq_nil_iff {inputs : List Text} : missing s inputs = [] ↔
    ∀ input ∈ inputs, s.disk.contains (Path.resolve s.directory input) = true := by
  simp [missing]

section

variable {engine : Text → Behaviour} {reports : List FileReport} {warnings : List Text}
  {disk : Disk}

theorem completes_of_reports (hsettings : settings.Sound) (hmode : settings.mode = o.mode)
    (hall : List.Forall₂ (Becomes engine s settings) (documents s o settings) reports)
    {chunks : List Chunk} (hstdout : o.readsStdin = true → o.check = false → ∀ outcome,
      formatTextBy (engine stdinName) settings.formatOptions none stdinName s.stdin = .ok outcome →
        chunks = stdinChunks s settings.mode outcome) :
    Completes engine s o settings (succeeded settings warnings disk ⟨.ofFiles reports, chunks⟩) := by
  have hcheck : decide (settings.mode = .check) = o.check := by
    simp [hmode, Options.mode_eq_check_iff]
  have hexit : (succeeded settings warnings disk ⟨.ofFiles reports, chunks⟩).exit = 1 ↔
      (RunReport.ofFiles reports).fails ⟨settings.strict, o.check⟩ = true := by
    simp [succeeded, hcheck]
  refine ⟨fun document hdocument => ?_, ?_, ?_, fun hstdin hnot outcome houtcome => ?_⟩
  · obtain ⟨report, -, hone⟩ := exists_mem_of_forall₂ hall.flip hdocument
    exact ⟨report, hone⟩
  · unfold succeeded
    split <;> simp
  · rw [hexit, RunReport.fails_ofFiles]
    constructor
    · rintro ⟨report, hreport, hfails⟩
      obtain ⟨document, hdocument, hone⟩ := exists_mem_of_forall₂ hall hreport
      exact ⟨document, hdocument, report, hone, (hsettings.fails_iff hone).mpr hfails⟩
    · rintro ⟨document, hdocument, report, hone, hfails⟩
      obtain ⟨report', hreport, hone'⟩ := exists_mem_of_forall₂ hall.flip hdocument
      obtain rfl := Except.ok.inj (hone.unique hone')
      exact ⟨report, hreport, (hsettings.fails_iff hone).mp hfails⟩
  · rw [hstdout hstdin hnot outcome houtcome]
    exact stdout_stdinChunks (by simp [hmode, Options.mode_eq_check_iff, hnot])

theorem format_files (hstdin : o.readsStdin = false) (h : missing s o.inputs = []) :
    let formatted := formatFilesBy turns engine settings.formatOptions none settings.mode s.disk
      (Collect.collectFrom s.directories settings.exclude s.directory o.inputs)
    (format turns s o settings engine).1 =
        (formatted.1.mapError fun e => unexpected e.message).map
          (filesWork s settings o.verbose) ∧
      (format turns s o settings engine).2 = formatted.2 := by
  simp [CommandLine.format, hstdin, formatInputs, h]

/-- What a run comes to if it gets as far as its documents. -/
theorem completes_or_fails (hsettings : settings.Sound) (hmode : settings.mode = o.mode)
    (hsearch : s.directories.Absolute) (hwrite : o.write = true → o.readsStdin = false)
    (hthere : o.readsStdin = true ∨
      ∀ input ∈ o.inputs, s.disk.contains (Path.resolve s.directory input) = true) :
    (∃ w, (format turns s o settings engine).1 = .ok w ∧
        Completes engine s o settings
          (succeeded settings warnings (format turns s o settings engine).2 w)) ∨
      ∃ document ∈ documents s o settings, ∃ source, document.2 = .ok source ∧
        ¬ (engine document.1).CanReport settings.pipeline source ∧
        ∃ message, (format turns s o settings engine).1 = .error (unexpected message) := by
  cases hstdin : o.readsStdin with
  | true =>
    have hdocuments : documents s o settings = [(stdinName, .ok s.stdin)] := if_pos hstdin
    rw [CommandLine.format, if_pos hstdin, formatStdin]
    cases hformat : formatTextBy (engine stdinName) settings.formatOptions none stdinName s.stdin with
    | error e =>
      refine .inr ⟨(stdinName, .ok s.stdin), by simp [hdocuments], s.stdin, rfl, fun hcan => ?_,
        e.message, rfl⟩
      obtain ⟨outcome, houtcome⟩ := hsettings.formatTextBy_isOk_iff.mpr hcan
      cases hformat.symm.trans houtcome
    | ok outcome =>
      refine .inl ⟨_, rfl, completes_of_reports hsettings hmode ?_ fun _ _ outcome' h => ?_⟩
      · have hnever : settings.mode ≠ .write := fun hm => by
          simpa [hstdin] using hwrite (Options.write_of_mode (hmode.symm.trans hm))
        rw [hdocuments]
        exact .cons (.kept hformat fun hm => (hnever hm).elim) .nil
      · cases hformat.symm.trans h
        rfl
  | false =>
    have hmissing : missing s o.inputs = [] :=
      missing_eq_nil_iff.mpr (hthere.resolve_left (by simp [hstdin]))
    have hdocuments : documents s o settings =
        (Collect.collectFrom s.directories settings.exclude s.directory o.inputs).map fun file =>
          (file, s.disk.read file) := if_neg (by simp [hstdin])
    obtain ⟨-, ⟨file, hfile, e, hends, he⟩ | ⟨reports, hreports, haccounts⟩⟩ :=
      formatFilesBy_cases turns engine settings.mode s.disk
        (Collect.nodup_resolve_collectFrom hsearch settings.exclude s.directory o.inputs)
        hsettings.resolve
    · obtain ⟨source, hread, hformat⟩ := hends.exists_of_error
      refine .inr ⟨(file, s.disk.read file), ?_, source, hread, fun hcan => ?_, e.message, ?_⟩
      · rw [hdocuments]
        exact List.mem_map_of_mem hfile
      · obtain ⟨outcome, houtcome⟩ := hsettings.formatTextBy_isOk_iff.mpr hcan
        cases hformat.symm.trans houtcome
      · rw [(format_files hstdin hmissing).1, he]
        rfl
    · refine .inl ⟨filesWork s settings o.verbose reports, ?_,
        completes_of_reports hsettings hmode ?_ (by simp [hstdin])⟩
      · rw [(format_files hstdin hmissing).1, hreports]
        rfl
      · rw [hdocuments]
        exact List.forall₂_map_left_iff.mpr haccounts.files

theorem content?_format (hsettings : settings.Sound) (hsearch : s.directories.Absolute)
    (hmode : settings.mode ≠ .write) (name : Text) :
    (format turns s o settings engine).2.content? name = s.disk.content? name := by
  cases hstdin : o.readsStdin with
  | true => simp [CommandLine.format, hstdin]
  | false =>
    by_cases hmissing : missing s o.inputs = []
    · obtain ⟨hintact, -⟩ := formatFilesBy_cases turns engine settings.mode s.disk
        (Collect.nodup_resolve_collectFrom hsearch settings.exclude s.directory o.inputs)
        hsettings.resolve
      rw [(format_files hstdin hmissing).2]
      rcases hintact name with hsame | ⟨_, _, _, _, _, _, _, hwrite, _⟩
      · exact hsame
      · exact (hmode hwrite).elim
    · simp [CommandLine.format, hstdin, formatInputs, hmissing]

end

theorem runBy_eq (hparse : Options.parse arguments = .ok o) (hhelp : o.help = false)
    (hversion : o.version = false) (hfound : CommandLine.settings s o = .ok settings) :
    let formatted := format turns s o settings (engineFor settings.engine)
    let warnings := (configFiles s).warnings
    runBy turns engineFor s arguments =
      match formatted.1 with
      | .error e => failed s o.verbose o.debug (some settings.engine) warnings formatted.2 e
      | .ok w => succeeded settings warnings formatted.2 w := by
  simp only [runBy, hparse, runOptions, hhelp, hversion, hfound, Bool.false_eq_true, if_false]
  rcases format turns s o settings (engineFor settings.engine) with ⟨_ | _, _⟩ <;> rfl

/-- A run of options that ask for documents. If a path stands for nothing, nothing is done.
Otherwise the run completes if there is something to report of every answer, and if there is not,
nothing is printed. -/
theorem runBy_exit (turns : List Nat) (engineFor : EngineChoice → Text → Behaviour)
    (hparse : Options.parse arguments = .ok o) (hhelp : o.help = false)
    (hversion : o.version = false) (hsearch : s.directories.Absolute) :
    let result := runBy turns engineFor s arguments
    ∃ settings, CommandLine.settings s o = .ok settings ∧
      (o.write = false → ∀ name, result.disk.content? name = s.disk.content? name) ∧
      (o.readsStdin = false →
        (∃ input ∈ o.inputs, s.disk.contains (Path.resolve s.directory input) = false) →
          result.exit = 1 ∧ result.disk = s.disk ∧ result.stdout = []) ∧
      (o.readsStdin = true ∨
          (∀ input ∈ o.inputs, s.disk.contains (Path.resolve s.directory input) = true) →
        let engine := engineFor settings.engine
        ((∀ document ∈ documents s o settings, ∀ source, document.2 = .ok source →
            (engine document.1).CanReport settings.pipeline source) →
          Completes engine s o settings result) ∧
        ((∃ document ∈ documents s o settings, ∃ source, document.2 = .ok source ∧
            ¬ (engine document.1).CanReport settings.pipeline source) →
          result.exit = 1 ∧ result.stdout = [])) := by
  intro result
  have hsound := Options.sound_parse hparse
  obtain ⟨settings, hfound, hsettings, hmode⟩ := exists_settings s hsound
  have hresult : result = _ := runBy_eq hparse hhelp hversion hfound
  have hfails {message : Text} (h : (format turns s o settings (engineFor settings.engine)).1 =
      .error (unexpected message)) : result.exit = 1 ∧ result.stdout = [] := by
    rw [hresult, h]
    exact ⟨rfl, stdout_failed⟩
  have hafter : result.disk = (format turns s o settings (engineFor settings.engine)).2 := by
    rw [hresult]
    split <;> rfl
  refine ⟨settings, hfound, fun hnot name => ?_, fun hstdin hmissing => ?_, fun hthere => ?_⟩
  · have hnever : settings.mode ≠ .write := fun hm => by
      simpa [hnot] using Options.write_of_mode (hmode.symm.trans hm)
    rw [hafter]
    exact content?_format hsettings hsearch hnever name
  · obtain ⟨input, hinput, hnone⟩ := hmissing
    have hne : missing s o.inputs ≠ [] :=
      List.ne_nil_of_mem (List.mem_filter.mpr ⟨hinput, by simp [hnone]⟩)
    have hformat : format turns s o settings (engineFor settings.engine) =
        (.error <| unexpected <| text "No such file or directory: " ++
          Text.joinWith (text ", ") (missing s o.inputs), s.disk) := by
      simp [CommandLine.format, hstdin, formatInputs, hne]
    obtain ⟨hexit, hstdout⟩ := hfails (congrArg Prod.fst hformat)
    exact ⟨hexit, by rw [hafter, hformat], hstdout⟩
  · have hwrite := Options.readsStdin_of_write hparse
    intro engine
    rcases completes_or_fails hsettings hmode hsearch hwrite hthere with
      ⟨w, hw, hcompletes⟩ | ⟨document, hdocument, source, hread, hnot, message, hfailed⟩
    · rw [hresult, hw]
      refine ⟨fun _ => hcompletes, ?_⟩
      rintro ⟨document, hdocument, source, hread, hnot⟩
      obtain ⟨report, hbecomes⟩ := hcompletes.becomes document hdocument
      exact (hnot (hsettings.formatTextBy_isOk_iff.mp (hbecomes.exists_of_ok hread))).elim
    · exact ⟨fun hall => (hnot (hall document hdocument source hread)).elim,
        fun _ => hfails hfailed⟩

/-- Of two statements on standard input the engine fails at the first. Both are passed on if its
error has a text, and neither is if it has none. -/
theorem runBy_exit_stdin :
    let engine (e : EngineError) : Behaviour :=
      ⟨text "engine", fun id _ => if id = 0 then .error e else .output (text "b\n")⟩
    let s : Environment :=
      ⟨text "/", text "/", .empty, fun _ _ _ => [], text "$ a\n$ b\n", false, none⟩
    let result (e : EngineError) := runBy [] (fun _ _ => engine e) s []
    (result (.other (text "crashed"))).stdout = text "$ a\n$ b\n" ∧
      (result (.textless [])).exit = 1 ∧ (result (.textless [])).stdout = [] := by
  intro engine s result
  have hparse : Options.parse [] = .ok .empty := rfl
  let settings : RunSettings := .ofOptions .empty .default
  have hfound : CommandLine.settings s .empty = .ok settings := rfl
  have hsound : settings.Sound := ⟨by decide, by decide, by decide, by decide⟩
  have hruns (e : EngineError) :=
    runBy_exit (s := s) [] (fun _ _ => engine e) hparse rfl rfl nofun
  constructor
  · obtain ⟨found, hsettings, -, -, hrun⟩ := hruns (.other (text "crashed"))
    cases hfound.symm.trans hsettings
    have hcompletes := (hrun (.inl rfl)).1 fun document _ source _ p _ id r _ => by
      by_cases hid : id = 0 <;> simp [engine, hid, Region.CanReport, Region.Reports]
    have hformat : (formatDocument (engine (.other (text "crashed")))
        ⟨settings.concurrency, hsound.concurrency⟩ settings.pipeline stdinName
        (text "$ a\n$ b\n")).map (·.passedOn (text "$ a\n$ b\n")) =
          .ok (text "$ a\n$ b\n") := by cbv
    obtain ⟨outcome, houtcome, hpassed⟩ := map_eq_ok_iff.mp hformat
    have hkept := hcompletes.stdout rfl rfl outcome
      ((formatTextBy_eq_ok_iff hsound.resolve).mpr houtcome)
    exact hkept.trans hpassed
  · obtain ⟨found, hsettings, -, -, hrun⟩ := hruns (.textless [])
    cases hfound.symm.trans hsettings
    refine (hrun (.inl rfl)).2 ⟨_, List.mem_singleton.mpr rfl, _, rfl, fun hcan => ?_⟩
    have hregions : (Partition.build settings.indentation (.ofText (text "$ a\n$ b\n"))).map
        (fun p => p.regions.isEmpty) = .ok false := by cbv
    obtain ⟨p, hp, hregions⟩ := map_eq_ok_iff.mp hregions
    cases hr : p.regions with
    | nil => simp [hr] at hregions
    | cons r regions => exact hcan p hp 0 r (by simp [hr])

end CommandLine

end Inlay
