import Inlay.Batch
import Inlay.Proofs.Blocks
import Inlay.Proofs.Completions
import Mathlib

/-!
# Files on their own

What becomes of a file in a batch depends on what is read of it and on whether it can be written
(`Ends`). The files of a batch have different names, so nothing that is written shows in what is
read of the others (`FileRun.Accounted`), whichever of them goes on when.
-/

namespace Inlay

-- ---------------------------------------------------------------------------
-- Contents
-- ---------------------------------------------------------------------------

namespace Disk

/-- Two disks that differ in nothing but files. -/
structure Alike (disk other : Disk) : Prop where
  directories : disk.directories = other.directories
  unreadable : disk.unreadable = other.unreadable
  unwritable : disk.unwritable = other.unwritable

theorem Alike.trans {disk other third : Disk} (h : disk.Alike other) (h' : other.Alike third) :
    disk.Alike third :=
  ⟨h.directories.trans h'.directories, h.unreadable.trans h'.unreadable,
    h.unwritable.trans h'.unwritable⟩

variable {path other content : Text} {files : List (Text × Text)} {disk : Disk}

theorem lookup_putFile : (putFile path content files).lookup other =
    if other = path then some content else files.lookup other := by
  induction files with
  | nil =>
    by_cases heq : other = path
    · simp [putFile, heq]
    · simp [putFile, List.lookup_cons, heq, beq_false_of_ne heq]
  | cons first files ih =>
    obtain ⟨p, c⟩ := first
    by_cases hp : p = path
    · by_cases heq : other = path
      · simp [putFile, hp, heq]
      · simp [putFile, List.lookup_cons, hp, heq, beq_false_of_ne heq]
    · by_cases heq : other = p
      · simp [putFile, hp, heq]
      · simp [putFile, List.lookup_cons, hp, beq_false_of_ne heq, ih]

theorem content?_addFile {name file : Text} : (disk.addFile file content).content? name =
    if Path.resolve Path.root name = Path.resolve Path.root file then some content
    else disk.content? name :=
  lookup_putFile

theorem write_eq_ok_iff {written : Disk} {file : Text} : disk.write file content = .ok written ↔
    file ∉ disk.unwritable ∧ disk.addFile file content = written := by
  unfold write
  split <;> simp_all

theorem write_eq_error_iff {file reason : Text} : disk.write file content = .error reason ↔
    file ∈ disk.unwritable ∧ deniedReason file = reason := by
  unfold write
  split <;> simp_all

end Disk

-- ---------------------------------------------------------------------------
-- One file
-- ---------------------------------------------------------------------------

/-- What comes of a file, by what was read of it. -/
inductive Ends {ε : Type} (format : Text → Text → Except ε Outcome) (mode : OutputMode)
    (unwritable : List Text) (file : Text) : Except Text Text → Except ε FileReport → Prop
  | unread {reason : Text} :
    Ends format mode unwritable file (.error reason)
      (.ok ⟨file, .ofFileError ⟨file, .read, reason⟩, false, []⟩)
  | failed {source : Text} {e : ε} : format file source = .error e →
    Ends format mode unwritable file (.ok source) (.error e)
  | kept {source : Text} {outcome : Outcome} : format file source = .ok outcome →
    (mode = .write → outcome.isChanged = false) →
    Ends format mode unwritable file (.ok source) (.ok ⟨file, outcome, false, outcome.calls⟩)
  | written {source : Text} {d : DoneDocument} : format file source = .ok (.done d) →
    mode = .write → d.changed → file ∉ unwritable →
    Ends format mode unwritable file (.ok source) (.ok ⟨file, .done d, true, d.calls⟩)
  | unwritten {source : Text} {d : DoneDocument} : format file source = .ok (.done d) →
    mode = .write → d.changed → file ∈ unwritable →
    Ends format mode unwritable file (.ok source)
      (.ok ⟨file, .ofFileError ⟨file, .write, Disk.deniedReason file⟩, false, d.calls⟩)

def FileReport.store (report : FileReport) (disk : Disk) : Disk :=
  match report.written, report.outcome with
  | true, .done d => disk.addFile report.file d.output
  | _, _ => disk

namespace FileReport

variable {report : FileReport} {disk : Disk} {name : Text}

theorem store_alike : (report.store disk).Alike disk := by
  unfold store
  split <;> exact ⟨rfl, rfl, rfl⟩

theorem content?_store_of_ne (h : report.written = true →
    Path.resolve Path.root name ≠ Path.resolve Path.root report.file) :
    (report.store disk).content? name = disk.content? name := by
  unfold store
  split
  · next hwritten _ => rw [Disk.content?_addFile, if_neg (h hwritten)]
  · rfl

theorem content?_store_self {d : DoneDocument} (hwritten : report.written = true)
    (hdone : report.outcome = .done d) :
    (report.store disk).content? report.file = some d.output := by
  simp only [store, hwritten, hdone, Disk.content?_addFile, if_true]

end FileReport

namespace Ends

variable {ε ε' : Type} {format : Text → Text → Except ε Outcome} {mode : OutputMode}
  {unwritable : List Text} {file : Text} {content : Except Text Text} {report : FileReport}
  {result : Except ε FileReport} {e : ε}

theorem file_eq (h : Ends format mode unwritable file content (.ok report)) : report.file = file := by
  cases h <;> rfl

theorem written_iff (h : Ends format mode unwritable file content (.ok report)) :
    report.written = true ↔ mode = .write ∧ report.outcome.isChanged = true := by
  cases h with
  | unread => simp [Outcome.ofFileError, Outcome.isChanged]
  | kept _ hkept => simpa using hkept
  | written _ hmode hchanged => simp [hmode, Outcome.isChanged, hchanged]
  | unwritten => simp [Outcome.ofFileError, Outcome.isChanged]

theorem exists_of_error (h : Ends format mode unwritable file content (.error e)) :
    ∃ source, content = .ok source ∧ format file source = .error e := by
  cases h with
  | failed he => exact ⟨_, rfl, he⟩

theorem exists_of_ok (h : Ends format mode unwritable file content (.ok report)) {source : Text}
    (hread : content = .ok source) : ∃ outcome, format file source = .ok outcome := by
  subst hread
  cases h <;> exact ⟨_, ‹_›⟩

theorem of_written (h : Ends format mode unwritable file content (.ok report))
    (hwritten : report.written = true) : ∃ source d, content = .ok source ∧
      format file source = .ok (.done d) ∧ mode = .write ∧ d.changed ∧ report.outcome = .done d := by
  cases h with
  | written hdone hmode hchanged => exact ⟨_, _, rfl, hdone, hmode, hchanged, rfl⟩
  | _ => cases hwritten

theorem unique {result' : Except ε FileReport} (h : Ends format mode unwritable file content result)
    (h' : Ends format mode unwritable file content result') : result = result' := by
  cases h <;> cases h' <;> grind [Outcome.isChanged]

theorem mapError (f : ε → ε') (h : Ends format mode unwritable file content result) :
    Ends (fun file source => (format file source).mapError f) mode unwritable file content
      (result.mapError f) := by
  cases h with
  | unread => exact .unread
  | failed he => exact .failed (by rw [he]; rfl)
  | kept hdone hkept => exact .kept (by rw [hdone]; rfl) hkept
  | written hdone hmode hchanged hw => exact .written (by rw [hdone]; rfl) hmode hchanged hw
  | unwritten hdone hmode hchanged hw => exact .unwritten (by rw [hdone]; rfl) hmode hchanged hw

end Ends

/-- A name has what it had, or what the file of that name is formatted to. -/
def Disk.Intact {ε : Type} (format : Text → Text → Except ε Outcome) (mode : OutputMode)
    (files : List Text) (disk after : Disk) (name : Text) : Prop :=
  after.content? name = disk.content? name ∨
    ∃ file ∈ files, ∃ source d, Path.resolve Path.root name = Path.resolve Path.root file ∧
      disk.read file = .ok source ∧ format file source = .ok (.done d) ∧ mode = .write ∧
      d.changed = true ∧ after.content? name = some d.output

theorem Disk.Intact.mapError {ε ε' : Type} {format : Text → Text → Except ε Outcome}
    {mode : OutputMode} {files : List Text} {disk after : Disk} {name : Text} (f : ε → ε')
    (h : Disk.Intact format mode files disk after name) :
    Disk.Intact (fun file source => (format file source).mapError f) mode files disk after name := by
  refine h.imp_right ?_
  rintro ⟨file, hfile, source, d, hsame, hread, hdone, hwrite⟩
  exact ⟨file, hfile, source, d, hsame, hread, by simp only [hdone]; rfl, hwrite⟩

section

variable {format : Text → Text → Except PipelineError Outcome} {mode : OutputMode}

def storeResult (result : Except PipelineError FileReport) (disk : Disk) : Disk :=
  match result with
  | .ok report => report.store disk
  | .error _ => disk

theorem exists_finishFile_eq (format : Text → Text → Except PipelineError Outcome)
    (mode : OutputMode) (disk : Disk) (file : Text) (content : Except Text Text) :
    ∃ result, Ends format mode disk.unwritable file content result ∧
      finishFile format mode disk file content = (result, storeResult result disk) := by
  fun_cases finishFile format mode disk file content with
  | case1 => exact ⟨_, .unread, rfl⟩
  | case2 _ source e he => exact ⟨_, .failed he, rfl⟩
  | case3 source d hchanged after hafter hdone =>
    obtain ⟨hwritable, rfl⟩ := Disk.write_eq_ok_iff.mp hafter
    exact ⟨_, .written hdone rfl hchanged hwritable, rfl⟩
  | case4 source d hchanged reason hreason hdone =>
    obtain ⟨hunwritable, rfl⟩ := Disk.write_eq_error_iff.mp hreason
    exact ⟨_, .unwritten hdone rfl hchanged hunwritable, rfl⟩
  | case5 source d hsame hdone =>
    exact ⟨_, .kept hdone fun _ => Bool.eq_false_iff.mpr hsame, rfl⟩
  | case6 _ source outcome hdone hkept =>
    refine ⟨_, .kept hdone fun hmode => ?_, rfl⟩
    cases outcome with
    | done d => exact (hkept d hmode rfl).elim
    | aborted a => rfl

-- ---------------------------------------------------------------------------
-- Files on their way
-- ---------------------------------------------------------------------------

namespace FileRun

open Workers (successes failures successes_append successes_ok)

variable {disk : Disk} {files : List Text} {workers item : Nat} {run : FileRun}
  {log : List (Nat × Except PipelineError FileReport)}

/-- What was read of a file is what it had at first, and what came of it is what comes of that. The
disk has what was written, and apart from that what it had. -/
structure Accounted (format : Text → Text → Except PipelineError Outcome) (mode : OutputMode)
    (disk : Disk) (files : List Text) (workers : Nat)
    (log : List (Nat × Except PipelineError FileReport)) (run : FileRun) : Prop where
  names : run.files = files
  runs : Workers.Run files.length workers log run.workers
  reads : ∀ item content, run.content? item = some content → content = disk.read (run.file item)
  ends : ∀ x ∈ log,
    Ends format mode disk.unwritable (run.file x.1) (disk.read (run.file x.1)) x.2
  alike : run.disk.Alike disk
  stored : ∀ x ∈ successes log, ∀ d, x.2.written = true → x.2.outcome = .done d →
    run.disk.content? x.2.file = some d.output
  kept : ∀ name, (∀ x ∈ successes log, x.2.written = true →
    Path.resolve Path.root name ≠ Path.resolve Path.root x.2.file) →
    run.disk.content? name = disk.content? name

namespace Accounted

theorem start : Accounted format mode disk files workers [] (.start disk files workers) where
  names := rfl
  runs := .start
  reads := by simp [FileRun.start, content?]
  ends := by simp
  alike := ⟨rfl, rfl, rfl⟩
  stored := by simp [successes]
  kept := fun _ _ => rfl

section

variable (h : Accounted format mode disk files workers log run)

include h

theorem file_eq (hlt : item < files.length) : run.file item = files[item] := by
  rw [file, h.names, List.getElem?_eq_getElem hlt, Option.getD_some]

theorem exists_ends {x : Nat × Except PipelineError FileReport} (hx : x ∈ log) :
    ∃ file ∈ files, Ends format mode disk.unwritable file (disk.read file) x.2 := by
  have hlt := h.runs.accounted.lt_of_mem_log hx
  have hends := h.ends x hx
  rw [h.file_eq hlt] at hends
  exact ⟨_, List.getElem_mem hlt, hends⟩

end

section

variable (hnames : (files.map (Path.resolve Path.root)).Nodup)
  (h : Accounted format mode disk files workers log run)

include hnames h

theorem resolve_ne (hm : item ∈ run.workers.busy) {x : Nat × FileReport}
    (hx : x ∈ successes log) :
    Path.resolve Path.root (run.file item) ≠ Path.resolve Path.root x.2.file := by
  intro heq
  have haccounted := h.runs.accounted
  have hlog := Workers.mem_of_mem_successes hx
  have hitem := haccounted.lt_of_mem_busy hm
  have hlt := haccounted.lt_of_mem_log hlog
  rw [(h.ends _ hlog).file_eq, h.file_eq hitem, h.file_eq hlt] at heq
  have hfile := List.inj_on_of_nodup_map hnames (List.getElem_mem hitem) (List.getElem_mem hlt) heq
  obtain rfl : item = x.1 := (hnames.of_map _).getElem_inj_iff.mp hfile
  exact List.disjoint_of_nodup_append haccounted.nodup (List.mem_map_of_mem hlog) hm

theorem read_eq (hm : item ∈ run.workers.busy) :
    run.disk.read (run.file item) = disk.read (run.file item) := by
  rw [Disk.read, Disk.read, h.alike.unreadable,
    h.kept (run.file item) fun _ hx _ => resolve_ne hnames h hm hx]

theorem read (hm : item ∈ run.workers.busy) :
    Accounted format mode disk files workers log
      { run with contents := (item, run.disk.read (run.file item)) :: run.contents } :=
  { h with
    reads := fun other content hcontent => by
      rw [content?_cons] at hcontent
      split at hcontent
      · next heq =>
        rw [← Option.some.inj hcontent, heq]
        exact read_eq hnames h hm
      · exact h.reads other content hcontent }

theorem complete (hm : item ∈ run.workers.busy) {result : Except PipelineError FileReport}
    (hends : Ends format mode disk.unwritable (run.file item) (disk.read (run.file item)) result) :
    Accounted format mode disk files workers (log ++ [(item, result)])
      { run with
        workers := run.workers.complete item result
        disk := storeResult result run.disk } := by
  have hallends : ∀ x ∈ log ++ [(item, result)],
      Ends format mode disk.unwritable (run.file x.1) (disk.read (run.file x.1)) x.2 := by
    intro x hx
    rcases List.mem_append.mp hx with hx | hx
    · exact h.ends x hx
    · rwa [List.mem_singleton.mp hx]
  have hruns := h.runs.complete result hm
  cases result with
  | error e =>
    exact { h with
      runs := hruns
      ends := hallends
      stored := by simpa [storeResult] using h.stored
      kept := by simpa [storeResult] using h.kept }
  | ok report =>
    refine ⟨h.names, hruns, h.reads, hallends, FileReport.store_alike.trans h.alike, ?_, ?_⟩
    · intro x hx d hwritten hdone
      rw [successes_append, successes_ok] at hx
      rcases List.mem_append.mp hx with hx | hx
      · -- the file that is stored now has another name
        have hne := (resolve_ne hnames h hm hx).symm
        rw [← hends.file_eq] at hne
        exact (FileReport.content?_store_of_ne fun _ => hne).trans (h.stored x hx d hwritten hdone)
      · obtain rfl := List.mem_singleton.mp hx
        exact FileReport.content?_store_self hwritten hdone
    · intro name hname
      rw [successes_append, successes_ok] at hname
      obtain ⟨hlog, hreport⟩ := List.forall_mem_append.mp hname
      exact (FileReport.content?_store_of_ne (hreport _ (List.mem_singleton_self _))).trans
        (h.kept name hlog)

theorem advance (item : Nat) :
    ∃ more, Accounted format mode disk files workers (log ++ more)
      (run.advance format mode item) := by
  unfold FileRun.advance
  split
  · next hbusy =>
    have hm := List.contains_iff_mem.mp hbusy
    cases hcontent : run.content? item with
    | none => exact ⟨[], by simpa using read hnames h hm⟩
    | some content =>
      obtain ⟨result, hends, heq⟩ :=
        exists_finishFile_eq format mode run.disk (run.file item) content
      rw [h.alike.unwritable, h.reads item content hcontent] at hends
      simp only [h.reads item content hcontent] at heq ⊢
      simp only [heq]
      exact ⟨_, complete hnames h hm hends⟩
  · exact ⟨[], by simpa using h⟩

theorem foldl_advance (turns : List Nat) :
    ∃ more, Accounted format mode disk files workers (log ++ more)
      (turns.foldl (FileRun.advance format mode) run) := by
  induction turns generalizing log run with
  | nil => exact ⟨[], by simpa using h⟩
  | cons item turns ih =>
    obtain ⟨more, hmore⟩ := advance hnames h item
    obtain ⟨rest, hrest⟩ := ih hmore
    exact ⟨more ++ rest, by rwa [← List.append_assoc]⟩

theorem drain : ∃ more, Accounted format mode disk files workers (log ++ more)
    (run.drain format mode) ∧ (run.drain format mode).workers.busy = [] := by
  fun_induction FileRun.drain format mode run generalizing log with
  | case1 run hnext =>
    have hhead := (Option.or_eq_none_iff.mp hnext).2
    exact ⟨[], by simpa using h, List.head?_eq_none_iff.mp hhead⟩
  | case2 run item hnext ih =>
    obtain ⟨more, hmore⟩ := advance hnames h item
    obtain ⟨rest, hrest, hbusy⟩ := ih hmore
    exact ⟨more ++ rest, by rwa [← List.append_assoc], hbusy⟩

end

end Accounted

theorem Accounted.outcome (h : Accounted format mode disk files workers log run)
    (hone : 1 ≤ workers) (hbusy : run.workers.busy = []) :
    (∃ file ∈ files, ∃ e, Ends format mode disk.unwritable file (disk.read file) (.error e) ∧
      run.workers.outcome = .error e) ∨
    ∃ reports, run.workers.outcome = .ok reports ∧
      List.Forall₂
        (fun file report => Ends format mode disk.unwritable file (disk.read file) (.ok report))
        files reports ∧
      ∀ report, report ∈ reports ↔ ∃ item, (item, report) ∈ successes log := by
  rcases h.runs.outcome_of_idle hone hbusy with ⟨item, e, hm, he⟩ | ⟨reports, hok, hlength, hvalues⟩
  · obtain ⟨file, hfile, hends⟩ := h.exists_ends hm
    exact .inl ⟨file, hfile, e, hends, he⟩
  · refine .inr ⟨reports, hok, List.forall₂_iff_get.mpr ⟨hlength.symm, fun i hi hi' => ?_⟩,
      fun report => ?_⟩
    · have hm := (hvalues i reports[i]).mp (List.getElem?_eq_getElem hi')
      have hends := h.ends _ (Workers.mem_of_mem_successes hm)
      rwa [h.file_eq hi] at hends
    · simp only [List.mem_iff_getElem?, hvalues]

theorem Accounted.intact (h : Accounted format mode disk files workers log run) (name : Text) :
    Disk.Intact format mode files disk run.disk name := by
  by_cases hname : ∀ x ∈ successes log, x.2.written = true →
      Path.resolve Path.root name ≠ Path.resolve Path.root x.2.file
  · exact .inl (h.kept name hname)
  · push Not at hname
    obtain ⟨x, hx, hwritten, hsame⟩ := hname
    obtain ⟨file, hfile, hends⟩ := h.exists_ends (Workers.mem_of_mem_successes hx)
    obtain ⟨source, d, hread, hdone, hmode, hchanged, houtcome⟩ := hends.of_written hwritten
    have hcontent := h.stored x hx d hwritten houtcome
    rw [Disk.content?, ← hsame] at hcontent
    rw [hends.file_eq] at hsame
    exact .inr ⟨file, hfile, source, d, hsame, hread, hdone, hmode, hchanged, hcontent⟩

end FileRun

end

-- ---------------------------------------------------------------------------
-- All files
-- ---------------------------------------------------------------------------

/-- What is said of files that are all reported of, each as if it were alone. What is written is on
the disk, and nothing else has changed there. -/
structure RunReport.Accounts {ε : Type} (alone : Text → Text → Except ε Outcome)
    (mode : OutputMode) (disk after : Disk) (files : List Text) (run : RunReport) : Prop where
  files : List.Forall₂
    (fun file report => Ends alone mode disk.unwritable file (disk.read file) (.ok report))
    files run.files
  written : ∀ report ∈ run.files,
    (report.written = true ↔ mode = .write ∧ report.outcome.isChanged = true)
  stored : ∀ report ∈ run.files, ∀ d, report.written = true → report.outcome = .done d →
    after.content? report.file = some d.output
  kept : ∀ name, (∀ report ∈ run.files, report.written = true →
    Path.resolve Path.root name ≠ Path.resolve Path.root report.file) →
    after.content? name = disk.content? name
  aborted : run.aborted = (run.files.filter (·.outcome.isAborted)).map (·.file)
  changed : run.changed = (run.files.filter (·.outcome.isChanged)).map (·.file)
  changed_of_write : mode = .write → run.changed = (run.files.filter (·.written)).map (·.file)
  diagnostics : run.diagnostics = run.files.flatMap (·.outcome.diagnostics)

section

variable {engine : Engine} {options : FormatOptions} {shared : Option PoolLimit}
  {mode : OutputMode} {disk after : Disk} {files : List Text} {limit : PoolLimit}
  {pipeline : PipelineOptions} {reports : List FileReport}

theorem FormatOptions.indentation_of_resolve (h : options.resolve shared = .ok (limit, pipeline)) :
    pipeline.indentation = ⟨options.policy.getD ResolvedConfig.default.indentation.policy,
      options.tabWidth.getD ResolvedConfig.default.indentation.tabWidth⟩ := by
  cases shared <;> cases htimeout : options.timeout <;>
    simp only [resolve, htimeout, bind_eq_ok_iff, pure_eq_ok_iff] at h
  all_goals
    obtain ⟨_, _, _, _, h⟩ := h
    cases h
    rfl

theorem formatTextBy_eq {engine : Behaviour} (h : options.resolve shared = .ok (limit, pipeline))
    (file source : Text) : formatTextBy engine options shared file source =
      (formatDocument engine limit pipeline file source).mapError .pipeline := by
  rw [formatTextBy, h]
  rfl

theorem formatTextBy_eq_ok_iff {engine : Behaviour} {file source : Text} {outcome : Outcome}
    (h : options.resolve shared = .ok (limit, pipeline)) :
    formatTextBy engine options shared file source = .ok outcome ↔
      formatDocument engine limit pipeline file source = .ok outcome := by
  rw [formatTextBy_eq h]
  cases formatDocument engine limit pipeline file source <;> simp [Except.mapError]

theorem exists_accounted (turns : List Nat) (engine : Text → Behaviour) (mode : OutputMode)
    (disk : Disk) (hnames : (files.map (Path.resolve Path.root)).Nodup)
    (hresolve : options.resolve shared = .ok (limit, pipeline)) :
    ∃ workers log run, 1 ≤ workers ∧
      FileRun.Accounted (fun file => formatDocument (engine file) limit pipeline file) mode disk
        files workers log run ∧
      run.workers.busy = [] ∧
      formatFilesBy turns engine options shared mode disk files =
        (run.workers.outcome.mapError .pipeline, run.disk) := by
  let workers := workerCount (some (.ofNat limit.value)) files.length
  have hstart : FileRun.Accounted (fun file => formatDocument (engine file) limit pipeline file)
      mode disk files workers [] (.start disk files workers) := .start
  obtain ⟨started, hturns⟩ := hstart.foldl_advance hnames turns
  obtain ⟨more, hrun, hbusy⟩ := hturns.drain hnames
  refine ⟨workers, _, _, one_le_workerCount _ _, hrun, hbusy, ?_⟩
  rw [formatFilesBy, hresolve]

theorem RunReport.accounts_ofFiles {ε : Type} {alone : Text → Text → Except ε Outcome}
    (hends : List.Forall₂
      (fun file report => Ends alone mode disk.unwritable file (disk.read file) (.ok report))
      files reports)
    (hstored : ∀ report ∈ reports, ∀ d, report.written = true → report.outcome = .done d →
      after.content? report.file = some d.output)
    (hkept : ∀ name, (∀ report ∈ reports, report.written = true →
      Path.resolve Path.root name ≠ Path.resolve Path.root report.file) →
      after.content? name = disk.content? name) :
    (RunReport.ofFiles reports).Accounts alone mode disk after files := by
  have hwritten : ∀ report ∈ reports,
      (report.written = true ↔ mode = .write ∧ report.outcome.isChanged = true) := by
    intro report hreport
    obtain ⟨file, -, hfile⟩ := exists_mem_of_forall₂ hends hreport
    exact hfile.written_iff
  refine ⟨hends, hwritten, hstored, hkept, rfl, rfl, fun hmode => ?_, rfl⟩
  have hsame : reports.filter (·.outcome.isChanged) = reports.filter (·.written) := by
    refine List.filter_congr fun report hreport => Bool.eq_iff_iff.mpr ?_
    simp [hwritten report hreport, hmode]
  exact congrArg (List.map FileReport.file) hsame

/-- A batch fails as one of its files does, or all files are reported of. -/
theorem formatFilesBy_cases (turns : List Nat) (engine : Text → Behaviour) (mode : OutputMode)
    (disk : Disk) (hnames : (files.map (Path.resolve Path.root)).Nodup)
    (hresolve : options.resolve shared = .ok (limit, pipeline)) :
    let alone (file : Text) := formatTextBy (engine file) options shared file
    let result := formatFilesBy turns engine options shared mode disk files
    (∀ name, Disk.Intact alone mode files disk result.2 name) ∧
      ((∃ file ∈ files, ∃ e, Ends alone mode disk.unwritable file (disk.read file) (.error e) ∧
          result.1 = .error e) ∨
        ∃ reports, result.1 = .ok reports ∧
          (RunReport.ofFiles reports).Accounts alone mode disk result.2 files) := by
  obtain ⟨workers, log, run, hone, hrun, hbusy, hresult⟩ :=
    exists_accounted turns engine mode disk hnames hresolve
  intro alone result
  have halone : alone = _ := funext₂ fun file source => formatTextBy_eq hresolve file source
  rw [halone, show result = _ from hresult]
  refine ⟨fun name => (hrun.intact name).mapError _, ?_⟩
  rcases hrun.outcome hone hbusy with ⟨file, hfile, e, hends, he⟩ | ⟨reports, hok, hends, hmem⟩
  · exact .inl ⟨file, hfile, .pipeline e, hends.mapError _, by rw [he]; rfl⟩
  · refine .inr ⟨reports, by rw [hok]; rfl, RunReport.accounts_ofFiles
      (hends.imp fun _ _ hends => hends.mapError _) (fun report hreport => ?_) fun name hname => ?_⟩
    · obtain ⟨item, hx⟩ := (hmem report).mp hreport
      exact hrun.stored _ hx
    · exact hrun.kept name fun x hx => hname x.2 ((hmem x.2).mpr ⟨x.1, hx⟩)

/-- Files of different names are each formatted as if they were alone, whichever goes on when. All
are reported of unless one of those that can be read has no outcome; then nothing is, and no file
has anything but what it had or what it alone was formatted to. -/
theorem formatFilesIn_accounts (turns : List Nat) (engine : Engine) (mode : OutputMode)
    (disk : Disk) (hnames : (files.map (Path.resolve Path.root)).Nodup)
    (hresolve : options.resolve shared = .ok (limit, pipeline)) :
    let alone := formatText engine options shared
    let result := formatFilesIn turns engine options shared mode disk files
    ((∃ reports, result.1 = .ok reports) ↔
        ∀ file ∈ files, ∀ source, disk.read file = .ok source →
          ∃ outcome, alone file source = .ok outcome) ∧
      (∀ reports, result.1 = .ok reports →
        (RunReport.ofFiles reports).Accounts alone mode disk result.2 files) ∧
      (∀ e, result.1 = .error e → ∃ file ∈ files, ∃ source, disk.read file = .ok source ∧
        alone file source = .error e) ∧
      ∀ name, Disk.Intact alone mode files disk result.2 name := by
  intro alone result
  obtain ⟨hintact, hcases⟩ : (∀ name, Disk.Intact alone mode files disk result.2 name) ∧ _ :=
    formatFilesBy_cases turns (fun _ => engine.behaviour) mode disk hnames hresolve
  rcases hcases with ⟨file, hfile, e, hends, hfailed⟩ | ⟨reports, hdone, haccounts⟩
  · obtain ⟨source, hread, herror⟩ := hends.exists_of_error
    refine ⟨iff_of_false ?_ fun hall => ?_, fun reports h => ?_, fun e' h => ?_, hintact⟩
    · rintro ⟨reports, h⟩
      cases hfailed.symm.trans h
    · obtain ⟨outcome, h⟩ := hall file hfile source hread
      cases herror.symm.trans h
    · cases hfailed.symm.trans h
    · cases hfailed.symm.trans h
      exact ⟨file, hfile, source, hread, herror⟩
  · refine ⟨iff_of_true ⟨reports, hdone⟩ fun file hfile source hread => ?_, fun reports' h => ?_,
      fun e h => ?_, hintact⟩
    · obtain ⟨report, -, h⟩ := exists_mem_of_forall₂ haccounts.files.flip hfile
      exact h.exists_of_ok hread
    · cases hdone.symm.trans h
      exact haccounts
    · cases hdone.symm.trans h

/-- Of two files that would change one cannot be written. The other is. -/
theorem formatFilesIn_accounts_unwritable :
    let engine : Engine := ⟨text "engine", fun _ => .output (text "x = 1\n")⟩
    let disk : Disk := ⟨[(text "/a.rpy", text "$ x=1\n"), (text "/b.rpy", text "$ x=1\n")], [], [],
      [text "b.rpy"]⟩
    let result :=
      formatFilesIn [1, 0] engine .empty none .write disk [text "a.rpy", text "b.rpy"]
    ∃ d reports, formatText engine .empty none (text "a.rpy") (text "$ x=1\n") = .ok (.done d) ∧
      result.1 = .ok reports ∧ reports.map (·.written) = [true, false] ∧
      (RunReport.ofFiles reports).changed = [text "a.rpy"] ∧
      (RunReport.ofFiles reports).aborted = [text "b.rpy"] ∧
      result.2.content? (text "a.rpy") = some d.output ∧
      result.2.content? (text "b.rpy") = some (text "$ x=1\n") := by
  intro engine disk result
  have hformat : ∀ file, ∃ d, formatText engine .empty none file (text "$ x=1\n") =
      .ok (.done d) ∧ d.changed = true := by
    intro file
    have hchanged : (formatText engine .empty none file (text "$ x=1\n")).map
        (fun outcome => (outcome.isAborted, outcome.isChanged)) = .ok (false, true) := by cbv
    obtain ⟨outcome, houtcome, hpair⟩ := map_eq_ok_iff.mp hchanged
    cases outcome with
    | aborted => cases hpair
    | done d => exact ⟨d, houtcome, (Prod.mk.inj hpair).2⟩
  have hread : ∀ file ∈ [text "a.rpy", text "b.rpy"], disk.read file = .ok (text "$ x=1\n") := by
    decide
  obtain ⟨hiff, haccounts, -⟩ := formatFilesIn_accounts [1, 0] engine .write disk
    (show ([text "a.rpy", text "b.rpy"].map (Path.resolve Path.root)).Nodup by decide)
    (show FormatOptions.empty.resolve none = .ok _ from rfl)
  obtain ⟨reports, hreports⟩ := hiff.mpr fun file hfile source hsource => by
    cases (hread file hfile).symm.trans hsource
    obtain ⟨d, hd, -⟩ := hformat file
    exact ⟨_, hd⟩
  have hrun := haccounts reports hreports
  have hall : List.Forall₂ _ [text "a.rpy", text "b.rpy"] reports := hrun.files
  obtain ⟨a, _, ha, hrest, rfl⟩ := List.forall₂_cons_left_iff.mp hall
  obtain ⟨b, _, hb, hnone, rfl⟩ := List.forall₂_cons_left_iff.mp hrest
  obtain rfl := List.forall₂_nil_left_iff.mp hnone
  obtain ⟨d, hd, hchanged⟩ := hformat (text "a.rpy")
  obtain ⟨d', hd', hchanged'⟩ := hformat (text "b.rpy")
  rw [hread _ (by decide)] at ha hb
  obtain rfl := Except.ok.inj (ha.unique (.written hd rfl hchanged (by decide)))
  obtain rfl := Except.ok.inj (hb.unique (.unwritten hd' rfl hchanged' (by decide)))
  have hother : Path.resolve Path.root (text "b.rpy") ≠ Path.resolve Path.root (text "a.rpy") := by
    decide
  have hkept := hrun.kept (text "b.rpy") (by simpa [RunReport.ofFiles] using hother)
  exact ⟨d, _, hd, hreports, rfl, hrun.changed_of_write rfl, hrun.aborted,
    hrun.stored _ (List.mem_cons_self ..) d rfl rfl, hkept.trans (by decide)⟩

end

end Inlay
