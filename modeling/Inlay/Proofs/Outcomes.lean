import Inlay.Outcome
import Inlay.Proofs.Isolation

/-!
# What becomes of a document

Two things can keep a document from being done: it cannot be cut, or there is nothing to report of
an answer (`formatDocument_eq`). The tracker and the check of the partition never do.
-/

namespace Inlay

section

variable {engine : Behaviour} {limit : PoolLimit} {options : PipelineOptions} {file t : Text}
  {p : Partition} {e : StructureError}

theorem Partition.check_of_build {indentation : Indentation}
    (h : build indentation (.ofText t) = .ok p) : p.check = .ok () := by
  have htiles := ((regions_apart h).tiles 0).checkTilingFrom
  obtain ⟨rs, -, rfl⟩ := build_eq_ok_iff.mp h
  rwa [List.map_map] at htiles

theorem formatDocument_of_error
    (h : Partition.build options.indentation (.ofText t) = .error e) :
    formatDocument engine limit options file t = .ok (.ofStructureError file t e) := by
  simp only [formatDocument, h]
  rfl

theorem formatDocument_eq (h : Partition.build options.indentation (.ofText t) = .ok p) :
    formatDocument engine limit options file t =
      let dispatched := dispatch engine limit options.dispatch p.regions
      (dispatched.results.mapError .report).map fun results =>
        .ofResults file p results dispatched.calls := by
  simp only [formatDocument, h, Partition.check_of_build h]
  cases (dispatch engine limit options.dispatch p.regions).results <;> rfl

theorem exists_results_of_done {d : DoneDocument}
    (h : formatDocument engine limit options file t = .ok (.done d)) :
    ∃ p results, Partition.build options.indentation (.ofText t) = .ok p ∧
      (dispatch engine limit options.dispatch p.regions).results = .ok results ∧
      Outcome.ofResults file p results
        (dispatch engine limit options.dispatch p.regions).calls = .done d := by
  cases hbuild : Partition.build options.indentation (.ofText t) with
  | error e =>
    rw [formatDocument_of_error hbuild] at h
    cases h
  | ok p =>
    rw [formatDocument_eq hbuild] at h
    obtain ⟨results, hresults, heq⟩ := map_eq_ok_iff.mp h
    cases hdispatched : (dispatch engine limit options.dispatch p.regions).results with
    | error e =>
      rw [hdispatched] at hresults
      cases hresults
    | ok results' =>
      rw [hdispatched] at hresults
      cases hresults
      exact ⟨p, results, rfl, hdispatched, heq⟩

theorem changed_iff_of_done {d : DoneDocument}
    (h : formatDocument engine limit options file t = .ok (.done d)) :
    d.changed = true ↔ d.output ≠ t := by
  obtain ⟨p, results, hp, -, hd⟩ := exists_results_of_done h
  obtain ⟨rs, -, rfl⟩ := Partition.build_eq_ok_iff.mp hp
  cases hd
  simp [Document.ofText]

/-- Something can be reported of every answer to a call for a document. -/
def Behaviour.CanReport (engine : Behaviour) (options : PipelineOptions) (t : Text) : Prop :=
  ∀ p, Partition.build options.indentation (.ofText t) = .ok p →
    ∀ (id : Nat) (r : Region), p.regions[id]? = some r →
      r.CanReport (engine.answer id (r.call options.dispatch))

theorem formatDocument_isOk_iff :
    (∃ outcome, formatDocument engine limit options file t = .ok outcome) ↔
      engine.CanReport options t := by
  cases hp : Partition.build options.indentation (.ofText t) with
  | error e => exact iff_of_true ⟨_, formatDocument_of_error hp⟩ (by simp [Behaviour.CanReport, hp])
  | ok p =>
    have hiff : (∃ results, (dispatch engine limit options.dispatch p.regions).results =
        .ok results) ↔ engine.CanReport options t := by
      simp only [Behaviour.CanReport, hp, Except.ok.injEq, forall_eq']
      exact Partition.exists_results_iff hp fun _ => List.mem_range.mpr
    rw [formatDocument_eq hp, ← hiff]
    cases hresults : (dispatch engine limit options.dispatch p.regions).results <;>
      simp [hresults, Except.mapError, Except.map]

-- ---------------------------------------------------------------------------
-- Reports and diagnostics
-- ---------------------------------------------------------------------------

def RegionResult.isFailed : RegionResult → Bool
  | .formatted _ => false
  | .failed _ => true

/-- Every report of a failure has a diagnostic of its own, and no other report has any. -/
theorem RegionReport.diagnostics_one_to_one (file : Text) (reports : List RegionReport) :
    List.Forall₂ (fun report diagnostic => report.diagnostics file = [diagnostic])
      (reports.filter (·.result.isFailed)) (reports.flatMap (RegionReport.diagnostics file)) := by
  induction reports with
  | nil => exact .nil
  | cons report reports ih =>
    rw [List.flatMap_cons]
    cases hresult : report.result with
    | formatted code =>
      have hnone : report.diagnostics file = [] := by simp only [diagnostics, hresult]
      rw [List.filter_cons_of_neg (by simp [hresult, RegionResult.isFailed]), hnone]
      exact ih
    | failed failure =>
      obtain ⟨diagnostic, hone⟩ : ∃ diagnostic, report.diagnostics file = [diagnostic] := by
        rw [diagnostics, hresult]
        cases failure <;> exact ⟨_, rfl⟩
      rw [List.filter_cons_of_pos (by simp [hresult, RegionResult.isFailed]), hone]
      exact .cons hone ih

/-- What is said of a document that is done: it has the regions that it was cut into, each with the
result that the answer to its call makes of it; the failed ones have a diagnostic each, in order. -/
structure DoneDocument.Accounts (engine : Behaviour) (options : DispatchOptions) (file : Text)
    (regions : List Region) (d : DoneDocument) : Prop where
  order : d.regions.map (·.region) = regions
  results : ∀ (id : Nat) (report : RegionReport), d.regions[id]? = some report →
    report.region.resultOf engine.name options.timeout
      (engine.answer id (report.region.call options)) = .ok report.result
  diagnostics : List.Forall₂ (fun report diagnostic => report.diagnostics file = [diagnostic])
    (d.regions.filter (·.result.isFailed)) d.diagnostics
  calls : d.calls = regions.map (Region.call options)

theorem DoneDocument.Accounts.diagnostics_ne_nil_iff {regions : List Region} {d : DoneDocument}
    {options : DispatchOptions} (h : d.Accounts engine options file regions) :
    d.diagnostics ≠ [] ↔ ∃ report ∈ d.regions, report.result.isFailed = true := by
  rw [ne_eq, ← List.length_eq_zero_iff, ← h.diagnostics.length_eq, List.length_eq_zero_iff]
  simp

theorem ofResults_accounts (file : Text) {results : List RegionResult}
    (h : (dispatch engine limit options.dispatch p.regions).results = .ok results) :
    ∃ d, Outcome.ofResults file p results
        (dispatch engine limit options.dispatch p.regions).calls = .done d ∧
      d.Accounts engine options.dispatch file p.regions := by
  have hall : ∀ id < p.regions.length, id ∈ List.range p.regions.length :=
    fun _ => List.mem_range.mpr
  obtain ⟨hlength, heach⟩ := (dispatchIn_results_eq_ok_iff hall).mp h
  refine ⟨_, rfl, ?_, ?_, RegionReport.diagnostics_one_to_one file _, calls_dispatchIn hall⟩
  · rw [List.map_map]
    exact List.map_fst_zip hlength.ge
  · intro id report hreport
    obtain ⟨⟨r, result⟩, hzip, rfl⟩ := Option.map_eq_some_iff.mp (List.getElem?_map ▸ hreport)
    obtain ⟨hr, hresult⟩ := List.getElem?_zip_eq_some.mp hzip
    obtain ⟨result', hresult', hformat⟩ := heach id r hr
    obtain rfl := Option.some.inj (hresult'.symm.trans hresult)
    exact hformat

theorem exists_accounts_of_done {d : DoneDocument}
    (h : formatDocument engine limit options file t = .ok (.done d)) :
    ∃ p, Partition.build options.indentation (.ofText t) = .ok p ∧
      d.Accounts engine options.dispatch file p.regions := by
  obtain ⟨p, results, hp, hresults, hd⟩ := exists_results_of_done h
  obtain ⟨d', hd', haccounts⟩ := ofResults_accounts file hresults
  obtain rfl := Outcome.done.inj (hd'.symm.trans hd)
  exact ⟨p, hp, haccounts⟩

/-- A document that cannot be cut is aborted, with one diagnostic at the place of the error, and the
engine is not called. Any other is done as soon as there is something to report of every answer;
if it has no outcome, there is nothing to report of some answer. -/
theorem formatDocument_accounts (engine : Behaviour) (limit : PoolLimit)
    (options : PipelineOptions) (file t : Text) :
    let formatted := formatDocument engine limit options file t
    let answer (id : Nat) (r : Region) := engine.answer id (r.call options.dispatch)
    (∀ e, Partition.build options.indentation (.ofText t) = .error e →
      ∃ a, formatted = .ok (.aborted a) ∧
        a.diagnostics = [⟨file, e.line, e.column, e.kind.diagnostic, e.message⟩] ∧
        (Outcome.aborted a).calls = []) ∧
    ∀ p, Partition.build options.indentation (.ofText t) = .ok p →
      ((∃ outcome, formatted = .ok outcome) ↔
        ∀ (id : Nat) (r : Region), p.regions[id]? = some r → r.CanReport (answer id r)) ∧
      (∀ outcome, formatted = .ok outcome →
        ∃ d, outcome = .done d ∧ d.Accounts engine options.dispatch file p.regions) ∧
      ∀ e, formatted = .error e → ∃ id, ∃ r : Region, ∃ report, p.regions[id]? = some r ∧
        e = .report report ∧
        r.resultOf engine.name options.dispatch.timeout (answer id r) = .error report := by
  intro formatted answer
  refine ⟨fun e he => ⟨_, formatDocument_of_error he, rfl, rfl⟩, fun p hp => ?_⟩
  have hall : ∀ id < p.regions.length, id ∈ List.range p.regions.length :=
    fun _ => List.mem_range.mpr
  have heq : formatted = _ := formatDocument_eq hp
  cases hresults : (dispatch engine limit options.dispatch p.regions).results with
  | ok results =>
    obtain ⟨d, hd, haccounts⟩ := ofResults_accounts file hresults
    have hdone : formatted = .ok (.done d) := by
      rw [heq]
      simp only [hresults, ← hd]
      rfl
    refine ⟨iff_of_true ⟨_, hdone⟩ ?_, fun outcome h => ?_, fun e h => ?_⟩
    · exact (Partition.exists_results_iff hp hall).mp ⟨results, hresults⟩
    · cases hdone.symm.trans h
      exact ⟨d, rfl, haccounts⟩
    · cases hdone.symm.trans h
  | error report =>
    have hfailed : formatted = .error (.report report) := by
      rw [heq]
      simp only [hresults]
      rfl
    obtain ⟨id, r, hr, he⟩ := exists_error_of_dispatchIn hall hresults
    refine ⟨iff_of_false ?_ fun hcan => ?_, fun outcome h => ?_, fun e h => ?_⟩
    · rintro ⟨outcome, h⟩
      cases hfailed.symm.trans h
    · obtain ⟨results, hsome⟩ := (Partition.exists_results_iff hp hall).mpr hcan
      cases hresults.symm.trans hsome
    · cases hfailed.symm.trans h
    · cases hfailed.symm.trans h
      exact ⟨id, r, report, hr, rfl, he⟩

/-- Of two statements one fails to parse and one is not answered: the document is done all the same.
A statement without code keeps its document from being cut. -/
theorem formatDocument_accounts_statements :
    let engine : Behaviour := ⟨text "engine", fun id _ =>
      if id = 0 then .error (.syntaxError (text "invalid syntax") 1 1) else .silence none⟩
    let options : PipelineOptions := ⟨⟨.ofNat 88, .ofNat 1000, .ofNat 1000⟩, ⟨.reject, 8⟩⟩
    let formatted := formatDocument engine ⟨1, Nat.le_refl 1⟩ options (text "a.rpy")
    (∃ p d, Partition.build options.indentation (.ofText (text "$ a\n$ b\n")) = .ok p ∧
      p.regions.length = 2 ∧ formatted (text "$ a\n$ b\n") = .ok (.done d) ∧
      d.Accounts engine options.dispatch (text "a.rpy") p.regions) ∧
    ∃ a, formatted (text "$\n") = .ok (.aborted a) ∧
      a.diagnostics.map (·.kind) = [.malformedIntroducer] := by
  intro engine options formatted
  constructor
  · have hlength : (Partition.build options.indentation (.ofText (text "$ a\n$ b\n"))).map
        (fun p => p.regions.length) = .ok 2 := by cbv
    obtain ⟨p, hp, hlength⟩ := map_eq_ok_iff.mp hlength
    have haccounts := (formatDocument_accounts engine ⟨1, Nat.le_refl 1⟩ options (text "a.rpy")
      (text "$ a\n$ b\n")).2 p hp
    obtain ⟨outcome, houtcome⟩ := haccounts.1.mpr fun id r _ => by
      by_cases hid : id = 0 <;> simp [engine, hid, Region.CanReport, Region.Reports]
    obtain ⟨d, rfl, hd⟩ := haccounts.2.1 outcome houtcome
    exact ⟨p, d, hp, hlength, houtcome, hd⟩
  · have hbuild : Partition.build options.indentation (.ofText (text "$\n")) =
        .error ⟨.introducer .missingCode, 1, 1⟩ := by cbv
    obtain ⟨a, ha, hdiagnostics, -⟩ := (formatDocument_accounts engine ⟨1, Nat.le_refl 1⟩ options
      (text "a.rpy") (text "$\n")).1 _ hbuild
    exact ⟨a, ha, by rw [hdiagnostics]; rfl⟩

end

end Inlay
