import Inlay.Dispatch
import Inlay.Proofs.Cleaning
import Inlay.Proofs.Slots

/-!
# Regions on their own

The results of a document are those of its regions one by one, whatever the limit and in whatever
order answers come (`dispatchIn_results_eq_ok_iff`), as long as there is something to report of
every failure. Which answers leave a region formatted is said of the answer alone
(`Region.Accepts`).
-/

namespace Inlay

open CodeUnit

section

variable {t a b : Text} {u : CodeUnit} {r : Region} {output code : Text}

-- ---------------------------------------------------------------------------
-- Output that fits
-- ---------------------------------------------------------------------------

namespace Text

theorem unifyBreaks_cons (h : u ≠ carriageReturn) : unifyBreaks (u :: t) = u :: unifyBreaks t := by
  cases t <;> simp [unifyBreaks, h]

theorem unifyBreaks_append_cons (hu : u.isBlank = false) :
    unifyBreaks (a ++ u :: b) = unifyBreaks a ++ u :: unifyBreaks b := by
  have hcr : u ≠ carriageReturn := by rintro rfl; exact absurd hu (by decide)
  have hlf : u ≠ lineFeed := by rintro rfl; exact absurd hu (by decide)
  fun_induction unifyBreaks a with
  | case1 => simp [unifyBreaks_cons hcr]
  | case2 behind ih => simp [unifyBreaks, ih]
  | case3 v behind hv ih => simpa [unifyBreaks, hv] using ih
  | case4 => simp [unifyBreaks, unifyBreaks_cons hcr, hlf]
  | case5 v rest hv ih => simp [unifyBreaks_cons hv, ih]

theorem isBlank_unifyBreaks (t : Text) : isBlank (unifyBreaks t) = isBlank t := by
  have hcr := isBlank_carriageReturn
  have hlf := isBlank_lineFeed
  unfold isBlank
  fun_induction unifyBreaks t <;> simp_all

theorem lineFeed_mem_unifyBreaks_iff : lineFeed ∈ unifyBreaks t ↔ ¬ t.Unbroken := by
  unfold Unbroken
  fun_induction unifyBreaks t with
  | case1 => simp
  | case2 behind ih => simp
  | case3 v behind hv ih => simp
  | case4 => simp
  | case5 v rest hv ih =>
    rw [List.mem_cons, ih, List.forall_mem_cons]
    by_cases hlf : v = lineFeed
    · simp [hlf]
    · simp [hlf, hv, Ne.symm hlf]

theorem exists_last_of_not_isBlank (h : t.isBlank = false) :
    ∃ before u after, t = before ++ u :: after ∧ u.isBlank = false ∧ isBlank after := by
  obtain ⟨after, ht, hafter⟩ := dropEndWhile_append_dropped CodeUnit.isBlank t
  have hne : trimEnd t ≠ [] := fun hnil => Bool.eq_false_iff.mp h (trimEnd_eq_nil_iff.mp hnil)
  obtain ⟨u, hu⟩ := Option.ne_none_iff_exists'.mp (mt List.getLast?_eq_none_iff.mp hne)
  obtain ⟨before, hbefore⟩ := List.getLast?_eq_some_iff.mp hu
  refine ⟨before, u, after, ?_, getLast?_dropEndWhile hu, hafter⟩
  conv_lhs => rw [ht]
  change trimEnd t ++ after = _
  rw [hbefore, List.append_assoc, List.singleton_append]

theorem trimEnd_unifyBreaks (hu : u.isBlank = false) (hb : isBlank b) :
    trimEnd (unifyBreaks (a ++ u :: b)) = unifyBreaks a ++ [u] := by
  rw [unifyBreaks_append_cons hu, ← List.singleton_append]
  exact trimEnd_append rfl hu (by rwa [isBlank_unifyBreaks])

end Text

namespace Region

/-- An answer that leaves a region formatted: output that is not blank. For a statement no break may
stand before its last unit that is not blank. -/
def Accepts (r : Region) (answer : Answer) : Prop :=
  ∃ before u after, answer = .output (before ++ u :: after) ∧ u.isBlank = false ∧
    Text.isBlank after ∧ (r.isStatement → Text.Unbroken before)

theorem clean_append (hu : u.isBlank = false) (hb : Text.isBlank b) :
    r.clean (a ++ u :: b) =
      if r.isStatement ∧ ¬ a.Unbroken then .error .manyLines
      else .ok (Text.unifyBreaks a ++ [u] ++ [lineFeed]) := by
  have hlf : u ≠ lineFeed := by rintro rfl; exact absurd hu (by decide)
  have hmem : lineFeed ∈ Text.unifyBreaks a ++ [u] ↔ ¬ a.Unbroken := by
    rw [List.mem_append, List.mem_singleton, Text.lineFeed_mem_unifyBreaks_iff]
    exact or_iff_left hlf.symm
  simp only [clean, cleanOutput, Text.trimEnd_unifyBreaks hu hb, ← hmem]
  simp

theorem clean_of_isBlank (hcode : Text.isBlank r.code = false) (h : output.isBlank) :
    r.clean output = .error .empty := by
  have htrim : Text.trimEnd (Text.unifyBreaks output) = [] := by
    rwa [Text.trimEnd_eq_nil_iff, Text.isBlank_unifyBreaks]
  simp [clean, cleanOutput, htrim, hcode]

theorem clean_eq_ok_iff_last (hcode : Text.isBlank r.code = false) :
    r.clean output = .ok code ↔ ∃ before u after, output = before ++ u :: after ∧
      u.isBlank = false ∧ Text.isBlank after ∧ (r.isStatement → Text.Unbroken before) ∧
      code = Text.unifyBreaks before ++ [u, lineFeed] := by
  constructor
  · intro h
    cases hblank : output.isBlank with
    | true => simp [clean_of_isBlank hcode hblank] at h
    | false =>
      obtain ⟨before, u, after, rfl, hu, hafter⟩ := Text.exists_last_of_not_isBlank hblank
      rw [clean_append hu hafter] at h
      split at h
      · cases h
      · next hkept =>
        cases h
        exact ⟨before, u, after, rfl, hu, hafter,
          fun hs => not_not.mp fun hbroken => hkept ⟨hs, hbroken⟩, by simp⟩
  · rintro ⟨before, u, after, rfl, hu, hafter, hs, rfl⟩
    rw [clean_append hu hafter, if_neg fun hbroken => hbroken.2 (hs hbroken.1)]
    simp

theorem clean_eq_ok_iff (hcode : Text.isBlank r.code = false) :
    (∃ code, r.clean output = .ok code) ↔ r.Accepts (.output output) := by
  constructor
  · rintro ⟨code, h⟩
    obtain ⟨before, u, after, rfl, hu, hafter, hs, -⟩ := (clean_eq_ok_iff_last hcode).mp h
    exact ⟨before, u, after, rfl, hu, hafter, hs⟩
  · rintro ⟨before, u, after, heq, hu, hafter, hs⟩
    cases heq
    exact ⟨_, (clean_eq_ok_iff_last hcode).mpr ⟨before, u, after, rfl, hu, hafter, hs, rfl⟩⟩

-- ---------------------------------------------------------------------------
-- Failures that can be reported
-- ---------------------------------------------------------------------------

/-- Something can be reported of a failure: it has a text, and its place, if it has one, is on a
line of the code or beyond all of them. -/
def Reports (r : Region) : EngineError → Prop
  | .syntaxError _ line _ => line.den = 1 ∨ line < 1 ∨ r.lines.length < line
  | .failure _ => True
  | .other _ => True
  | .textless _ => False

/-- Something can be reported of an answer, if it is a failure. -/
def CanReport (r : Region) : Answer → Prop
  | .output _ => True
  | .error error => r.Reports error
  | .silence cancelled => ∀ error ∈ cancelled, r.Reports error

theorem lineAt?_isSome_iff {line : Rat} (hlines : r.lines ≠ []) :
    (r.lineAt? line).isSome ↔ line.den = 1 ∨ line < 1 ∨ r.lines.length < line := by
  have hpos : 0 < r.lines.length := List.length_pos_iff.mpr hlines
  unfold lineAt?
  dsimp only
  split
  · next hfirst => simp [hfirst, hpos]
  · split
    · next hlast => simp [hlast, hpos]
    · next hfirst hlast =>
      split
      · next hden =>
        have hle : line.num ≤ r.lines.length := by
          have hle := not_lt.mp hlast
          rw [← Rat.coe_int_num_of_den_eq_one hden] at hle
          exact_mod_cast hle
        rw [List.getElem?_eq_getElem (by omega)]
        simp [hden]
      · next hden => simp [hfirst, hlast, hden]

theorem failureOf_isOk_iff {error : EngineError} (hlines : r.lines ≠ []) :
    (∃ failure, r.failureOf error = .ok failure) ↔ r.Reports error := by
  cases error with
  | syntaxError message line column =>
    rw [Reports, ← lineAt?_isSome_iff hlines, failureOf, toDocument?]
    cases r.lineAt? line <;> simp
  | failure failure => simp [Reports, failureOf]
  | other message => simp [Reports, failureOf]
  | textless complaint => simp [Reports, failureOf]

section

variable {engine : Text} {timeout : Number} {answer : Answer} {result : RegionResult}

theorem resultOf_isOk_iff (hlines : r.lines ≠ []) :
    (∃ result, r.resultOf engine timeout answer = .ok result) ↔ r.CanReport answer := by
  have hmap : ∀ error, (∃ result, (r.failureOf error).map RegionResult.failed = .ok result) ↔
      r.Reports error := fun error => by
    rw [← failureOf_isOk_iff hlines]
    cases r.failureOf error <;> simp [Except.map]
  rcases answer with output | error | _ | error
  · simp only [resultOf, CanReport, iff_true]
    split <;> exact ⟨_, rfl⟩
  · exact hmap error
  · simp [resultOf, CanReport]
  · rw [resultOf, hmap]
    simp [CanReport]

theorem clean_of_resultOf {code : Text}
    (h : r.resultOf engine timeout answer = .ok (.formatted code)) :
    ∃ output, answer = .output output ∧ r.clean output = .ok code := by
  have hfailed : ∀ error : EngineError,
      (r.failureOf error).map RegionResult.failed ≠ .ok (.formatted code) := by
    intro error hmap
    obtain ⟨failure, -, heq⟩ := map_eq_ok_iff.mp hmap
    cases heq
  rcases answer with output | error | _ | error
  · rw [resultOf] at h
    cases hclean : r.clean output with
    | ok cleaned =>
      rw [hclean] at h
      cases h
      exact ⟨output, rfl, hclean⟩
    | error problem =>
      rw [hclean] at h
      cases h
  · exact absurd h (hfailed error)
  · cases h
  · exact absurd h (hfailed error)

theorem resultOf_formatted_iff (hcode : Text.isBlank r.code = false)
    (h : r.resultOf engine timeout answer = .ok result) :
    (∃ code, result = .formatted code) ↔ r.Accepts answer := by
  constructor
  · rintro ⟨code, rfl⟩
    obtain ⟨output, rfl, hclean⟩ := clean_of_resultOf h
    exact (clean_eq_ok_iff hcode).mp ⟨code, hclean⟩
  · intro haccepts
    obtain ⟨before, u, after, rfl, -⟩ := id haccepts
    obtain ⟨code, hclean⟩ := (clean_eq_ok_iff hcode).mpr haccepts
    rw [resultOf, hclean] at h
    cases h
    exact ⟨code, rfl⟩

end

end Region

end

-- ---------------------------------------------------------------------------
-- All regions
-- ---------------------------------------------------------------------------

theorem filterMap_range (f : α → β) (as : List α) :
    (List.range as.length).filterMap (fun i => as[i]?.map f) = as.map f := by
  induction as with
  | nil => rfl
  | cons a as ih => simpa [List.range_succ_eq_map, List.filterMap_map, Function.comp_def] using ih

section

variable {ids : List Nat} {count : Nat} {outcome : Nat → Except ε α} {as : List α} {e : ε}

theorem gather_of_ok {value : Nat → α} (hids : ids.Perm (List.range count))
    (h : ∀ id < count, outcome id = .ok (value id)) :
    gather count (ids.map fun id => (id, outcome id)) = .ok ((List.range count).map value) := by
  refine bind_eq_ok_iff.mpr ⟨ids.map fun id => (id, value id), ?_, pure_eq_ok_iff.mpr ?_⟩
  · rw [mapM_eq_ok_iff, List.forall₂_map_left_iff, List.forall₂_map_right_iff, List.forall₂_same]
    intro id hid
    rw [h id (List.mem_range.mp (hids.mem_iff.mp hid))]
    rfl
  · refine Eq.trans ?_ (congrFun List.filterMap_eq_map _)
    exact List.filterMap_congr fun id hm => List.lookup_graph value (hids.mem_iff.mpr hm)

theorem exists_ok_of_gather {id : Nat} (hids : ids.Perm (List.range count))
    (h : gather count (ids.map fun id => (id, outcome id)) = .ok as) (hid : id < count) :
    ∃ a, outcome id = .ok a := by
  obtain ⟨gathered, hm, -⟩ := bind_eq_ok_iff.mp h
  rw [mapM_eq_ok_iff, List.forall₂_map_left_iff] at hm
  obtain ⟨entry, -, hentry⟩ :=
    exists_mem_of_forall₂ hm.flip (hids.mem_iff.mpr (List.mem_range.mpr hid))
  obtain ⟨a, ha, -⟩ := map_eq_ok_iff.mp hentry
  exact ⟨a, ha⟩

/-- Tasks that all have results have them in their order, in whatever order they settled. -/
theorem gather_eq_ok_iff [Nonempty α] (hids : ids.Perm (List.range count)) :
    gather count (ids.map fun id => (id, outcome id)) = .ok as ↔
      as.length = count ∧ ∀ id < count, ∃ a, as[id]? = some a ∧ outcome id = .ok a := by
  constructor
  · intro h
    have hvalues : ∀ id, ∃ a, id < count → outcome id = .ok a := by
      intro id
      by_cases hid : id < count
      · obtain ⟨a, ha⟩ := exists_ok_of_gather hids h hid
        exact ⟨a, fun _ => ha⟩
      · exact ⟨Classical.arbitrary α, fun hlt => absurd hlt hid⟩
    choose value hvalue using hvalues
    obtain rfl := Except.ok.inj ((gather_of_ok hids hvalue).symm.trans h)
    exact ⟨by simp, fun id hid => ⟨value id, by simp [hid], hvalue id hid⟩⟩
  · rintro ⟨rfl, h⟩
    have hvalue : ∀ id < as.length, outcome id = .ok (as[id]?.getD (Classical.arbitrary α)) := by
      intro id hid
      obtain ⟨a, ha, houtcome⟩ := h id hid
      rw [houtcome, ha]
      rfl
    rw [gather_of_ok hids hvalue]
    congr 1
    exact List.ext_getElem (by simp) fun id _ hlt => by simp [hlt]

theorem exists_of_gather_eq_error (hids : ids.Perm (List.range count))
    (h : gather count (ids.map fun id => (id, outcome id)) = .error e) :
    ∃ id < count, outcome id = .error e := by
  rw [gather] at h
  cases hm : (ids.map fun id => (id, outcome id)).mapM fun (id, result) => result.map (id, ·) with
  | ok gathered =>
    rw [hm] at h
    cases h
  | error e' =>
    rw [hm] at h
    cases h
    obtain ⟨⟨id, result⟩, hmem, hmap⟩ := exists_mem_of_mapM_eq_error hm
    obtain ⟨id, hid, heq⟩ := List.mem_map.mp hmem
    cases heq
    refine ⟨id, List.mem_range.mp (hids.mem_iff.mp hid), ?_⟩
    cases houtcome : outcome id with
    | ok result =>
      rw [houtcome] at hmap
      cases hmap
    | error e' =>
      rw [houtcome] at hmap
      cases hmap
      rfl

end

section

variable {order ids started : List Nat} {engine : Behaviour} {limit : PoolLimit}
  {options : DispatchOptions} {regions : List Region} {results : List RegionResult}
  {outcome : Nat → Except ReportError RegionResult} {e : ReportError}

instance : Nonempty RegionResult := ⟨.formatted []⟩

theorem exists_outcome (engine : Behaviour) (options : DispatchOptions) (regions : List Region) :
    ∃ outcome : Nat → Except ReportError RegionResult, ∀ (id : Nat) (r : Region),
      regions[id]? = some r → r.format engine options id = outcome id :=
  ⟨fun id => (regions[id]?.map (Region.format engine options id)).getD (.ok (.formatted [])),
    fun id r hr => by simp [hr]⟩

namespace Dispatched

theorem calls_ofTasks_range {settled : List (Nat × Except ReportError RegionResult)} :
    (ofTasks options regions (List.range regions.length) settled).calls =
      regions.map (Region.call options) := filterMap_range _ regions

theorem results_ofTasks_eq_ok_iff (hids : ids.Perm (List.range regions.length))
    (houtcome : ∀ id r, regions[id]? = some r → r.format engine options id = outcome id) :
    (ofTasks options regions started (ids.map fun id => (id, outcome id))).results = .ok results ↔
      results.length = regions.length ∧ ∀ (id : Nat) (r : Region), regions[id]? = some r →
        ∃ result, results[id]? = some result ∧ r.format engine options id = .ok result := by
  refine (gather_eq_ok_iff hids).trans (and_congr_right fun _ => ?_)
  constructor
  · intro h id r hr
    rw [houtcome id r hr]
    exact h id (List.getElem?_eq_some_iff.mp hr).1
  · intro h id hid
    have hr := List.getElem?_eq_getElem hid
    rw [← houtcome id _ hr]
    exact h id _ hr

theorem exists_error_of_ofTasks (hids : ids.Perm (List.range regions.length))
    (houtcome : ∀ id r, regions[id]? = some r → r.format engine options id = outcome id)
    (h : (ofTasks options regions started (ids.map fun id => (id, outcome id))).results =
      .error e) :
    ∃ id, ∃ r : Region, regions[id]? = some r ∧ r.format engine options id = .error e := by
  obtain ⟨id, hid, he⟩ := exists_of_gather_eq_error hids h
  have hr := List.getElem?_eq_getElem hid
  exact ⟨id, _, hr, (houtcome id _ hr).trans he⟩

end Dispatched

/-- Regions go through a pool by these steps: all are submitted, and then their answers come. -/
def dispatchSteps (order : List Nat) (engine : Behaviour) (options : DispatchOptions)
    (regions : List Region) : List (Pool.Step Nat (Except ReportError RegionResult)) :=
  (List.range regions.length).map .submit ++
    order.filterMap fun id => regions[id]?.map fun r => .openGate id (r.format engine options id)

theorem submitted_dispatchSteps :
    Pool.submitted (dispatchSteps order engine options regions) = List.range regions.length := by
  have hopens : Pool.submitted (order.filterMap fun id => regions[id]?.map fun r =>
      Pool.Step.openGate id (r.format engine options id)) = [] := by
    simp [Pool.submitted, List.filterMap_filterMap, Pool.Step.submitted?]
  rw [dispatchSteps, Pool.submitted, List.filterMap_append]
  change _ ++ Pool.submitted _ = _
  rw [hopens, List.append_nil, List.filterMap_map]
  exact List.filterMap_some

theorem opened?_dispatchSteps {id : Nat} {r : Region} (hr : regions[id]? = some r)
    (hid : id ∈ order) :
    Pool.opened? (dispatchSteps order engine options regions) id =
      some (r.format engine options id) := by
  have hgate : ∀ step ∈ dispatchSteps order engine options regions, ∀ o,
      step.opened? id = some o → o = r.format engine options id := by
    intro step hm o ho
    rcases List.mem_append.mp hm with hm | hm
    · obtain ⟨id', -, rfl⟩ := List.mem_map.mp hm
      cases ho
    · obtain ⟨id', -, hstep⟩ := List.mem_filterMap.mp hm
      obtain ⟨r', hr', rfl⟩ := Option.map_eq_some_iff.mp hstep
      obtain ⟨rfl, heq⟩ := Option.ite_none_right_eq_some.mp ho
      rw [← Option.some.inj heq, Option.some.inj (hr'.symm.trans hr)]
  have hopens : Pool.Step.openGate id (r.format engine options id) ∈
      dispatchSteps order engine options regions :=
    List.mem_append_right _ (List.mem_filterMap.mpr ⟨id, hid, by rw [hr]; rfl⟩)
  cases hopened : Pool.opened? (dispatchSteps order engine options regions) id with
  | none =>
    have hnone := List.findSome?_eq_none_iff.mp hopened _ hopens
    simp [Pool.Step.opened?] at hnone
  | some o =>
    obtain ⟨step, hm, ho⟩ := List.exists_of_findSome?_eq_some hopened
    rw [hgate step hm o ho]

theorem run_dispatchSteps :
    (Pool.empty limit).run (dispatchSteps order engine options regions) =
      order.foldl (fun pool id =>
        match regions[id]? with
        | some region => pool.openGate id (region.format engine options id)
        | none => pool) ((List.range regions.length).foldl Pool.submit (Pool.empty limit)) := by
  rw [dispatchSteps, Pool.run, List.foldl_append, List.foldl_map, List.foldl_filterMap]
  congr 1
  funext pool id
  cases regions[id]? <;> rfl

theorem dispatchIn_eq_run :
    dispatchIn order engine limit options regions =
      let settled := (Pool.empty limit).run (dispatchSteps order engine options regions)
      .ofTasks options regions settled.started settled.settled := by
  rw [run_dispatchSteps]
  rfl

/-- The tasks of the regions start in order, and settle with the outcomes of the regions in some
order. -/
theorem dispatchIn_eq (limit : PoolLimit) (hall : ∀ id < regions.length, id ∈ order)
    (houtcome : ∀ id r, regions[id]? = some r → r.format engine options id = outcome id) :
    ∃ ids : List Nat, ids.Perm (List.range regions.length) ∧
      dispatchIn order engine limit options regions =
        .ofTasks options regions (List.range regions.length)
          (ids.map fun id => (id, outcome id)) := by
  have hopen : ∀ id ∈ Pool.submitted (dispatchSteps order engine options regions),
      Pool.opened? (dispatchSteps order engine options regions) id = some (outcome id) := by
    intro id hm
    rw [submitted_dispatchSteps, List.mem_range] at hm
    have hr : regions[id]? = some regions[id] := List.getElem?_eq_getElem hm
    rw [opened?_dispatchSteps hr (hall id hm), houtcome id _ hr]
  obtain ⟨hstarted, ids, hids, hsettled⟩ := Pool.settled_of_opened limit hopen
  rw [submitted_dispatchSteps] at hstarted hids
  refine ⟨ids, hids, ?_⟩
  rw [dispatchIn_eq_run, ← hstarted, ← hsettled]

theorem calls_dispatchIn (hall : ∀ id < regions.length, id ∈ order) :
    (dispatchIn order engine limit options regions).calls = regions.map (Region.call options) := by
  obtain ⟨outcome, houtcome⟩ := exists_outcome engine options regions
  obtain ⟨ids, -, heq⟩ := dispatchIn_eq limit hall houtcome
  rw [heq, Dispatched.calls_ofTasks_range]

theorem dispatchIn_results_eq_ok_iff (hall : ∀ id < regions.length, id ∈ order) :
    (dispatchIn order engine limit options regions).results = .ok results ↔
      results.length = regions.length ∧ ∀ (id : Nat) (r : Region), regions[id]? = some r →
        ∃ result, results[id]? = some result ∧ r.format engine options id = .ok result := by
  obtain ⟨outcome, houtcome⟩ := exists_outcome engine options regions
  obtain ⟨ids, hids, heq⟩ := dispatchIn_eq limit hall houtcome
  rw [heq, Dispatched.results_ofTasks_eq_ok_iff hids houtcome]

theorem exists_error_of_dispatchIn (hall : ∀ id < regions.length, id ∈ order)
    (h : (dispatchIn order engine limit options regions).results = .error e) :
    ∃ id, ∃ r : Region, regions[id]? = some r ∧ r.format engine options id = .error e := by
  obtain ⟨outcome, houtcome⟩ := exists_outcome engine options regions
  obtain ⟨ids, hids, heq⟩ := dispatchIn_eq limit hall houtcome
  exact Dispatched.exists_error_of_ofTasks hids houtcome (heq ▸ h)

end

-- ---------------------------------------------------------------------------
-- The regions of a document
-- ---------------------------------------------------------------------------

namespace Partition

variable {indentation : Indentation} {t : Text} {p : Partition} {r : Region} {order : List Nat}
  {engine : Behaviour} {limit : PoolLimit} {options : DispatchOptions}

theorem lines_ne_nil (h : build indentation (.ofText t) = .ok p) (hr : r ∈ p.regions) :
    r.lines ≠ [] := by
  cases hs : r.isStatement with
  | true =>
    obtain ⟨line, s, column, start, stop, -, rfl⟩ := statement_of_mem h hr hs
    exact List.cons_ne_nil _ _
  | false =>
    obtain ⟨above, line, header, body, blanks, left, -, he, ht⟩ := block_of_mem h hr hs
    rw [← List.length_pos_iff, ht.length_lines]
    exact List.length_pos_iff.mpr he.ne_nil

theorem exists_results_iff (h : build indentation (.ofText t) = .ok p)
    (hall : ∀ id < p.regions.length, id ∈ order) :
    (∃ results, (dispatchIn order engine limit options p.regions).results = .ok results) ↔
      ∀ (id : Nat) (r : Region), p.regions[id]? = some r →
        r.CanReport (engine.answer id (r.call options)) := by
  have hreport : ∀ (id : Nat) (r : Region), p.regions[id]? = some r →
      ((∃ result, r.format engine options id = .ok result) ↔
        r.CanReport (engine.answer id (r.call options))) :=
    fun id r hr => Region.resultOf_isOk_iff (lines_ne_nil h (List.mem_of_getElem? hr))
  constructor
  · rintro ⟨results, hresults⟩ id r hr
    obtain ⟨result, -, hresult⟩ := ((dispatchIn_results_eq_ok_iff hall).mp hresults).2 id r hr
    exact (hreport id r hr).mp ⟨result, hresult⟩
  · intro hcan
    cases hresults : (dispatchIn order engine limit options p.regions).results with
    | ok results => exact ⟨results, rfl⟩
    | error e =>
      obtain ⟨id, r, hr, he⟩ := exists_error_of_dispatchIn hall hresults
      obtain ⟨result, hresult⟩ := (hreport id r hr).mpr (hcan id r hr)
      cases hresult.symm.trans he

/-- Whatever the limit and in whatever order answers come, every region of a document is called for
once and in order, and has the result that its answer makes of it, if there is something to report
of every answer. The formatted ones are those with an output that fits. If there are no results,
there is nothing to report of some answer. -/
theorem dispatchIn_isolates (h : build indentation (.ofText t) = .ok p)
    (hall : ∀ id < p.regions.length, id ∈ order) (engine : Behaviour) (limit : PoolLimit)
    (options : DispatchOptions) :
    let dispatched := dispatchIn order engine limit options p.regions
    let answer (id : Nat) (r : Region) := engine.answer id (r.call options)
    dispatched.calls = p.regions.map (Region.call options) ∧
      ((∃ results, dispatched.results = .ok results) ↔
        ∀ (id : Nat) (r : Region), p.regions[id]? = some r → r.CanReport (answer id r)) ∧
      (∀ results, dispatched.results = .ok results →
        results.length = p.regions.length ∧ ∀ (id : Nat) (r : Region), p.regions[id]? = some r →
          ∃ result, results[id]? = some result ∧
            r.resultOf engine.name options.timeout (answer id r) = .ok result ∧
            ((∃ code, result = .formatted code) ↔ r.Accepts (answer id r))) ∧
      ∀ e, dispatched.results = .error e → ∃ id, ∃ r : Region, p.regions[id]? = some r ∧
        r.resultOf engine.name options.timeout (answer id r) = .error e := by
  intro dispatched answer
  refine ⟨calls_dispatchIn hall, exists_results_iff h hall, ?_, ?_⟩
  · intro results hresults
    obtain ⟨hlength, heach⟩ := (dispatchIn_results_eq_ok_iff hall).mp hresults
    refine ⟨hlength, fun id r hr => ?_⟩
    obtain ⟨result, hresult, hformat⟩ := heach id r hr
    have hcode := isBlank_code h (List.mem_of_getElem? hr)
    exact ⟨result, hresult, hformat, Region.resultOf_formatted_iff hcode hformat⟩
  · intro e he
    exact exists_error_of_dispatchIn hall he

/-- Of two statements the first is answered last, and not at all or with an error that has no text:
the second is formatted in the one case, and lost in the other. -/
theorem dispatchIn_isolates_two_statements :
    let engine (first : Answer) : Behaviour :=
      ⟨text "engine", fun id _ => if id = 0 then first else .output (text "b\n")⟩
    let options : DispatchOptions := ⟨.ofNat 88, .ofNat 1000, .ofNat 1000⟩
    let dispatched (first : Answer) (p : Partition) :=
      dispatchIn [1, 0] (engine first) ⟨1, Nat.le_refl 1⟩ options p.regions
    ∃ p, build ⟨.reject, 8⟩ (.ofText (text "$ a\n$ b\n")) = .ok p ∧
      (∀ id < p.regions.length, id ∈ [1, 0]) ∧
      (∃ results code, (dispatched (.silence none) p).results = .ok results ∧
        results[1]? = some (.formatted code)) ∧
      ¬ ∃ results, (dispatched (.error (.textless [])) p).results = .ok results := by
  intro engine options dispatched
  have hlength : (build ⟨.reject, 8⟩ (.ofText (text "$ a\n$ b\n"))).map
      (fun p => p.regions.length) = .ok 2 := by cbv
  obtain ⟨p, hp, hlength⟩ := map_eq_ok_iff.mp hlength
  have hall : ∀ id < p.regions.length, id ∈ [1, 0] := by
    rw [hlength]
    decide
  have hfirst : p.regions[0]? = some p.regions[0] := List.getElem?_eq_getElem (by omega)
  have hsecond : p.regions[1]? = some p.regions[1] := List.getElem?_eq_getElem (by omega)
  refine ⟨p, hp, hall, ?_, fun hresults => ?_⟩
  · have hisolates :=
      dispatchIn_isolates hp hall (engine (.silence none)) ⟨1, Nat.le_refl 1⟩ options
    obtain ⟨results, hresults⟩ := hisolates.2.1.mpr fun id r _ => by
      by_cases hid : id = 0 <;> simp [engine, hid, Region.CanReport]
    obtain ⟨result, hresult, -, hformatted⟩ := (hisolates.2.2.1 results hresults).2 1 _ hsecond
    obtain ⟨code, rfl⟩ := hformatted.mpr
      ⟨[], CodeUnit.ofChar 'b', [CodeUnit.lineFeed], rfl, by decide, by decide, fun _ => by decide⟩
    exact ⟨results, code, hresults, hresult⟩
  · have hisolates :=
      dispatchIn_isolates hp hall (engine (.error (.textless []))) ⟨1, Nat.le_refl 1⟩ options
    exact hisolates.2.1.mp hresults 0 _ hfirst

end Partition

end Inlay
