import Inlay.Workers
import Mathlib.Data.List.Induction
import Mathlib.Data.List.Nodup
import Mathlib.Data.Rat.Floor

/-!
# Items that come to their end

Workers go through the items from the first on, whatever order they come to an end in
(`Workers.Run`). How many are being worked on follows from how many have come to an end, and the
whole settles with the values of all items or the first error (`Workers.run_settles`), which it
does once all gates are open (`Workers.openGates_settle`).
-/

namespace Inlay

-- ---------------------------------------------------------------------------
-- How many workers there are
-- ---------------------------------------------------------------------------

def truncated (q : Rat) : Int := if 0 ≤ q then ⌊q⌋ else ⌈q⌉

/-- How many workers a limit asks for: not more than there are items, and at least one. A missing
limit counts as one, and so does zero. -/
def cap (limit : Option Number) (items : Nat) : Int :=
  match limit with
  | none => max 1 (truncated (min 1 items))
  | some (.finite value) => max 1 (truncated (min (if value = 0 then 1 else value) items))
  | some (.infinite false) => max 1 items
  | some (.infinite true) => 1

theorem truncated_of_neg {q : Rat} (h : q < 0) : truncated q ≤ 0 := by
  rw [truncated, if_neg (not_le.mpr h)]
  exact Int.ceil_le.mpr (by exact_mod_cast h.le)

theorem truncated_min_of_nonneg {q : Rat} (h : 0 ≤ q) {items : Nat} :
    truncated (min q items) = min ⌊q⌋ items := by
  rw [truncated, if_pos (le_min h (Nat.cast_nonneg items)), Int.floor_mono.map_min,
    Int.floor_natCast]

theorem workerCount_eq_cap {limit : Option Number} {items : Nat} :
    (workerCount limit items : Int) = cap limit items := by
  have hone : truncated (min 1 items) = min 1 (items : Int) := by
    rw [truncated_min_of_nonneg (by decide), Int.floor_one]
  cases limit with
  | none =>
    rw [workerCount, cap, hone]
    omega
  | some limit =>
    cases limit with
    | infinite negative =>
      cases negative
      · simp [workerCount, cap]
      · rfl
    | finite value =>
      have hfloor : value.floor = ⌊value⌋ := rfl
      rw [workerCount, cap, hfloor]
      rcases lt_trichotomy value 0 with hneg | rfl | hpos
      · have hle := truncated_of_neg hneg
        have hlt : ⌊value⌋ < 0 := Int.floor_lt.mpr (by exact_mod_cast hneg)
        rw [if_neg hneg.ne, min_eq_left (hneg.le.trans (Nat.cast_nonneg items))]
        omega
      · rw [if_pos rfl, hone, Int.floor_zero]
        omega
      · have hnonneg : 0 ≤ ⌊value⌋ := Int.floor_nonneg.mpr hpos.le
        rw [if_neg hpos.ne', truncated_min_of_nonneg hpos.le]
        omega

theorem one_le_workerCount (limit : Option Number) (items : Nat) : 1 ≤ workerCount limit items := by
  unfold workerCount
  split
  · exact Nat.le_refl 1
  · exact Nat.le_max_left ..
  · split
    · exact Nat.le_refl 1
    · exact Nat.le_max_left ..

namespace Workers

variable {ε α : Type} {items workers turns item : Nat} {log more : List (Nat × Except ε α)}
  {w : Workers ε α} {value : α} {error : ε} {result : Except ε α}

-- ---------------------------------------------------------------------------
-- What came to its end
-- ---------------------------------------------------------------------------

def successes (log : List (Nat × Except ε α)) : List (Nat × α) :=
  log.filterMap fun
    | (item, .ok value) => some (item, value)
    | (_, .error _) => none

def failures (log : List (Nat × Except ε α)) : List (Nat × ε) :=
  log.filterMap fun
    | (_, .ok _) => none
    | (item, .error error) => some (item, error)

@[simp] theorem successes_append : successes (log ++ more) = successes log ++ successes more :=
  List.filterMap_append

@[simp] theorem failures_append : failures (log ++ more) = failures log ++ failures more :=
  List.filterMap_append

@[simp] theorem successes_ok : successes [(item, (.ok value : Except ε α))] = [(item, value)] := rfl

@[simp] theorem successes_error : successes [(item, (.error error : Except ε α))] = [] := rfl

@[simp] theorem failures_ok : failures [(item, (.ok value : Except ε α))] = [] := rfl

@[simp] theorem failures_error :
    failures [(item, (.error error : Except ε α))] = [(item, error)] := rfl

theorem length_successes_add (log : List (Nat × Except ε α)) :
    (successes log).length + (failures log).length = log.length := by
  induction log with
  | nil => rfl
  | cons first log ih =>
    obtain ⟨item, value | error⟩ := first <;>
      simp [successes, failures] at ih ⊢ <;> omega

theorem mem_of_mem_successes {x : Nat × α} (h : x ∈ successes log) : (x.1, .ok x.2) ∈ log := by
  obtain ⟨⟨item, value | error⟩, hm, heq⟩ := List.mem_filterMap.mp h
  · cases heq
  · cases heq
    exact hm

theorem mem_successes (h : (item, .ok value) ∈ log) : (item, value) ∈ successes log :=
  List.mem_filterMap.mpr ⟨_, h, rfl⟩

theorem mem_of_mem_failures {x : Nat × ε} (h : x ∈ failures log) : (x.1, .error x.2) ∈ log := by
  obtain ⟨⟨item, error | value⟩, hm, heq⟩ := List.mem_filterMap.mp h
  · cases heq
    exact hm
  · cases heq

theorem mem_failures (h : (item, .error error) ∈ log) : (item, error) ∈ failures log :=
  List.mem_filterMap.mpr ⟨_, h, rfl⟩

-- ---------------------------------------------------------------------------
-- Runs
-- ---------------------------------------------------------------------------

/-- The states that some workers come through, with the items that have come to an end, in that
order. Any item that is being worked on may come to an end next, and gates may open at any time. -/
inductive Run (items workers : Nat) : List (Nat × Except ε α) → Workers ε α → Prop
  | start : Run items workers [] (start items workers)
  | opens {log : List (Nat × Except ε α)} {w : Workers ε α} (gates : List (Nat × Except ε α)) :
    Run items workers log w → Run items workers log { w with gates := gates }
  | complete {log : List (Nat × Except ε α)} {w : Workers ε α} {item : Nat} (result : Except ε α) :
    Run items workers log w → item ∈ w.busy →
    Run items workers (log ++ [(item, result)]) (w.complete item result)

/-- A free worker has asked for an item so many times, and every item that was there was taken, in
order. Each came to its end or is being worked on. -/
structure Accounted (items turns : Nat) (log : List (Nat × Except ε α)) (w : Workers ε α) :
    Prop where
  total : w.items = items
  next : w.next = min items turns
  started : w.started = List.range w.next
  places : (log.map Prod.fst ++ w.busy).Perm w.started
  length : w.results.length = items
  results : ∀ x ∈ successes log, w.results[x.1]? = some (some x.2)
  failed : w.failed = failures log

namespace Accounted

theorem nodup (h : Accounted items turns log w) : (log.map Prod.fst ++ w.busy).Nodup := by
  rw [h.places.nodup_iff, h.started]
  exact List.nodup_range

theorem lt_of_mem (h : Accounted items turns log w) (hm : item ∈ log.map Prod.fst ++ w.busy) :
    item < items := by
  have hstarted := h.places.mem_iff.mp hm
  rw [h.started, List.mem_range, h.next] at hstarted
  exact Nat.lt_of_lt_of_le hstarted (Nat.min_le_left ..)

theorem lt_of_mem_busy (h : Accounted items turns log w) (hm : item ∈ w.busy) : item < items :=
  h.lt_of_mem (List.mem_append_right _ hm)

theorem lt_of_mem_log (h : Accounted items turns log w) {x : Nat × Except ε α} (hx : x ∈ log) :
    x.1 < items :=
  h.lt_of_mem (List.mem_append_left _ (List.mem_map_of_mem hx))

theorem length_add (h : Accounted items turns log w) :
    log.length + w.busy.length = min items turns := by
  have hlength := h.places.length_eq
  rw [h.started, List.length_range, h.next, List.length_append, List.length_map] at hlength
  exact hlength

theorem idle : Accounted items 0 [] (idle items : Workers ε α) where
  total := rfl
  next := (Nat.min_zero _).symm
  started := rfl
  places := .nil
  length := List.length_replicate
  results := by simp [successes]
  failed := rfl

theorem takeNext (h : Accounted items turns log w) :
    Accounted items (turns + 1) log w.takeNext := by
  have hnext := h.next
  have hitems := h.total
  unfold Workers.takeNext
  split
  · next hlt =>
    exact { h with
      next := by dsimp only; omega
      started := by simp [h.started, List.range_succ]
      places := by
        rw [← List.append_assoc]
        exact h.places.append_right [w.next] }
  · next hlt => exact { h with next := by omega }

theorem start : Accounted items workers [] (start items workers : Workers ε α) := by
  induction workers with
  | zero => exact idle
  | succ workers ih => exact ih.takeNext

theorem places_erase (h : Accounted items turns log w) (hm : item ∈ w.busy) :
    ((log ++ [(item, result)]).map Prod.fst ++ w.busy.erase item).Perm w.started := by
  rw [List.map_append, List.append_assoc]
  exact ((List.perm_cons_erase hm).symm.append_left _).trans h.places

theorem finish (h : Accounted items turns log w) (hm : item ∈ w.busy) :
    Accounted items (turns + 1) (log ++ [(item, .ok value)]) (w.finish item value) := by
  -- an item that is being worked on has no value, so none is lost
  have hnew : ∀ x ∈ successes log, item ≠ x.1 := by
    rintro x hx rfl
    have hended : x.1 ∈ log.map Prod.fst := List.mem_map_of_mem (mem_of_mem_successes hx)
    exact (List.disjoint_of_nodup_append h.nodup) hended hm
  have hlt : item < w.results.length := h.length ▸ h.lt_of_mem_busy hm
  refine Accounted.takeNext { h with
    places := h.places_erase hm
    length := (List.length_set ..).trans h.length
    results := fun x hx => ?_
    failed := by simp [h.failed] }
  rw [successes_append, successes_ok] at hx
  rcases List.mem_append.mp hx with hx | hx
  · exact (List.getElem?_set_ne (hnew x hx)).trans (h.results x hx)
  · obtain rfl := List.mem_singleton.mp hx
    exact List.getElem?_set_self hlt

theorem fail (h : Accounted items turns log w) (hm : item ∈ w.busy) :
    Accounted items turns (log ++ [(item, .error error)]) (w.fail item error) :=
  { h with
    places := h.places_erase hm
    results := by simpa [Workers.fail] using h.results
    failed := by simp [Workers.fail, h.failed] }

end Accounted

theorem Run.accounted (h : Run items workers log w) :
    Accounted items (workers + (successes log).length) log w := by
  induction h with
  | start => exact .start
  | opens _ _ ih => exact { ih with }
  | complete result _ hm ih =>
    cases result with
    | ok value => simpa [Workers.complete, Nat.add_assoc] using ih.finish hm
    | error error => simpa [Workers.complete] using ih.fail hm

-- ---------------------------------------------------------------------------
-- How it settles
-- ---------------------------------------------------------------------------

theorem exists_eq_map_some {results : List (Option α)} (h : ∀ result ∈ results, result.isSome) :
    ∃ values : List α, results = values.map some := by
  induction results with
  | nil => exact ⟨[], rfl⟩
  | cons first results ih =>
    obtain ⟨hfirst, hrest⟩ := List.forall_mem_cons.mp h
    obtain ⟨value, rfl⟩ := Option.isSome_iff_exists.mp hfirst
    obtain ⟨values, rfl⟩ := ih hrest
    exact ⟨value :: values, rfl⟩

theorem Accounted.settled?_of_error {x : Nat × ε} {rest : List (Nat × ε)}
    (h : Accounted items turns log w) (hfirst : failures log = x :: rest) :
    w.settled? = some (.error x.2) := by
  have hfailed := h.failed
  rw [hfirst] at hfailed
  rw [settled?, hfailed]

theorem Accounted.settled?_of_busy (h : Accounted items turns log w) (hnone : failures log = [])
    (hbusy : w.busy ≠ []) : w.settled? = none := by
  have hfailed := h.failed
  rw [hnone] at hfailed
  simp [settled?, hfailed, hbusy]

theorem Accounted.exists_mem_successes (h : Accounted items turns log w) (hnone : failures log = [])
    (hbusy : w.busy = []) (hall : items ≤ log.length) (hlt : item < items) :
    ∃ value, (item, value) ∈ successes log := by
  have hlength := h.length_add
  rw [hbusy, List.length_nil, Nat.add_zero] at hlength
  have hplaces := h.places
  rw [hbusy, List.append_nil, h.started, h.next, ← hlength] at hplaces
  have hitem : item ∈ List.range log.length := List.mem_range.mpr (Nat.lt_of_lt_of_le hlt hall)
  obtain ⟨⟨_, result⟩, hm, rfl⟩ := List.mem_map.mp (hplaces.mem_iff.mpr hitem)
  cases result with
  | error error =>
    have := mem_failures hm
    rw [hnone] at this
    cases this
  | ok value => exact ⟨value, mem_successes hm⟩

theorem Accounted.settled?_of_idle (h : Accounted items turns log w) (hnone : failures log = [])
    (hbusy : w.busy = []) (hall : items ≤ log.length) :
    ∃ values, w.settled? = some (.ok values) ∧ values.length = items ∧
      ∀ x ∈ successes log, values[x.1]? = some x.2 := by
  have hfailed := h.failed
  rw [hnone] at hfailed
  have hsome : ∀ result ∈ w.results, result.isSome := by
    intro result hresult
    obtain ⟨item, hlt, rfl⟩ := List.mem_iff_getElem.mp hresult
    obtain ⟨value, hm⟩ := h.exists_mem_successes hnone hbusy hall (h.length ▸ hlt)
    obtain ⟨_, hvalue⟩ := List.getElem?_eq_some_iff.mp (h.results _ hm)
    exact Option.isSome_of_eq_some hvalue
  obtain ⟨values, hvalues⟩ := exists_eq_map_some hsome
  refine ⟨values, ?_, ?_, fun x hx => ?_⟩
  · simp [settled?, hfailed, hbusy, hvalues, List.filterMap_map]
  · rw [← h.length, hvalues, List.length_map]
  · have hvalue := h.results x hx
    rw [hvalues, List.getElem?_map] at hvalue
    simpa using hvalue

theorem settled?_eq_outcome (h : w.busy = []) : w.settled? = some w.outcome := by
  unfold settled? outcome
  split <;> simp [h]

/-- Once nothing is being worked on, an item has failed, or every item has its value. -/
theorem Run.outcome_of_idle (h : Run items workers log w) (hone : 1 ≤ workers)
    (hbusy : w.busy = []) :
    (∃ item error, (item, .error error) ∈ log ∧ w.outcome = .error error) ∨
      ∃ values, w.outcome = .ok values ∧ values.length = items ∧
        ∀ (item : Nat) (value : α), values[item]? = some value ↔ (item, value) ∈ successes log := by
  have haccounted := h.accounted
  have houtcome := settled?_eq_outcome hbusy
  cases hfailures : failures log with
  | cons x rest =>
    refine .inl ⟨x.1, x.2, mem_of_mem_failures (by simp [hfailures]), ?_⟩
    exact Option.some.inj (houtcome.symm.trans (haccounted.settled?_of_error hfailures))
  | nil =>
    have hlength := haccounted.length_add
    have hsum := length_successes_add log
    rw [hbusy, List.length_nil] at hlength
    rw [hfailures, List.length_nil] at hsum
    have hall : items ≤ log.length := by omega
    obtain ⟨values, hsettled, hitems, hvalues⟩ := haccounted.settled?_of_idle hfailures hbusy hall
    refine .inr ⟨values, Option.some.inj (houtcome.symm.trans hsettled), hitems, fun item value =>
      ⟨fun hvalue => ?_, hvalues _⟩⟩
    obtain ⟨hlt, -⟩ := List.getElem?_eq_some_iff.mp hvalue
    obtain ⟨value', hm⟩ := haccounted.exists_mem_successes hfailures hbusy hall (hitems ▸ hlt)
    obtain rfl := Option.some.inj ((hvalues _ hm).symm.trans hvalue)
    exact hm

-- ---------------------------------------------------------------------------
-- Gates
-- ---------------------------------------------------------------------------

@[simp] theorem gates_takeNext : w.takeNext.gates = w.gates := by
  rw [takeNext]
  split <;> rfl

@[simp] theorem gates_complete : (w.complete item result).gates = w.gates := by
  cases result <;> simp [complete, finish, fail]

@[simp] theorem gates_drain : w.drain.gates = w.gates := by
  fun_induction Workers.drain w with
  | case1 => rfl
  | case2 w item result _ ih => rw [ih, gates_complete]

theorem ready?_drain : w.drain.ready? = none := by
  fun_induction Workers.drain w with
  | case1 w hready => exact hready
  | case2 w item result _ ih => exact ih

theorem gates_start : (start items workers : Workers ε α).gates = [] := by
  induction workers with
  | zero => rfl
  | succ workers ih => exact gates_takeNext.trans ih

theorem lookup_of_ready? (h : w.ready? = some (item, result)) :
    w.gates.lookup item = some result := by
  obtain ⟨found, -, hfound⟩ := List.exists_of_findSome?_eq_some h
  obtain ⟨result', hgate, heq⟩ := Option.map_eq_some_iff.mp hfound
  cases heq
  exact hgate

theorem lookup_of_not_ready? (h : w.ready? = none) (hm : item ∈ w.busy) :
    w.gates.lookup item = none :=
  Option.map_eq_none_iff.mp (List.findSome?_eq_none_iff.mp h item hm)

theorem Run.drain (h : Run items workers log w) :
    ∃ more, Run items workers (log ++ more) w.drain ∧
      ∀ x ∈ more, w.gates.lookup x.1 = some x.2 := by
  fun_induction Workers.drain w generalizing log with
  | case1 w hready => exact ⟨[], by rwa [List.append_nil], by simp⟩
  | case2 w item result hready ih =>
    obtain ⟨more, hrun, hmore⟩ := ih (h.complete result (mem_busy_of_ready? hready))
    rw [List.append_assoc] at hrun
    refine ⟨_, hrun, List.forall_mem_cons.mpr ⟨lookup_of_ready? hready, fun x hx => ?_⟩⟩
    rw [← hmore x hx, gates_complete]

/-- Gates of items were opened. What came to its end did so with what stood behind its gate, and no
other item can. -/
structure Opened (items workers : Nat) (steps : List (Nat × Except ε α)) (w : Workers ε α) :
    Prop where
  run : ∃ log, Run items workers log w ∧ ∀ x ∈ log, steps.lookup x.1 = some x.2
  gates : ∀ item, w.gates.lookup item = steps.lookup item
  ready : w.ready? = none

theorem opened_start : Opened items workers [] (start items workers : Workers ε α) where
  run := ⟨[], .start, by simp⟩
  gates := by simp [gates_start]
  ready := by simp [ready?, gates_start]

theorem Opened.drain {steps : List (Nat × Except ε α)} (hrun : Run items workers log w)
    (hlog : ∀ x ∈ log, steps.lookup x.1 = some x.2)
    (hgates : ∀ item, w.gates.lookup item = steps.lookup item) :
    Opened items workers steps w.drain where
  run := by
    obtain ⟨more, hrun, hmore⟩ := hrun.drain
    refine ⟨log ++ more, hrun, List.forall_mem_append.mpr ⟨hlog, fun x hx => ?_⟩⟩
    rw [← hgates, hmore x hx]
  gates item := by rw [gates_drain, hgates]
  ready := ready?_drain

theorem Opened.openGate {steps : List (Nat × Except ε α)} (h : Opened items workers steps w)
    (item : Nat) (result : Except ε α) :
    Opened items workers (steps ++ [(item, result)]) (w.openGate item result) := by
  obtain ⟨log, hrun, hlog⟩ := h.run
  have hlog' : ∀ x ∈ log, (steps ++ [(item, result)]).lookup x.1 = some x.2 := by
    intro x hx
    rw [List.lookup_append, hlog x hx]
    rfl
  unfold Workers.openGate
  split
  · next hopen =>
    -- the result that was there first stays
    refine .drain hrun hlog' fun other => ?_
    rw [h.gates] at hopen ⊢
    rw [List.lookup_append]
    by_cases heq : other = item
    · obtain ⟨first, hfirst⟩ := Option.isSome_iff_exists.mp hopen
      rw [heq, hfirst]
      rfl
    · simp [List.lookup_cons, beq_false_of_ne heq]
  · refine .drain (hrun.opens _) hlog' fun other => ?_
    rw [List.lookup_append, List.lookup_append, h.gates]

theorem opened_openGates (items workers : Nat) (steps : List (Nat × Except ε α)) :
    Opened items workers steps
      (steps.foldl (fun w step => w.openGate step.1 step.2) (start items workers)) := by
  induction steps using List.reverseRecOn with
  | nil => exact opened_start
  | append_singleton steps step ih =>
    rw [List.foldl_concat]
    exact ih.openGate step.1 step.2

/-- Gates may open in any order, and that of an item more than once, where the first time counts.
Once those of all items are open, an item has failed, or every item has the value behind its gate.
-/
theorem openGates_settle (hone : 1 ≤ workers) (steps : List (Nat × Except ε α))
    (hall : ∀ item < items, steps.lookup item ≠ none) :
    let w := steps.foldl (fun w step => w.openGate step.1 step.2) (start items workers)
    w.settled? = some w.outcome ∧
      ((∃ item error, steps.lookup item = some (.error error) ∧ w.outcome = .error error) ∨
        ∃ values, w.outcome = .ok values ∧ values.length = items ∧
          ∀ (item : Nat) (value : α), values[item]? = some value →
            steps.lookup item = some (.ok value)) := by
  intro w
  have h : Opened items workers steps w := opened_openGates items workers steps
  obtain ⟨log, hrun, hlog⟩ := h.run
  have hbusy : w.busy = [] := by
    refine List.eq_nil_iff_forall_not_mem.mpr fun item hm => ?_
    refine hall item (hrun.accounted.lt_of_mem_busy hm) ?_
    rw [← h.gates, lookup_of_not_ready? h.ready hm]
  refine ⟨settled?_eq_outcome hbusy, ?_⟩
  rcases hrun.outcome_of_idle hone hbusy with
    ⟨item, error, hm, herror⟩ | ⟨values, hok, hlength, hvalues⟩
  · exact .inl ⟨item, error, hlog _ hm, herror⟩
  · refine .inr ⟨values, hok, hlength, fun item value hvalue => ?_⟩
    exact hlog _ (mem_of_mem_successes ((hvalues item value).mp hvalue))

/-- A state with the property comes, whatever comes to an end next. -/
inductive Eventually (P : Workers ε α → Prop) : Workers ε α → Prop
  | now {w : Workers ε α} : P w → Eventually P w
  | later {w : Workers ε α} : w.busy ≠ [] →
    (∀ item ∈ w.busy, ∀ result, Eventually P (w.complete item result)) → Eventually P w

theorem Run.busy_ne_nil (h : Run items workers log w) (hfailed : w.failed.length < workers)
    (hrest : w.started ≠ List.range items) : w.busy ≠ [] := by
  intro hbusy
  have haccounted := h.accounted
  have hlength := haccounted.length_add
  have hsum := length_successes_add log
  rw [hbusy, List.length_nil] at hlength
  rw [haccounted.failed] at hfailed
  rw [haccounted.started, haccounted.next] at hrest
  exact hrest (congrArg List.range (by omega))

theorem Run.eventually (h : Run items workers log w) :
    Eventually (fun w => w.started = List.range items ∨ workers ≤ w.failed.length) w := by
  -- every item that comes to its end leaves one less that can
  induction hrest : items - log.length generalizing log w with
  | zero =>
    refine .now (.inl ?_)
    have haccounted := h.accounted
    have hlength := haccounted.length_add
    rw [haccounted.started, haccounted.next]
    exact congrArg List.range (by omega)
  | succ rest ih =>
    by_cases hnow : w.started = List.range items ∨ workers ≤ w.failed.length
    · exact .now hnow
    · obtain ⟨hstarted, hfailed⟩ := not_or.mp hnow
      refine .later (h.busy_ne_nil (Nat.lt_of_not_le hfailed) hstarted) fun item hm result => ?_
      refine ih (h.complete result hm) ?_
      rw [List.length_append, List.length_singleton]
      omega

/-- Items are taken from the first on, each once, and no more are worked on at a time than there are
workers; as many as that are, as far as there are items without a value, until one fails. Without
a failure the whole settles once every item has a value, with these in the order of the items;
else with the first error. While workers are left that have not failed, every item gets its turn. -/
theorem run_settles (limit : Option Number) (h : Run items (workerCount limit items) log w) :
    (workerCount limit items : Int) = cap limit items ∧
      w.started = List.range w.started.length ∧ w.started.length ≤ items ∧
      (log.map Prod.fst ++ w.busy).Perm w.started ∧
      w.busy.length ≤ workerCount limit items ∧
      (failures log = [] →
        w.busy.length = min (workerCount limit items) (items - (successes log).length) ∧
        ((successes log).length < items → w.settled? = none) ∧
        ((successes log).length = items →
          ∃ values, w.settled? = some (.ok values) ∧ values.length = items ∧
            ∀ x ∈ successes log, values[x.1]? = some x.2)) ∧
      (∀ x rest, failures log = x :: rest → w.settled? = some (.error x.2)) ∧
      Eventually (fun w => w.started = List.range items ∨
        workerCount limit items ≤ w.failed.length) w := by
  have haccounted := h.accounted
  have hlength := haccounted.length_add
  have hsum := length_successes_add log
  have hcount := one_le_workerCount limit items
  have hstarted := haccounted.started
  have hnext : w.started.length = w.next := by rw [hstarted, List.length_range]
  refine ⟨workerCount_eq_cap, hnext ▸ hstarted, ?_, haccounted.places, by omega, fun hnone => ?_,
    fun x rest => haccounted.settled?_of_error, h.eventually⟩
  · rw [hnext, haccounted.next]
    exact Nat.min_le_left ..
  · rw [hnone, List.length_nil] at hsum
    refine ⟨by omega, fun hlt => haccounted.settled?_of_busy hnone ?_, fun heq => ?_⟩
    · intro hbusy
      rw [hbusy, List.length_nil] at hlength
      omega
    · refine haccounted.settled?_of_idle hnone (List.eq_nil_of_length_eq_zero ?_) (by omega)
      omega

theorem run_settles_two_workers :
    let limit : Option Number := some (.finite (5 / 2))
    let first : Workers Nat Nat := (start 3 (workerCount limit 3)).complete 1 (.ok 10)
    let finished := (first.complete 2 (.ok 20)).complete 0 (.ok 0)
    let failed := (first.complete 2 (.error 8)).complete 0 (.error 7)
    first.settled? = none ∧ finished.settled? = some (.ok [0, 10, 20]) ∧
      failed.settled? = some (.error 8) := by
  intro limit first finished failed
  have hfirst : Run 3 (workerCount limit 3) [(1, .ok 10)] first :=
    Run.start.complete _ (by decide +kernel)
  have hfinished : Run 3 (workerCount limit 3) [(1, .ok 10), (2, .ok 20), (0, .ok 0)] finished :=
    (hfirst.complete _ (by decide +kernel)).complete _ (by decide +kernel)
  have hfailed : Run 3 (workerCount limit 3) [(1, .ok 10), (2, .error 8), (0, .error 7)] failed :=
    (hfirst.complete _ (by decide +kernel)).complete _ (by decide +kernel)
  obtain ⟨-, hnone, -⟩ := (run_settles limit hfirst).2.2.2.2.2.1 rfl
  obtain ⟨-, -, hall⟩ := (run_settles limit hfinished).2.2.2.2.2.1 rfl
  obtain ⟨values, hsettled, hlength, hvalues⟩ := hall rfl
  obtain ⟨a, b, c, rfl⟩ := List.length_eq_three.mp hlength
  obtain ⟨rfl, rfl, rfl⟩ : b = 10 ∧ c = 20 ∧ a = 0 := by simpa [successes] using hvalues
  exact ⟨hnone (by decide), hsettled, (run_settles limit hfailed).2.2.2.2.2.2.1 _ _ rfl⟩

end Workers

end Inlay
