import Inlay.Proofs.Outcomes

/-!
# Documents that share a pool

All documents of a run send their regions through one pool, in which their tasks mix. The outcome of
a document is that in a pool of its own, whatever the limits and in whatever order the tasks and the
answers of the documents come (`Shares.formatDocument_eq_ok_iff`).
-/

namespace Inlay

/-- The number of a region among those of its document, if the document is the given one. A task of
a shared pool is known by both numbers. -/
def own? (document : Nat) (task : Nat × Nat) : Option Nat :=
  if task.1 = document then some task.2 else none

/-- What comes of a document in a pool that it shares. -/
def Dispatched.ofShared (options : DispatchOptions) (regions : List Region)
    (pool : Pool (Nat × Nat) (Except ReportError RegionResult)) (document : Nat) : Dispatched :=
  .ofTasks options regions (pool.started.filterMap (own? document))
    (pool.settled.filterMap fun (task, result) => (own? document task).map (·, result))

/-- Steps of a pool that documents share. Each submits its regions in order, and every answer comes
at some time; what the others do in between is open. -/
structure Shares (engine : Nat → Behaviour) (options : DispatchOptions)
    (documents : List (List Region))
    (steps : List (Pool.Step (Nat × Nat) (Except ReportError RegionResult))) : Prop where
  submitted : ∀ (document : Nat) (regions : List Region), documents[document]? = some regions →
    (Pool.submitted steps).filterMap (own? document) = List.range regions.length
  opened : ∀ task ∈ Pool.submitted steps, ∃ regions r, documents[task.1]? = some regions ∧
    regions[task.2]? = some r ∧
    Pool.opened? steps task = some (r.format (engine task.1) options task.2)

namespace Shares

variable {engine : Nat → Behaviour} {options : DispatchOptions} {documents : List (List Region)}
  {steps : List (Pool.Step (Nat × Nat) (Except ReportError RegionResult))} {document : Nat}
  {regions : List Region} {outcome : Nat → Except ReportError RegionResult}

/-- Two documents of one region each, of which the second is answered first. -/
theorem shares_two (engine : Nat → Behaviour) (options : DispatchOptions) (a b : Region) :
    Shares engine options [[a], [b]]
      [.submit (0, 0), .submit (1, 0), .openGate (1, 0) (b.format (engine 1) options 0),
        .openGate (0, 0) (a.format (engine 0) options 0)] where
  submitted document regions hd := by
    obtain _ | _ | document := document
    · cases hd
      rfl
    · cases hd
      rfl
    · cases hd
  opened task hm := by
    obtain rfl | rfl : task = (0, 0) ∨ task = (1, 0) := by
      simpa [Pool.submitted, Pool.Step.submitted?] using hm
    · exact ⟨[a], a, rfl, rfl, rfl⟩
    · exact ⟨[b], b, rfl, rfl, rfl⟩

theorem opened?_eq {id : Nat} (h : Shares engine options documents steps)
    (hd : documents[document]? = some regions)
    (houtcome : ∀ id r, regions[id]? = some r → r.format (engine document) options id = outcome id)
    (hm : (document, id) ∈ Pool.submitted steps) :
    Pool.opened? steps (document, id) = some (outcome id) := by
  obtain ⟨regions', r, hd', hr, hopened⟩ := h.opened _ hm
  obtain rfl := Option.some.inj (hd.symm.trans hd')
  rw [hopened, houtcome id r hr]

/-- The tasks of a document start in order, and settle with the outcomes of its regions in some
order. -/
theorem ofShared_eq (h : Shares engine options documents steps)
    (hd : documents[document]? = some regions)
    (houtcome : ∀ id r, regions[id]? = some r → r.format (engine document) options id = outcome id)
    (limit : PoolLimit) :
    ∃ ids : List Nat, ids.Perm (List.range regions.length) ∧
      Dispatched.ofShared options regions ((Pool.empty limit).run steps) document =
        .ofTasks options regions (List.range regions.length)
          (ids.map fun id => (id, outcome id)) := by
  have hopen : ∀ task ∈ Pool.submitted steps,
      Pool.opened? steps task = some ((Pool.opened? steps task).getD (.ok (.formatted []))) := by
    intro task hm
    obtain ⟨_, _, -, -, hopened⟩ := h.opened task hm
    rw [hopened]
    rfl
  obtain ⟨hstarted, tasks, htasks, hsettled⟩ := Pool.settled_of_opened limit hopen
  have hown := h.submitted document regions hd
  refine ⟨tasks.filterMap (own? document), hown ▸ htasks.filterMap _, ?_⟩
  rw [Dispatched.ofShared, hstarted, hsettled, hown, List.filterMap_map, List.map_filterMap]
  congr 1
  refine List.filterMap_congr fun task hm => ?_
  obtain ⟨d, id⟩ := task
  by_cases heq : d = document
  · subst heq
    have hopened := h.opened?_eq hd houtcome (htasks.mem_iff.mp hm)
    simp [own?, hopened]
  · simp [own?, heq]

theorem ofShared_eq_own (h : Shares engine options documents steps)
    (hd : documents[document]? = some regions) (limit own : PoolLimit) :
    let shared := Dispatched.ofShared options regions ((Pool.empty limit).run steps) document
    let dispatched := dispatch (engine document) own options regions
    shared.calls = dispatched.calls ∧
      ∀ results, shared.results = .ok results ↔ dispatched.results = .ok results := by
  intro shared dispatched
  have hall : ∀ id < regions.length, id ∈ List.range regions.length := fun _ => List.mem_range.mpr
  obtain ⟨outcome, houtcome⟩ := exists_outcome (engine document) options regions
  obtain ⟨ids, hids, heq⟩ := h.ofShared_eq hd houtcome limit
  constructor
  · exact (congrArg Dispatched.calls heq).trans
      (Dispatched.calls_ofTasks_range.trans (calls_dispatchIn hall).symm)
  · intro results
    simp only [shared, heq, Dispatched.results_ofTasks_eq_ok_iff hids houtcome]
    exact (dispatchIn_results_eq_ok_iff hall).symm

/-- The outcome of a document in a pool that it shares is that in a pool of its own. -/
theorem formatDocument_eq_ok_iff {options : PipelineOptions} {file t : Text} {p : Partition}
    {formatted : Outcome} (h : Shares engine options.dispatch documents steps)
    (hp : Partition.build options.indentation (.ofText t) = .ok p)
    (hd : documents[document]? = some p.regions) (limit own : PoolLimit) :
    let shared :=
      Dispatched.ofShared options.dispatch p.regions ((Pool.empty limit).run steps) document
    formatDocument (engine document) own options file t = .ok formatted ↔
      ∃ results, shared.results = .ok results ∧
        formatted = .ofResults file p results shared.calls := by
  intro shared
  obtain ⟨hcalls, hresults⟩ := h.ofShared_eq_own hd limit own
  simp only [shared, hcalls, hresults]
  rw [formatDocument_eq hp]
  cases hdispatched : (dispatch (engine document) own options.dispatch p.regions).results <;>
    simp [hdispatched, Except.mapError, Except.map, eq_comm]

end Shares

end Inlay
