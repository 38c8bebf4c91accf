import Inlay.Pool
import Mathlib

/-!
# Slots of a pool

No step takes a slot that is not there, loses one, or lets a task in before one that has waited
longer (`Pool.Sound`). After any steps the tasks that started are the first that were submitted,
none waits while a slot is free, and none is left once every gate is open (`Pool.run_accounts`).
-/

namespace Inlay.Pool

variable {ι α : Type} {p : Pool ι α} {limit : PoolLimit} {tasks : List ι}
  {steps : List (Step ι α)} {id : ι} {outcome : α}

-- ---------------------------------------------------------------------------
-- What a step leaves alone
-- ---------------------------------------------------------------------------

@[simp] theorem limit_acquire : (p.acquire id).limit = p.limit := by
  rw [acquire]
  split <;> rfl

@[simp] theorem gates_acquire : (p.acquire id).gates = p.gates := by
  rw [acquire]
  split <;> rfl

variable [DecidableEq ι]

@[simp] theorem limit_settle : (p.settle id outcome).limit = p.limit := by
  rw [settle, release, handOver]
  split <;> rfl

@[simp] theorem gates_settle : (p.settle id outcome).gates = p.gates := by
  rw [settle, release, handOver]
  split <;> rfl

@[simp] theorem limit_drain : p.drain.limit = p.limit := by
  fun_induction drain p with
  | case1 => rfl
  | case2 p id outcome _ ih => rw [ih, limit_settle]

@[simp] theorem gates_drain : p.drain.gates = p.gates := by
  fun_induction drain p with
  | case1 => rfl
  | case2 p id outcome _ ih => rw [ih, gates_settle]

-- ---------------------------------------------------------------------------
-- One task
-- ---------------------------------------------------------------------------

/-- The counter of a pool agrees with its tasks, which have started in the order in which they were
submitted, and have settled with what stood behind their gates. -/
structure Sound (tasks : List ι) (p : Pool ι α) : Prop where
  active : p.active = p.running.length
  fits : p.running.length ≤ p.limit.value
  full : p.waiting ≠ [] → p.running.length = p.limit.value
  order : p.started ++ p.waiting = tasks
  places : (p.settled.map Prod.fst ++ p.running).Perm p.started
  outcome : ∀ x ∈ p.settled, p.gate? x.1 = some x.2

theorem sound_empty : Sound [] (empty limit : Pool ι α) where
  active := rfl
  fits := Nat.zero_le _
  full h := absurd rfl h
  order := rfl
  places := .nil
  outcome := by simp [empty]

theorem Sound.acquire (h : Sound tasks p) (id : ι) :
    Sound (tasks ++ [id]) (p.acquire id) := by
  rw [Pool.acquire]
  split
  · next hlt =>
    rw [h.active] at hlt
    -- a task that waits would have taken the slot
    have hnone : p.waiting = [] := by
      by_contra hne
      have := h.full hne
      omega
    have horder := h.order
    rw [hnone, List.append_nil] at horder
    exact {
      active := by simp [start, h.active]
      fits := by simp [start]; omega
      full := fun hne => absurd hnone hne
      order := by simp [start, hnone, horder]
      places := by
        rw [start, ← List.append_assoc]
        exact h.places.append_right [id]
      outcome := h.outcome }
  · next hlt =>
    rw [h.active] at hlt
    have := h.fits
    exact {
      active := h.active
      fits := h.fits
      full := fun _ => by dsimp only; omega
      order := by rw [← List.append_assoc, h.order]
      places := h.places
      outcome := h.outcome }

theorem Sound.settle (h : Sound tasks p) (hm : id ∈ p.running)
    (hgate : p.gate? id = some outcome) : Sound tasks (p.settle id outcome) := by
  have hlength := List.length_erase_of_mem hm
  have hpos := List.length_pos_of_mem hm
  have hplaces : ((p.settled ++ [(id, outcome)]).map Prod.fst ++ p.running.erase id).Perm
      p.started := by
    rw [List.map_append, List.append_assoc]
    exact ((List.perm_cons_erase hm).symm.append_left _).trans h.places
  have houtcome : ∀ x ∈ p.settled ++ [(id, outcome)], p.gate? x.1 = some x.2 := by
    intro x hx
    rcases List.mem_append.mp hx with hx | hx
    · exact h.outcome x hx
    · obtain rfl := List.mem_singleton.mp hx
      exact hgate
  have hactive := h.active
  have hfits := h.fits
  rw [Pool.settle, release, handOver]
  split
  · next hnone =>
    exact {
      active := by dsimp only; omega
      fits := by dsimp only; omega
      full := fun hne => absurd hnone hne
      order := h.order
      places := hplaces
      outcome := houtcome }
  · next next rest hsome =>
    -- the slot that is free goes to the next task at once
    have hfull := h.full (by rw [hsome]; exact List.cons_ne_nil _ _)
    have horder := h.order
    rw [show p.waiting = next :: rest from hsome] at horder
    exact {
      active := by simp [start]; omega
      fits := by simp [start]; omega
      full := fun _ => by simp [start]; omega
      order := by simp [start, ← horder]
      places := by
        rw [start, ← List.append_assoc]
        exact hplaces.append_right [next]
      outcome := houtcome }

theorem gate?_of_ready? (h : p.ready? = some (id, outcome)) : p.gate? id = some outcome := by
  obtain ⟨found, -, hfound⟩ := List.exists_of_findSome?_eq_some h
  obtain ⟨outcome', hgate, heq⟩ := Option.map_eq_some_iff.mp hfound
  cases heq
  exact hgate

theorem gate?_of_not_ready? (h : p.ready? = none) (hm : id ∈ p.running) : p.gate? id = none :=
  Option.map_eq_none_iff.mp (List.findSome?_eq_none_iff.mp h id hm)

-- ---------------------------------------------------------------------------
-- Steps
-- ---------------------------------------------------------------------------

theorem Sound.drain (h : Sound tasks p) : Sound tasks p.drain := by
  fun_induction Pool.drain p with
  | case1 => exact h
  | case2 p id outcome hready ih =>
    exact ih (h.settle (mem_running_of_ready? hready) (gate?_of_ready? hready))

theorem ready?_drain : p.drain.ready? = none := by
  fun_induction Pool.drain p with
  | case1 p hready => exact hready
  | case2 _ _ _ _ ih => exact ih

def Step.submitted? : Step ι α → Option ι
  | .submit id => some id
  | .openGate .. => none

def Step.opened? (id : ι) : Step ι α → Option α
  | .submit _ => none
  | .openGate id' outcome => if id' = id then some outcome else none

def submitted (steps : List (Step ι α)) : List ι := steps.filterMap Step.submitted?

/-- What is behind the gate of a task after some steps. Only the first that opens it counts. -/
def opened? (steps : List (Step ι α)) (id : ι) : Option α := steps.findSome? (Step.opened? id)

theorem lookup_concat {gates : List (ι × α)} {id' : ι} :
    (gates ++ [(id', outcome)]).lookup id =
      (gates.lookup id).or (if id' = id then some outcome else none) := by
  rw [List.lookup_append]
  by_cases heq : id' = id
  · simp [heq]
  · have hbeq : (id == id') = false := beq_false_of_ne (Ne.symm heq)
    simp [List.lookup, hbeq, heq]

theorem gate?_step {step : Step ι α} :
    (p.step step).gate? id = (p.gate? id).or (step.opened? id) := by
  cases step with
  | submit id' => simp [Pool.step, submit, gate?, Step.opened?]
  | openGate id' outcome =>
    unfold Pool.step openGate gate?
    rw [gates_drain, Step.opened?]
    cases hopen : p.gates.lookup id' with
    | none => simp [lookup_concat]
    | some outcome' =>
      by_cases heq : id' = id
      · subst heq
        simp [hopen]
      · simp [heq]

theorem Sound.step (h : Sound tasks p) (step : Step ι α) :
    Sound (tasks ++ step.submitted?.toList) (p.step step) := by
  cases step with
  | submit id => exact (h.acquire id).drain
  | openGate id outcome =>
    rw [Step.submitted?, Option.toList_none, List.append_nil]
    refine Sound.drain (?_ : Sound tasks (if _ then _ else _))
    split
    · exact h
    · refine { h with outcome := fun x hx => ?_ }
      exact (List.lookup_append ..).trans (Option.or_eq_some_iff.mpr (.inl (h.outcome x hx)))

theorem ready?_step {step : Step ι α} : (p.step step).ready? = none := by
  cases step <;> exact ready?_drain

@[simp] theorem limit_step {step : Step ι α} : (p.step step).limit = p.limit := by
  cases step with
  | submit id => simp [Pool.step, submit]
  | openGate id outcome =>
    unfold Pool.step openGate
    rw [limit_drain]
    split <;> rfl

theorem limit_run : (p.run steps).limit = p.limit := by
  induction steps generalizing p with
  | nil => rfl
  | cons step steps ih => exact ih.trans limit_step

theorem gate?_run : (p.run steps).gate? id = (p.gate? id).or (opened? steps id) := by
  induction steps generalizing p with
  | nil => simp [run, opened?]
  | cons step steps ih =>
    have hrun : (p.run (step :: steps)).gate? id = ((p.step step).run steps).gate? id := rfl
    rw [hrun, ih, gate?_step, opened?, opened?, List.findSome?_cons]
    cases p.gate? id <;> cases step.opened? id <;> rfl

theorem Sound.run (h : Sound tasks p) : Sound (tasks ++ submitted steps) (p.run steps) := by
  induction steps generalizing p tasks with
  | nil => simpa [submitted, Pool.run] using h
  | cons step steps ih =>
    have hrest := ih (h.step step)
    rw [List.append_assoc] at hrest
    cases step <;> exact hrest

theorem ready?_run (h : p.ready? = none) : (p.run steps).ready? = none := by
  induction steps generalizing p with
  | nil => exact h
  | cons step steps ih => exact ih ready?_step

/-- Where no task can settle and all gates are open, no task runs or waits. -/
theorem Sound.idle (h : Sound tasks p) (hready : p.ready? = none)
    (hopen : ∀ id ∈ tasks, p.gate? id ≠ none) : p.running = [] ∧ p.waiting = [] := by
  have hrunning : p.running = [] := by
    apply List.eq_nil_iff_forall_not_mem.mpr
    intro id hm
    have hstarted : id ∈ p.started := h.places.mem_iff.mp (List.mem_append_right _ hm)
    exact hopen id (h.order ▸ List.mem_append_left _ hstarted) (gate?_of_not_ready? hready hm)
  refine ⟨hrunning, ?_⟩
  by_contra hne
  have hlength := h.full hne
  have hpos := p.limit.positive
  simp only [hrunning, List.length_nil] at hlength
  omega

/-- After steps that open the gate of every task, all tasks have started and settled. -/
theorem settled_of_opened {outcome : ι → α} (limit : PoolLimit)
    (hopen : ∀ id ∈ submitted steps, opened? steps id = some (outcome id)) :
    ((empty limit).run steps).started = submitted steps ∧
      ∃ ids : List ι, ids.Perm (submitted steps) ∧
        ((empty limit).run steps).settled = ids.map fun id => (id, outcome id) := by
  have h : Sound (submitted steps) ((empty limit).run steps) := sound_empty.run
  have hgate : ∀ id, ((empty limit).run steps).gate? id = opened? steps id :=
    fun _ => gate?_run.trans (by simp [empty, gate?])
  obtain ⟨hrunning, hwaiting⟩ := h.idle (ready?_run rfl) fun id hm => by simp [hgate, hopen id hm]
  have horder := h.order
  have hplaces := h.places
  rw [hwaiting, List.append_nil] at horder
  rw [hrunning, List.append_nil, horder] at hplaces
  refine ⟨horder, _, hplaces, ?_⟩
  rw [List.map_map]
  refine (List.map_id' _).symm.trans (List.map_congr_left fun x hx => ?_)
  have hx' := h.outcome x hx
  rw [hgate, hopen x.1 (hplaces.mem_iff.mp (List.mem_map_of_mem hx))] at hx'
  exact Prod.ext rfl (Option.some.inj hx').symm

/-- After any steps and once everything has run that can: the slots that are taken are those of the
running tasks, and no more than the limit; no task waits while a slot is free. The tasks that
started are the first that were submitted. Every task is waiting, running, or settled, in one
place only, and settled tasks have settled with what was put behind their gates. If all gates were
opened, all tasks have settled. -/
theorem run_accounts (limit : PoolLimit) (steps : List (Step ι α)) :
    let p : Pool ι α := (empty limit).run steps
    (0 ≤ p.active ∧ p.active ≤ limit.value ∧ p.active = p.running.length) ∧
      (p.waiting ≠ [] → p.active = limit.value) ∧
      p.started ++ p.waiting = submitted steps ∧
      (p.settled.map Prod.fst ++ p.running ++ p.waiting).Perm (submitted steps) ∧
      ((submitted steps).Nodup →
        p.started.Nodup ∧ (p.settled.map Prod.fst ++ p.running ++ p.waiting).Nodup) ∧
      (∀ x ∈ p.settled, opened? steps x.1 = some x.2) ∧
      ((∀ id ∈ submitted steps, opened? steps id ≠ none) →
        p.active = 0 ∧ p.running = [] ∧ p.waiting = [] ∧
          (p.settled.map Prod.fst).Perm (submitted steps)) := by
  intro p
  have h : Sound (submitted steps) p := sound_empty.run
  have hlimit : p.limit = limit := limit_run
  have hgate : ∀ id, p.gate? id = opened? steps id := fun _ => gate?_run.trans (by simp [empty, gate?])
  have hready : p.ready? = none := ready?_run rfl
  have hactive := h.active
  have hfits := h.fits
  have hfull := h.full
  rw [hlimit] at hfits hfull
  have hplaces : (p.settled.map Prod.fst ++ p.running ++ p.waiting).Perm (submitted steps) := by
    rw [← h.order]
    exact h.places.append_right p.waiting
  refine ⟨⟨by omega, by omega, hactive⟩, fun hne => ?_, h.order, hplaces, fun hnodup => ?_,
    fun x hx => ?_, fun hopen => ?_⟩
  · have := hfull hne
    omega
  · refine ⟨List.Nodup.of_append_left (h.order ▸ hnodup), hplaces.nodup_iff.mpr hnodup⟩
  · rw [← hgate]
    exact h.outcome x hx
  · obtain ⟨hrunning, hwaiting⟩ := h.idle hready fun id hm => hgate id ▸ hopen id hm
    rw [hrunning, hwaiting, List.append_nil, List.append_nil] at hplaces
    exact ⟨by simp [hactive, hrunning], hrunning, hwaiting, hplaces⟩

theorem run_accounts_one_slot :
    let early : List (Step Nat Nat) := [.submit 0, .submit 1, .openGate 1 5]
    let all : List (Step Nat Nat) := early ++ [.openGate 0 7]
    let one : PoolLimit := ⟨1, Nat.le_refl 1⟩
    ((empty one).run early).waiting = [1] ∧ ((empty one).run early).active = 1 ∧
      ((empty one).run all).started.Nodup ∧ ((empty one).run all).settled = [(0, 7), (1, 5)] ∧
      ((empty one).run all).waiting = [] := by
  intro early all one
  have hwaiting : ((empty one).run early).waiting = [1] := by cbv
  have hsettled : ((empty one).run all).settled = [(0, 7), (1, 5)] := by cbv
  have hnodup : (submitted all).Nodup := by decide
  have hopen : ∀ id ∈ submitted all, opened? all id ≠ none := by decide
  refine ⟨hwaiting, (run_accounts one early).2.1 (by rw [hwaiting]; decide), ?_, hsettled, ?_⟩
  · exact ((run_accounts one all).2.2.2.2.1 hnodup).1
  · exact ((run_accounts one all).2.2.2.2.2.2 hopen).2.2.1

end Inlay.Pool
