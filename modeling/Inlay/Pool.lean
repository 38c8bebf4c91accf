import Inlay.Json.Basic

/-!
# Pools

A cap on the tasks that run at once. A pool counts the slots that are taken: a task that is
submitted takes one and starts if there is one left, and waits in line otherwise. A running task
settles once its gate is open; it gives its slot back, and the task that has waited longest takes
one. Gates may open in any order and before their tasks start, which is how every interleaving is
described.
-/

namespace Inlay

structure PoolLimitError where
  given : Text
  deriving DecidableEq, Repr

def PoolLimitError.message (e : PoolLimitError) : Text :=
  text "Task pool limit must be a positive integer, got: " ++ e.given

structure PoolLimit where
  value : Nat
  positive : 1 ≤ value
  deriving DecidableEq, Repr

def PoolLimit.ofNumber? (n : Number) : Option PoolLimit :=
  match h : n.toPositive? with
  | some value => some ⟨value, Number.one_le_of_toPositive? h⟩
  | none => none

def PoolLimit.ofValue (value : Json) : Except PoolLimitError PoolLimit :=
  match value with
  | .number n =>
    match ofNumber? n with
    | some limit => .ok limit
    | none => .error ⟨value.shown⟩
  | _ => .error ⟨value.shown⟩

/-- Tasks, known by their ids, that settle with an outcome. -/
structure Pool (ι α : Type) where
  limit : PoolLimit
  active : Int
  waiting : List ι
  running : List ι
  started : List ι
  settled : List (ι × α)
  gates : List (ι × α)
  deriving DecidableEq

namespace Pool

variable [DecidableEq ι]

def empty (limit : PoolLimit) : Pool ι α := ⟨limit, 0, [], [], [], [], []⟩

def gate? (p : Pool ι α) (id : ι) : Option α := p.gates.lookup id

def start (p : Pool ι α) (id : ι) : Pool ι α :=
  { p with
    active := p.active + 1
    running := p.running ++ [id]
    started := p.started ++ [id] }

def acquire (p : Pool ι α) (id : ι) : Pool ι α :=
  if p.active < p.limit.value then p.start id else { p with waiting := p.waiting ++ [id] }

/-- Starts the task that has waited longest. -/
def handOver (p : Pool ι α) : Pool ι α :=
  match p.waiting with
  | [] => p
  | next :: rest => start { p with waiting := rest } next

def release (p : Pool ι α) : Pool ι α := handOver { p with active := p.active - 1 }

def settle (p : Pool ι α) (id : ι) (outcome : α) : Pool ι α :=
  release { p with running := p.running.erase id, settled := p.settled ++ [(id, outcome)] }

def ready? (p : Pool ι α) : Option (ι × α) :=
  p.running.findSome? fun id => (p.gate? id).map (id, ·)

theorem mem_running_of_ready? {p : Pool ι α} {id : ι} {outcome : α}
    (h : p.ready? = some (id, outcome)) : id ∈ p.running := by
  obtain ⟨found, hmem, hf⟩ := List.exists_of_findSome?_eq_some h
  obtain ⟨_, _, heq⟩ := Option.map_eq_some_iff.1 hf
  cases heq
  exact hmem

theorem length_settle {p : Pool ι α} {id : ι} (outcome : α) (h : id ∈ p.running) :
    (p.settle id outcome).running.length + (p.settle id outcome).waiting.length + 1 =
      p.running.length + p.waiting.length := by
  have hpos : 0 < p.running.length := List.length_pos_of_mem h
  rw [settle, release, handOver]
  split <;> simp_all [start, List.length_erase_of_mem] <;> omega

def drain (p : Pool ι α) : Pool ι α :=
  match _h : p.ready? with
  | none => p
  | some (id, outcome) => (p.settle id outcome).drain
termination_by p.running.length + p.waiting.length
decreasing_by
  have := length_settle outcome (mem_running_of_ready? _h)
  omega

inductive Step (ι α : Type)
  | submit (id : ι)
  | openGate (id : ι) (outcome : α)
  deriving DecidableEq, Repr

def submit (p : Pool ι α) (id : ι) : Pool ι α := drain (p.acquire id)

/-- Opens a gate. A gate that is open stays as it is. -/
def openGate (p : Pool ι α) (id : ι) (outcome : α) : Pool ι α :=
  drain (if (p.gate? id).isSome then p else { p with gates := p.gates ++ [(id, outcome)] })

def step (p : Pool ι α) : Step ι α → Pool ι α
  | .submit id => p.submit id
  | .openGate id outcome => p.openGate id outcome

def run (p : Pool ι α) (steps : List (Step ι α)) : Pool ι α := steps.foldl step p

end Pool

end Inlay
