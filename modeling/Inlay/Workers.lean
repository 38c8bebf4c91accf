import Inlay.Number.Basic

/-!
# Workers

A fixed number of workers takes the items of a list in order, each the next one when it is done
with its last. A worker whose item fails stops; the others go on. The whole settles with all values
in the order of the items, or with the error that came first.
-/

namespace Inlay

/-- How many workers a limit amounts to for a number of items. Fractions are cut off; there is
always one worker, and no limit means just that one. -/
def workerCount (limit : Option Number) (items : Nat) : Nat :=
  match limit with
  | none => 1
  | some (.finite value) => max 1 (min value.floor.toNat items)
  | some (.infinite negative) => if negative then 1 else max 1 items

/-- Items are known by their numbers and wait at gates, as the tasks of a pool do. -/
structure Workers (ε α : Type) where
  items : Nat
  next : Nat
  started : List Nat
  busy : List Nat
  results : List (Option α)
  failed : List (Nat × ε)
  gates : List (Nat × Except ε α)

namespace Workers

def idle (items : Nat) : Workers ε α := ⟨items, 0, [], [], List.replicate items none, [], []⟩

def takeNext (w : Workers ε α) : Workers ε α :=
  if w.next < w.items then
    { w with busy := w.busy ++ [w.next], started := w.started ++ [w.next], next := w.next + 1 }
  else w

def start (items workers : Nat) : Workers ε α := Nat.repeat takeNext workers (idle items)

def finish (w : Workers ε α) (item : Nat) (value : α) : Workers ε α :=
  takeNext { w with busy := w.busy.erase item, results := w.results.set item (some value) }

def fail (w : Workers ε α) (item : Nat) (error : ε) : Workers ε α :=
  { w with busy := w.busy.erase item, failed := w.failed ++ [(item, error)] }

def complete (w : Workers ε α) (item : Nat) : Except ε α → Workers ε α
  | .ok value => w.finish item value
  | .error error => w.fail item error

def ready? (w : Workers ε α) : Option (Nat × Except ε α) :=
  w.busy.findSome? fun item => (w.gates.lookup item).map (item, ·)

theorem mem_busy_of_ready? {w : Workers ε α} {item : Nat} {result : Except ε α}
    (h : w.ready? = some (item, result)) : item ∈ w.busy := by
  obtain ⟨found, hmem, hf⟩ := List.exists_of_findSome?_eq_some h
  obtain ⟨_, _, heq⟩ := Option.map_eq_some_iff.1 hf
  cases heq
  exact hmem

theorem rest_complete_lt {w : Workers ε α} {item : Nat} (result : Except ε α) (h : item ∈ w.busy) :
    (w.complete item result).busy.length +
        2 * ((w.complete item result).items - (w.complete item result).next) <
      w.busy.length + 2 * (w.items - w.next) := by
  have hpos := List.length_pos_of_mem h
  have herase := List.length_erase_of_mem h
  cases result with
  | ok value =>
    rw [complete, finish, takeNext]
    split
    · next hlt =>
      simp only [List.length_append, List.length_singleton] at hlt ⊢
      omega
    · dsimp only
      omega
  | error error =>
    simp only [complete, fail]
    omega

def drain (w : Workers ε α) : Workers ε α :=
  match _h : w.ready? with
  | none => w
  | some (item, result) => (w.complete item result).drain
termination_by w.busy.length + 2 * (w.items - w.next)
decreasing_by exact rest_complete_lt result (mem_busy_of_ready? _h)

/-- Opens the gate of an item. A gate that is open stays as it is. -/
def openGate (w : Workers ε α) (item : Nat) (result : Except ε α) : Workers ε α :=
  drain (if (w.gates.lookup item).isSome then w
    else { w with gates := w.gates ++ [(item, result)] })

def outcome (w : Workers ε α) : Except ε (List α) :=
  match w.failed with
  | (_, error) :: _ => .error error
  | [] => .ok (w.results.filterMap id)

/-- What the whole has settled with, if it has: the first error, or all values once no worker has
anything left to do. -/
def settled? (w : Workers ε α) : Option (Except ε (List α)) :=
  match w.failed with
  | (_, error) :: _ => some (.error error)
  | [] => if w.busy.isEmpty then some (.ok (w.results.filterMap id)) else none

end Workers

end Inlay
