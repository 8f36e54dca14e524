import LiabilityProof.Wire.Integer

/-!
# Running the openings

The columns of a row are opened one after the other, or side by side by a pool of workers. A
pool finishes its tasks in any order, and its results are taken in the order of the tasks: the
first task that fails in that order is the one whose failure is reported. So a pool gives what
the tasks give in turn (`Schedule.run_pool`).
-/

namespace LiabilityProof

/-- How independent tasks are run. -/
inductive Schedule where
  /-- One after the other. -/
  | inTurn
  /-- Side by side; the tasks named finish in this order, and the others after them. -/
  | pool (completion : List Nat)
  /-- Not at all, because the number of workers is no number. -/
  | unusable
deriving DecidableEq

namespace Schedule

/-- The schedule for a number of workers: a pool needs at least two. -/
def ofWorkers (workers : Datum) : Schedule :=
  if workers.isPresent = false then inTurn
  else
    match workers.compareInteger? 1 with
    | none => unusable
    | some (some .gt) => pool []
    | some _ => inTurn

/-- The results of the tasks `0, 1, …`, in this order. -/
def run {α : Type} (s : Schedule) (tasks : Nat) (task : Nat → Except Failure α) :
    Except Failure (List α) :=
  match s with
  | inTurn => (List.range tasks).mapM task
  | pool completion =>
    let finished := completion.map fun j => (j, task j)
    (List.range tasks).mapM fun j => (Table.lookup j finished).getD (task j)
  | unusable => .error .wrongShape

theorem getD_lookup_map {α : Type} (task : Nat → α) (completion : List Nat) (j : Nat) :
    (Table.lookup j (completion.map fun i => (i, task i))).getD (task j) = task j := by
  induction completion with
  | nil => rfl
  | cons i completion ih =>
    rw [List.map_cons, Table.lookup_cons]
    split
    next h => rw [h]; rfl
    next => exact ih

/-- The order in which a pool finishes does not show in its results. -/
theorem run_pool {α : Type} (completion : List Nat) (tasks : Nat)
    (task : Nat → Except Failure α) :
    (pool completion).run tasks task = inTurn.run tasks task := by
  simp only [run, getD_lookup_map]

end Schedule

end LiabilityProof
