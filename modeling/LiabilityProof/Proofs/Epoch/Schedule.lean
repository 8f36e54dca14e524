import LiabilityProof.Epoch.Schedule
import LiabilityProof.Proofs.Outcome

/-!
# What a schedule gives

A schedule that can be used gives the results of all tasks, or the failure of the first task that
fails, in whatever order the tasks finish.
-/

namespace LiabilityProof

namespace Schedule

variable {α : Type} {s : Schedule} {n : Nat} {task : Nat → Except Failure α}

/-- Every schedule that can be used amounts to running the tasks in turn. -/
theorem run_eq_inTurn (hs : s ≠ .unusable) : s.run n task = inTurn.run n task := by
  cases s with
  | inTurn => rfl
  | pool completion => exact run_pool completion n task
  | unusable => exact absurd rfl hs

/-- Tasks that succeed, one for each member of a list. -/
theorem run_eq_ok (hs : s ≠ .unusable) {β : Type} {l : List β} {g : β → α}
    (h : ∀ j b, l[j]? = some b → task j = .ok (g b)) :
    s.run l.length task = .ok (l.map g) := by
  rw [run_eq_inTurn hs, run]
  induction l generalizing task with
  | nil => rfl
  | cons b l ih =>
    have htail : (List.range l.length).mapM (task ∘ Nat.succ) = .ok (l.map g) :=
      ih fun j b' hb' => h (j + 1) b' hb'
    rw [List.length_cons, List.range_succ_eq_map, List.mapM_cons, List.mapM_map, h 0 b rfl]
    change (List.mapM (task ∘ Nat.succ) (List.range l.length) >>= fun rest => _) = _
    rw [htail]
    rfl

theorem run_eq_error (hs : s ≠ .unusable) {j : Nat} (hj : j < n) {failure : Failure}
    (hbefore : ∀ i < j, ∃ a, task i = .ok a) (h : task j = .error failure) :
    s.run n task = .error failure := by
  -- the tasks before `j`, the task `j`, and those that do not count any more
  have hrange : List.range n = List.range j ++ j :: List.range' (j + 1) (n - j - 1) := by
    have happend := List.range'_append_1 (s := 0) (m := j) (n := n - j - 1 + 1)
    rw [List.range'_succ, Nat.zero_add, show j + (n - j - 1 + 1) = n by omega] at happend
    rw [List.range_eq_range', List.range_eq_range', happend]
  rw [run_eq_inTurn hs, run, hrange]
  exact mapM_append_cons_eq_error (fun i hi => hbefore i (List.mem_range.mp hi)) h

end Schedule

end LiabilityProof
