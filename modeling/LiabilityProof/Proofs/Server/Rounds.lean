import Mathlib.Data.List.Forall2
import Mathlib.Data.List.Sort
import LiabilityProof.Proofs.Server.Reference
import LiabilityProof.Proofs.Storage.Document

/-!
# The rounds of a state and those of the reference

The rounds that a state keeps *follow* those of the reference server if they stand under the same
timestamps in the same order and differ in no more than in what was handed to their signers. Then
a round is found under a timestamp in both or in neither, the timestamps in their order are the
same, and a round may be put in both, or be replaced in one by a round alike.
-/

namespace LiabilityProof

/-- Rounds that differ at most in what was handed to the signer, and in who that is. -/
structure Round.Alike (r r' : Round) : Prop where
  timestamp : r.timestamp = r'.timestamp
  snapshot : r.snapshot = r'.snapshot

namespace Round.Alike

variable {r r' : Round}

theorem proofDocument_eq (h : r.Alike r') (E : PairingGroups) (user : Int) :
    Service.proofDocument E r user = Service.proofDocument E r' user := by
  rw [Service.proofDocument, Service.proofDocument, inclusionProof, inclusionProof, h.snapshot]

/-- Dispatching leaves a round what it is. -/
theorem dispatch (E : PairingGroups) (r : Round) (timeout : Datum) :
    (r.dispatch E timeout).1.Alike r := by
  rw [Round.dispatch]
  split
  · exact ⟨rfl, rfl⟩
  · split <;> exact ⟨rfl, rfl⟩

end Round.Alike

/-! ### The same rounds -/

/-- Rounds under integers, and the same rounds in a table. -/
def Follow (rounds : List (Datum × Round)) (table : List (Int × Round)) : Prop :=
  List.Forall₂ (fun row row' => row.1 = .integer row'.1 ∧ row.2.Alike row'.2) rounds table

namespace Follow

variable {rounds : List (Datum × Round)} {table : List (Int × Round)}

theorem findRound (h : Follow rounds table) (t : Int) :
    Option.Rel Round.Alike (State.findRound (.integer t) rounds) (Table.lookup t table) := by
  induction h with
  | nil => exact .none
  | @cons row row' rounds table hrow _ ih =>
    obtain ⟨_, r⟩ := row
    obtain ⟨n, r'⟩ := row'
    obtain ⟨rfl, halike⟩ := hrow
    rw [State.findRound, Table.lookup_cons, Datum.same_integer]
    simp only [decide_eq_true_iff]
    split
    · exact .some halike
    · exact ih

/-- A round may be put under its timestamp in both. -/
theorem insert (h : Follow rounds table) (t : Int) {r r' : Round} (halike : r.Alike r') :
    Follow (State.insertRound (.integer t) r rounds) (Table.insert t r' table) := by
  induction h with
  | nil => exact .cons ⟨rfl, halike⟩ .nil
  | @cons row row' rounds table hrow htable ih =>
    obtain ⟨_, _⟩ := row
    obtain ⟨n, _⟩ := row'
    obtain ⟨rfl, hold⟩ := hrow
    rw [State.insertRound, Table.insert, Datum.same_integer]
    simp only [decide_eq_true_iff]
    split
    · exact .cons ⟨rfl, halike⟩ htable
    · exact .cons ⟨rfl, hold⟩ ih

/-- A round that is there may be replaced by one alike. -/
theorem replace (h : Follow rounds table) {t : Int} {r r' : Round}
    (hfind : State.findRound (.integer t) rounds = some r) (halike : r'.Alike r) :
    Follow (State.insertRound (.integer t) r' rounds) table := by
  induction h with
  | nil => exact absurd hfind (by simp [State.findRound])
  | @cons row row' rounds table hrow htable ih =>
    obtain ⟨_, _⟩ := row
    obtain ⟨n, _⟩ := row'
    obtain ⟨rfl, hold⟩ := hrow
    rw [State.findRound, Datum.same_integer] at hfind
    rw [State.insertRound, Datum.same_integer]
    simp only [decide_eq_true_iff] at hfind ⊢
    split at hfind
    next heq =>
      obtain rfl := Option.some.inj hfind
      rw [if_pos heq]
      exact .cons ⟨rfl, halike.timestamp.trans hold.timestamp, halike.snapshot.trans hold.snapshot⟩
        htable
    next hne =>
      rw [if_neg hne]
      exact .cons ⟨rfl, hold⟩ (ih hfind)

theorem map_fst (h : Follow rounds table) :
    rounds.map Prod.fst = (table.map Prod.fst).map .integer := by
  induction h with
  | nil => rfl
  | cons hrow _ ih => rw [List.map_cons, List.map_cons, List.map_cons, hrow.1, ih]

end Follow

/-! ### The order of timestamps -/

namespace State

theorem precedes?_integer (a b : Int) :
    precedes? (.integer a) (.integer b) = some (decide (a < b)) := by
  change some (compare a b == .lt) = _
  rw [Option.some.injEq, Bool.eq_iff_iff, beq_iff_eq, decide_eq_true_iff, compare_lt_iff_lt]

theorem comparable_map_integer (ts : List Int) : comparable (ts.map .integer) = true := by
  induction ts with
  | nil => rfl
  | cons t ts ih =>
    cases ts with
    | nil => rfl
    | cons u ts =>
      rw [List.map_cons, List.map_cons, comparable, precedes?_integer, ← List.map_cons, ih]
      rfl

theorem timestamps_of_follow {s : State} {table : List (Int × Round)}
    (h : Follow s.rounds table) :
    s.timestamps = .ok ((table.map Prod.fst).mergeSort.map .integer) := by
  have hsort := List.map_mergeSort (r := fun a b : Int => decide (a ≤ b))
    (s := fun a b => !((precedes? b a).getD false)) (f := Datum.integer)
    (l := table.map Prod.fst) fun a _ b _ => by
      rw [precedes?_integer, Option.getD_some, ← decide_not]
      exact decide_eq_decide.mpr not_lt.symm
  rw [timestamps, h.map_fst]
  simp only [comparable_map_integer, if_true]
  exact congrArg Except.ok hsort.symm

end State

end LiabilityProof
