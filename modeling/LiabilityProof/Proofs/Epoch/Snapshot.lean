import LiabilityProof.Epoch.Snapshot
import LiabilityProof.Proofs.Kzg.Setup
import LiabilityProof.Proofs.Ledger.Columns

/-!
# What a snapshot guarantees

The check that a snapshot passes when it is made comes down to four conditions, and one of them
bounds the degrees of the columns by the number of rows, whether or not the columns are those of
the entries. What an entry claims for the columns is its row.
-/

namespace LiabilityProof

namespace Snapshot

variable {columns : List Poly} {entries : List Entry} {setup : TrustedSetup}

/-! ### The shape -/

theorem degreeMismatch?_eq_none_iff {rows j : Nat} {fs : List Poly} :
    degreeMismatch? rows j fs = none ↔ ∀ f ∈ fs, f.degree < rows := by
  induction fs generalizing j with
  | nil => simp [degreeMismatch?]
  | cons f fs ih =>
    rw [degreeMismatch?, List.forall_mem_cons]
    split
    next h => rw [ih, and_iff_right h]
    next h => exact iff_of_false (by simp) fun hall => h hall.1

theorem entryMismatch?_eq_none_iff {currencies : Datum} {e : Entry} :
    entryMismatch? currencies e = none ↔
      (Datum.integer e.balances.length).same currencies = true := by
  rw [entryMismatch?]
  split
  next h => exact iff_of_true rfl h
  next h => exact iff_of_false (by simp) h

/-- What it takes to fit a set-up. -/
theorem mismatch?_eq_none_iff :
    mismatch? columns entries setup = none ↔
      (Datum.integer columns.length).same setup.columns = true ∧
        entries.length ≤ setup.domain.size ∧
        (∀ e ∈ entries, (Datum.integer e.balances.length).same setup.currencies = true) ∧
        ∀ f ∈ columns, f.degree < setup.domain.size := by
  rw [mismatch?]
  split
  next h => exact iff_of_false (by simp) fun hall => absurd hall.1 (by rw [h]; simp)
  next h =>
    rw [Bool.not_eq_false] at h
    rw [and_iff_right h]
    split
    next hlt => exact iff_of_false (by simp) fun hall => absurd hall.1 (not_le.mpr hlt)
    next hle =>
      rw [and_iff_right (not_lt.mp hle)]
      simp only [← entryMismatch?_eq_none_iff, ← List.findSome?_eq_none_iff]
      split
      next failure hfailure => exact iff_of_false (by simp) (by rw [hfailure]; simp)
      next hnone => rw [degreeMismatch?_eq_none_iff, and_iff_right hnone]

/-- Columns that fit the number of currencies and have degrees below the number of rows make a
snapshot, together with entries that fit as well. -/
theorem mismatch?_eq_none {columns : List Poly} {entries : List Entry} {setup : TrustedSetup}
    {currencies : Nat} (hsetup : setup.columns = .integer (currencies + 1 : Nat))
    (hcolumns : columns.length = currencies + 1)
    (hdegree : ∀ f ∈ columns, f.degree < setup.domain.size)
    (hroom : entries.length ≤ setup.domain.size)
    (hentries : ∀ e ∈ entries, e.balances.length = currencies) :
    mismatch? columns entries setup = none := by
  refine mismatch?_eq_none_iff.mpr ⟨?_, hroom, fun e he => ?_, hdegree⟩
  · rw [hsetup, hcolumns]
    exact decide_eq_true rfl
  · have hcurrencies : setup.currencies = .integer currencies := by
      rw [TrustedSetup.currencies, hsetup]
      change Datum.integer (((currencies + 1 : Nat) : Int) + -1) = _
      congr 1
      omega
    rw [hcurrencies, hentries e he]
    exact decide_eq_true rfl

/-- Columns and entries that fit make a snapshot of them. -/
theorem make_eq_ok {schedule : Schedule} (h : mismatch? columns entries setup = none) :
    make columns entries setup schedule = .ok ⟨columns, entries, setup, schedule, h⟩ := by
  rw [make]
  split
  next failure hfailure => exact absurd (hfailure.symm.trans h) (by simp)
  next => rfl

theorem kind_of_degreeMismatch? {rows j : Nat} {fs : List Poly} {failure : Failure}
    (h : degreeMismatch? rows j fs = some failure) : failure.kind = .configuration := by
  induction fs generalizing j with
  | nil => exact absurd h (by simp [degreeMismatch?])
  | cons f fs ih =>
    rw [degreeMismatch?] at h
    split at h
    next => exact ih h
    next => exact Option.some.inj h ▸ rfl

theorem kind_of_showing {values : List Datum} {failure : Failure}
    (hkind : failure.kind = .configuration) :
    (Failure.showing values failure).kind = .configuration ∨
      ∃ d ∈ values, ∃ obstacle, d.obstacle? = some obstacle ∧
        Failure.showing values failure = .ofObstacle obstacle :=
  (failure.showing_cases values).imp_left fun h => by rwa [h]

theorem kind_of_entryMismatch? {currencies : Datum} {e : Entry} {failure : Failure}
    (h : entryMismatch? currencies e = some failure) :
    failure.kind = .configuration ∨ ∃ d ∈ [e.username, currencies], ∃ obstacle,
      d.obstacle? = some obstacle ∧ failure = .ofObstacle obstacle := by
  rw [entryMismatch?] at h
  split at h
  next => exact absurd h (by simp)
  next => exact Option.some.inj h ▸ kind_of_showing rfl

/-- What does not fit is reported as a failure of configuration, unless a number of the set-up or
the name of an entry cannot be shown. -/
theorem kind_of_mismatch? {failure : Failure} (h : mismatch? columns entries setup = some failure) :
    failure.kind = .configuration ∨
      ∃ d, (d = setup.columns ∨ d = setup.currencies ∨ ∃ e ∈ entries, d = e.username) ∧
        ∃ obstacle, d.obstacle? = some obstacle ∧ failure = .ofObstacle obstacle := by
  rw [mismatch?] at h
  split at h
  next =>
    rw [← Option.some.inj h]
    refine (kind_of_showing rfl).imp_right fun ⟨d, hd, hobstacle⟩ => ⟨d, .inl ?_, hobstacle⟩
    exact List.mem_singleton.mp hd
  next =>
    split at h
    next => exact .inl (Option.some.inj h ▸ rfl)
    next =>
      split at h
      next found hfound =>
        obtain ⟨e, he, hmismatch⟩ := List.exists_of_findSome?_eq_some hfound
        rw [← Option.some.inj h]
        refine (kind_of_entryMismatch? hmismatch).imp_right fun ⟨d, hd, hobstacle⟩ =>
          ⟨d, .inr ?_, hobstacle⟩
        obtain rfl | hd := List.mem_cons.mp hd
        · exact .inr ⟨e, he, rfl⟩
        · exact .inl (List.mem_singleton.mp hd)
      next => exact .inl (kind_of_degreeMismatch? h)

theorem mismatch?_of_make_eq_error {schedule : Schedule} {failure : Failure}
    (h : make columns entries setup schedule = .error failure) :
    mismatch? columns entries setup = some failure := by
  rw [make] at h
  split at h
  next found hfound => rw [hfound, Except.error.inj h]
  next => exact absurd h (by simp)

/-- Whatever the columns are, their degrees lie below the number of rows. -/
theorem degree_lt_size (s : Snapshot) {f : Poly} (hf : f ∈ s.columns) :
    f.degree < s.setup.domain.size :=
  (mismatch?_eq_none_iff.mp s.fits).2.2.2 f hf

/-- Keys that reach the last row reach the degree of every column. -/
theorem degree_le_of_honest {E : PairingGroups} {τ : Scalar} {d : Nat} {s : Snapshot}
    (hsetup : s.setup.Honest E τ d) {f : Poly} (hf : f ∈ s.columns) : f.degree ≤ d := by
  have hlt := s.degree_lt_size hf
  have hle := hsetup.size_le
  omega

/-! ### Columns and claims -/

theorem column_ofNat {s : Snapshot} {j : Nat} {f : Poly} (hf : s.columns[j]? = some f) :
    s.column (.integer j) = .ok f := by
  have hj : j < s.columns.length := (List.getElem?_eq_some_iff.mp hf).1
  have hlow : (some (compare (j : Int) 0)).any (· ≠ .lt) = true := by
    rw [Option.any_some, decide_eq_true_iff]
    exact compare_ge_iff_ge.mpr (Int.natCast_nonneg j)
  have hhigh : (some (compare (j : Int) s.width) == some .lt) = true := by
    rw [beq_iff_eq, Option.some_inj, compare_lt_iff_lt]
    exact_mod_cast hj
  have hindex : ((Datum.integer j).asInteger?.bind fun i => s.columns[i.toNat]?) = some f := hf
  change (if (some (compare (j : Int) 0)).any (· ≠ .lt) &&
      (some (compare (j : Int) s.width) == some .lt) then _ else _) = _
  rw [hlow, hhigh, hindex]
  rfl

/-- What an entry claims for a column is in its row. -/
theorem claimedValue_ofNat {name : String} {balances : List Nat} {j : Nat} {value : Scalar}
    (h : (Columns.rowValues name balances)[j]? = some value) :
    claimedValue ⟨.text name, balances⟩ (.integer j) = .ok value := by
  cases j with
  | zero =>
    rw [Columns.rowValues, List.getElem?_cons_zero, Option.some_inj] at h
    rw [← h]
    rfl
  | succ j =>
    rw [Columns.rowValues, List.getElem?_cons_succ, List.getElem?_map, Option.map_eq_some_iff] at h
    obtain ⟨b, hb, rfl⟩ := h
    -- the column `j + 1` is that of the balance `j`
    have hzero : (Datum.integer (j + 1 : Nat)).same (.integer 0) = false := by
      change (some (decide (((j + 1 : Nat) : Int) = 0))).getD false = false
      rw [Option.getD_some, decide_eq_false_iff_not]
      omega
    have hmember : memberAt? balances (((j + 1 : Nat) : Int) - 1) = some b := by
      rw [memberAt?, if_pos (by omega), ← hb]
      congr 1
      omega
    have hindex : (Datum.integer (j + 1 : Nat)).asInteger? = some ((j + 1 : Nat) : Int) := rfl
    simp only [claimedValue, hzero, hindex, hmember, Bool.false_eq_true, if_false]

end Snapshot

end LiabilityProof
