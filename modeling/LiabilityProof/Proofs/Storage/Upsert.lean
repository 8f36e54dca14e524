import LiabilityProof.Proofs.Storage.Document

/-!
# Data that were saved are found

Whatever a document held before, its table is read as rows of distinct numbers that can be written
(`Document.isTable_of_table`), and so the table that is written in its place is read back. Data saved
under a key are therefore the data of the first row that a search for the key finds: they were put
into all rows that there were, or into a new one (`Document.exists_search_of_upsert`).
-/

namespace LiabilityProof

/-! ### Keys of tables by insertion -/

namespace Table

variable {κ α : Type} [DecidableEq κ]

theorem map_fst_insert_of_mem {key : κ} {table : List (κ × α)} (h : key ∈ table.map Prod.fst)
    (value : α) : (insert key value table).map Prod.fst = table.map Prod.fst := by
  induction table with
  | nil => simp at h
  | cons row table ih =>
    by_cases hrow : row.1 = key
    · rw [insert, if_pos hrow, List.map_cons, List.map_cons]
    · have hmem : key ∈ table.map Prod.fst :=
        (List.mem_cons.mp h).resolve_left (Ne.symm hrow)
      rw [insert, if_neg hrow, List.map_cons, List.map_cons, ih hmem]

end Table

namespace Document

variable {name : String} {document document' : Datum} {table : List (Int × Datum)}

/-! ### Tables that are read -/

theorem isTooLong_of_rowNumber {n : Int} (h : rowNumber name = .ok n) :
    Text.isTooLong n = false :=
  Text.isTooLong_of_readInteger (mapError_eq_ok_iff.mp h)

namespace IsTable

theorem nil : IsTable [] := ⟨List.nodup_nil, by simp⟩

/-- Tables are told by the numbers of their rows. -/
theorem of_map_fst {table' : List (Int × Datum)} (h : IsTable table)
    (hnumbers : table'.map Prod.fst = table.map Prod.fst) : IsTable table' where
  nodup := hnumbers ▸ h.nodup
  writable row hrow := by
    have hmem : row.1 ∈ table.map Prod.fst := hnumbers ▸ List.mem_map_of_mem hrow
    obtain ⟨row', hrow', heq⟩ := List.mem_map.mp hmem
    exact heq ▸ h.writable row' hrow'

theorem append (h : IsTable table) {n : Int} (hn : Text.isTooLong n = false)
    (hfree : n ∉ table.map Prod.fst) (row : Datum) : IsTable (table ++ [(n, row)]) where
  nodup := Table.nodup_map_fst_append h.nodup hfree row
  writable row' hrow' := by
    rcases List.mem_append.mp hrow' with hrow' | hrow'
    · exact h.writable row' hrow'
    · rwa [List.mem_singleton.mp hrow']

theorem insert (h : IsTable table) {n : Int} (hn : Text.isTooLong n = false) (row : Datum) :
    IsTable (Table.insert n row table) := by
  by_cases hmem : n ∈ table.map Prod.fst
  · exact h.of_map_fst (Table.map_fst_insert_of_mem hmem row)
  · rw [Table.insert_of_notMem hmem]
    exact h.append hn hmem row

theorem foldl_insert (h : IsTable table) {pairs : List (Int × Datum)}
    (hpairs : ∀ pair ∈ pairs, Text.isTooLong pair.1 = false) :
    IsTable (pairs.foldl (fun table row => Table.insert row.1 row.2 table) table) := by
  induction pairs generalizing table with
  | nil => exact h
  | cons pair pairs ih =>
    exact ih (h.insert (hpairs pair List.mem_cons_self) pair.2)
      fun row hrow => hpairs row (List.mem_cons_of_mem pair hrow)

end IsTable

theorem isTable_of_numbered {rows : List (String × Datum)} (h : numbered rows = .ok table) :
    IsTable table := by
  obtain ⟨pairs, hpairs, h⟩ := bind_eq_ok_iff.mp h
  obtain rfl := Except.ok.inj h
  refine IsTable.nil.foldl_insert fun pair hpair => ?_
  obtain ⟨i, hi⟩ := List.mem_iff_getElem?.mp hpair
  obtain ⟨row, -, hrow⟩ := exists_getElem?_of_mapM hpairs hi
  obtain ⟨n, hn, rfl⟩ := map_eq_ok_iff.mp hrow
  exact isTooLong_of_rowNumber hn

/-- However the rows are written, they are read under distinct numbers that can be written. -/
theorem isTable_of_table (h : Document.table name document = .ok table) : IsTable table := by
  obtain ⟨rows, -, h⟩ := bind_eq_ok_iff.mp h
  exact isTable_of_numbered h

/-! ### Documents that are written -/

/-- What an update writes, in terms of the table that it reads. -/
theorem exists_of_update {key : String} {data : Datum} {found : Bool}
    (h : update name (.text key) data document = .ok (document', found)) :
    ∃ table, IsTable table ∧ document' = withTable name (refilled key data table) document ∧
      (found = true ↔ under key table ≠ []) := by
  obtain ⟨table, htable, h⟩ := bind_eq_ok_iff.mp h
  obtain ⟨rfl, rfl⟩ := Prod.mk.inj (Except.ok.inj h)
  refine ⟨table, isTable_of_table htable, rfl, ?_⟩
  rw [Ne, under_eq_nil_iff, Bool.not_eq_false]

/-- What an addition writes, in terms of the table that it reads. -/
theorem exists_of_append {number : Option Int} {row : Datum} {n : Int}
    (h : append name number row document = .ok (document', n)) :
    ∃ table, Document.table name document = .ok table ∧
      document' = withTable name (table ++ [(n, row)]) document ∧ IsTable (table ++ [(n, row)]) := by
  obtain ⟨table, htable, h⟩ := bind_eq_ok_iff.mp h
  dsimp only at h
  split at h
  next => exact absurd h (by simp)
  next hshort =>
    split at h
    next => exact absurd h (by simp)
    next hfree =>
      obtain ⟨rfl, rfl⟩ := Prod.mk.inj (Except.ok.inj h)
      refine ⟨table, htable, rfl, (isTable_of_table htable).append (by simpa using hshort) ?_ row⟩
      intro hmem
      obtain ⟨row', hrow', heq⟩ := List.mem_map.mp hmem
      exact hfree (List.any_eq_true.mpr ⟨row', hrow', decide_eq_true heq⟩)

theorem search_withTable (h : IsTable table) (name key : String) (document : Datum) :
    search name (.text key) (withTable name table document) = .ok (under key table) :=
  search_of_written h (rows_withTable name table document) (.text key)

/-- The first row that is found under a key has the data that were saved there last. -/
theorem exists_search_of_upsert {key : String} {data : Datum}
    (h : upsert name (.text key) data document = .ok document') :
    ∃ rows, search name (.text key) document' = .ok rows ∧ FirstHas data rows := by
  obtain ⟨⟨updated, found⟩, hupdate, h⟩ := bind_eq_ok_iff.mp h
  obtain ⟨table, htable, rfl, hfound⟩ := exists_of_update hupdate
  have hrefilled : IsTable (refilled key data table) :=
    htable.of_map_fst (map_fst_refilled key data table)
  dsimp only at h
  by_cases hunder : under key table = []
  · -- there was no such row, and one was added
    rw [if_neg (mt hfound.mp (not_not_intro hunder))] at h
    obtain ⟨⟨appended, n⟩, happend, h⟩ := bind_eq_ok_iff.mp h
    obtain rfl := Except.ok.inj h
    obtain ⟨table', htable', rfl, happended⟩ := exists_of_append happend
    have hread := table_of_written hrefilled (rows_withTable name _ document)
    obtain rfl := Except.ok.inj (htable'.symm.trans hread)
    refine ⟨_, search_withTable happended name key _, ?_⟩
    rw [refilled_of_under_eq_nil hunder, under_append, hunder, keyOf?_fill, if_pos rfl]
    exact ⟨_, [], rfl, lookup_data_fill (.text key) data []⟩
  · rw [if_pos (hfound.mpr hunder)] at h
    obtain rfl := Except.ok.inj h
    exact ⟨_, search_withTable hrefilled name key document, firstHas_under_refilled hunder data⟩

end Document

end LiabilityProof
