import LiabilityProof.Proofs.Storage.Document
import LiabilityProof.Storage.RecordFile

/-!
# Files of records are tables

A file of records *tabulates* a table if the document in the file writes it, every row has a key,
the numbers of rows still to come are free, and whatever is remembered of searches is what they
would find. Of a file that tabulates a table, searches find the rows under the key; and what `put`
and `remove` leave tabulates a table again, in which nothing but the rows they are about changed.

Numbers of rows are counted on for ever, and a number of too many digits cannot be written. So a
file takes only so many new rows, less than `capacity`, and it is part of what is said of a file
for how many there is room yet.
-/

namespace LiabilityProof

namespace RecordFile

open Document (under keyOf? written)

/-- A file takes fewer rows than this. -/
def capacity : Nat := 10 ^ Text.maxDigits

theorem ten_le_capacity : 10 ≤ capacity := Nat.le_self_pow (by decide) 10

theorem isTooLong_eq_false {n : Int} (h : 0 ≤ n) (hlt : n < (capacity : Int)) :
    Text.isTooLong n = false := by
  refine Text.isTooLong_eq_false_iff.mpr ?_
  rw [← capacity]
  omega

theorem document_write (f : RecordFile) (dir : Directory) (d : Datum) :
    f.document (f.write dir d) = .ok d := by
  rw [document, write, Directory.get?_put, if_pos rfl]
  rfl

theorem isMarked_of_keyOf? {row : Datum} {key : String} (h : keyOf? row = some key)
    (mark : String) : isMarked (.text mark) row = .ok (Document.startsWith mark key) := by
  obtain ⟨fields, rfl, htype⟩ := Document.exists_of_keyOf?_eq_some h
  simp only [isMarked, htype]
  rfl

/-- The file holds a table, and there is room for more rows. -/
structure Tabulates (f : RecordFile) (dir : Directory) (table : List (Int × Datum)) (room : Nat) :
    Prop where
  /-- The document in the file writes the table. -/
  rows : ∃ document, f.document dir = .ok document ∧
    Document.rows tableName document = .ok (written table)
  /-- Every row has a key. -/
  keyed : ∀ row ∈ table, ∃ key, keyOf? row.2 = some key
  /-- No two rows have the same number. -/
  nodup : (table.map Prod.fst).Nodup
  /-- Until the first row is added there are none. -/
  nil : f.next = none → table = []
  /-- The numbers of the rows lie below the next. -/
  lt_next : ∀ row ∈ table, 0 ≤ row.1 ∧ row.1 < f.next.getD 1
  /-- The numbers of the rows to come can be written. -/
  next_add_le : 1 ≤ f.next.getD 1 ∧ f.next.getD 1 + room ≤ (capacity : Int)
  /-- What is remembered of a search is what it would find. -/
  found : ∀ answer ∈ f.found, ∃ key, answer = (.text key, under key table)

namespace Tabulates

variable {f : RecordFile} {dir : Directory} {table : List (Int × Datum)} {room : Nat}

theorem isTable (h : f.Tabulates dir table room) : Document.IsTable table where
  nodup := h.nodup
  writable row hrow := by
    obtain ⟨hnonneg, hlt⟩ := h.lt_next row hrow
    have hle := h.next_add_le.2
    exact isTooLong_eq_false hnonneg (by omega)

theorem mono (h : f.Tabulates dir table room) {room' : Nat} (hle : room' ≤ room) :
    f.Tabulates dir table room' where
  rows := h.rows
  keyed := h.keyed
  nodup := h.nodup
  nil := h.nil
  lt_next := h.lt_next
  next_add_le := ⟨h.next_add_le.1, by have := h.next_add_le.2; omega⟩
  found := h.found

/-- A file of nothing holds no rows. -/
theorem ofName {name : String} (hnull : (RecordFile.ofName name).document dir = .ok .null)
    (hroom : room < capacity) : (RecordFile.ofName name).Tabulates dir [] room where
  rows := ⟨.null, hnull, rfl⟩
  keyed := by simp
  nodup := List.nodup_nil
  nil _ := rfl
  lt_next := by simp
  next_add_le := by
    change (1 : Int) ≤ 1 ∧ (1 : Int) + room ≤ capacity
    omega
  found := by simp [RecordFile.ofName]

/-! ### Searches -/

/-- What was found may be remembered. -/
theorem remember (h : f.Tabulates dir table room) (key : String) :
    (f.remember (.text key) (under key table)).Tabulates dir table room where
  rows := h.rows
  keyed := h.keyed
  nodup := h.nodup
  nil := h.nil
  lt_next := h.lt_next
  next_add_le := h.next_add_le
  found answer hanswer := by
    rcases List.mem_append.mp (List.mem_of_mem_drop hanswer) with hkept | hnew
    · exact h.found answer (List.mem_of_mem_filter hkept)
    · exact ⟨key, List.mem_singleton.mp hnew⟩

/-- A search finds the rows under its key, from memory or in the document. -/
theorem search_eq (h : f.Tabulates dir table room) (key : String) :
    f.search dir (.text key) =
      (f.remember (.text key) (under key table), .ok (under key table)) := by
  rw [search]
  cases hfind : f.found.find? fun answer => answer.1.same (.text key) with
  | some answer =>
    obtain ⟨key', rfl⟩ := h.found answer (List.mem_of_find?_eq_some hfind)
    have hsame : (Datum.text key').same (.text key) = true :=
      List.find?_some (p := fun answer : Datum × List Datum => answer.1.same (.text key)) hfind
    obtain rfl := Datum.text.inj (Datum.same_text_iff.mp hsame)
    rfl
  | none =>
    obtain ⟨document, hdocument, hrows⟩ := h.rows
    have hsearch : (f.document dir >>= Document.search tableName (.text key)) =
        .ok (under key table) := by
      rw [hdocument]
      exact Document.search_of_written h.isTable hrows (.text key)
    simp only [hsearch]

/-! ### Changes -/

/-- A table of some of the numbers may be written in place of the table. -/
theorem write (h : f.Tabulates dir table room) {table' : List (Int × Datum)}
    (hnumbers : (table'.map Prod.fst).Sublist (table.map Prod.fst))
    (hkeyed : ∀ row ∈ table', ∃ key, keyOf? row.2 = some key) (d : Datum) :
    f.forget.Tabulates (f.write dir (Document.withTable tableName table' d)) table' room where
  rows := ⟨_, document_write f dir _, Document.rows_withTable tableName table' d⟩
  keyed := hkeyed
  nodup := h.nodup.sublist hnumbers
  nil hnext := by
    rw [h.nil hnext] at hnumbers
    exact List.map_eq_nil_iff.mp (List.sublist_nil.mp hnumbers)
  lt_next row hrow := by
    obtain ⟨row', hrow', heq⟩ := List.mem_map.mp (hnumbers.mem (List.mem_map_of_mem hrow))
    exact heq ▸ h.lt_next row' hrow'
  next_add_le := h.next_add_le
  found := by simp [forget]

theorem next_notMem (h : f.Tabulates dir table room) :
    f.next.getD 1 ∉ table.map Prod.fst := by
  intro hmem
  obtain ⟨row, hrow, heq⟩ := List.mem_map.mp hmem
  exact absurd (h.lt_next row hrow).2 (by omega)

/-- A row may be written behind the others. -/
theorem write_append (h : f.Tabulates dir table (room + 1)) (hfound : f.found = []) {n : Int}
    (hn : f.next.getD 1 = n) {row : Datum} (hkeyed : ∃ key, keyOf? row = some key) (d : Datum) :
    RecordFile.Tabulates { f with next := some (n + 1) }
      (f.write dir (Document.withTable tableName (table ++ [(n, row)]) d)) (table ++ [(n, row)])
      room where
  rows := ⟨_, document_write f dir _, Document.rows_withTable tableName _ d⟩
  keyed r hr := by
    rcases List.mem_append.mp hr with hr | hr
    · exact h.keyed r hr
    · rwa [List.mem_singleton.mp hr]
  nodup := Table.nodup_map_fst_append h.nodup (hn ▸ h.next_notMem) row
  nil hnone := absurd hnone (Option.some_ne_none _)
  lt_next r hr := by
    rw [Option.getD_some]
    rcases List.mem_append.mp hr with hr | hr
    · have := h.lt_next r hr
      omega
    · have hrow : r.1 = n := congrArg Prod.fst (List.mem_singleton.mp hr)
      have := h.next_add_le.1
      omega
  next_add_le := by
    have := h.next_add_le
    rw [Option.getD_some]
    push_cast at this
    omega
  found := by simp [hfound]

/-- The next row is written behind the others. -/
theorem append_eq (h : f.Tabulates dir table (room + 1)) {n : Int} (hn : f.next.getD 1 = n)
    {document : Datum} (hdocument : f.document dir = .ok document) (key : String) (data : Datum) :
    let row := Document.fill (.text key) data (.object [])
    f.append dir (.text key) data document =
      ({ f with next := some (n + 1) },
        f.write dir (Document.withTable tableName (table ++ [(n, row)]) document), .ok ()) := by
  intro row
  obtain ⟨_, hdocument', hrows⟩ := h.rows
  obtain rfl := Except.ok.inj (hdocument'.symm.trans hdocument)
  have hnumber : f.next.getD (Document.nextNumber table) = n := by
    cases hnext : f.next with
    | none =>
      rw [hnext] at hn
      rw [h.nil hnext]
      exact hn
    | some m => rwa [hnext] at hn
  have hwritable : Text.isTooLong n = false := by
    have := h.next_add_le
    exact isTooLong_eq_false (by omega) (by omega)
  rw [RecordFile.append,
    Document.append_of_written h.isTable hrows hnumber hwritable (hn ▸ h.next_notMem)]

/-- Data can be put under a key, and nothing else changes. -/
theorem put (h : f.Tabulates dir table (room + 1)) (key : String) (data : Datum) :
    ∃ f' dir' table', f.put dir (.text key) data = (f', dir', .ok ()) ∧
      f'.Tabulates dir' table' room ∧ Document.FirstHas data (under key table') ∧
      ∀ other, other ≠ key → under other table' = under other table := by
  obtain ⟨document, hdocument, hrows⟩ := h.rows
  have hupdate : (f.document dir >>= Document.update tableName (.text key) data) =
      .ok (Document.withTable tableName (Document.refilled key data table) document,
        table.any fun row => Document.hasType (.text key) row.2) := by
    rw [hdocument]
    exact Document.update_of_written h.isTable hrows (.text key) data
  have hkeyed : ∀ row ∈ Document.refilled key data table, ∃ key, keyOf? row.2 = some key := by
    intro row hrow
    obtain ⟨row', hrow', rfl⟩ := List.mem_map.mp hrow
    rw [Document.keyOf?_refill]
    exact h.keyed row' hrow'
  have hwritten := h.write (Document.map_fst_refilled key data table ▸ List.Sublist.refl _)
    hkeyed document
  rw [RecordFile.put, hupdate]
  by_cases hunder : under key table = []
  · -- there is no such row yet, and the document was written as it is
    rw [Document.refilled_of_under_eq_nil hunder] at hwritten ⊢
    rw [Document.under_eq_nil_iff.mp hunder]
    refine ⟨_, _, _, hwritten.append_eq rfl (document_write f.forget dir _) key data,
      hwritten.write_append rfl rfl ⟨key, Document.keyOf?_fill key data []⟩ _, ?_,
      fun other hne => ?_⟩
    · rw [Document.under_append, hunder, Document.keyOf?_fill, if_pos rfl]
      exact ⟨_, [], rfl, Document.lookup_data_fill (.text key) data []⟩
    · rw [Document.under_append, Document.keyOf?_fill,
        if_neg fun heq => hne (Option.some.inj heq).symm, List.append_nil]
  · rw [Bool.eq_true_of_not_eq_false (mt Document.under_eq_nil_iff.mpr hunder)]
    exact ⟨_, _, _, rfl, hwritten.mono (Nat.le_succ room),
      Document.firstHas_under_refilled hunder data,
      fun other hne => Document.under_refilled_of_ne hne data table⟩

/-- The records whose keys start with a text can be removed, and nothing else changes. -/
theorem remove (h : f.Tabulates dir table room) (mark : String) :
    ∃ f' dir', f.remove dir (.text mark) = (f', dir', .ok ()) ∧
      f'.Tabulates dir' (Document.unmarked mark table) room := by
  obtain ⟨document, hdocument, hrows⟩ := h.rows
  have hfilter : (table.filterM fun (row : Int × Datum) =>
      (isMarked (.text mark) row.2).map not) = .ok (Document.unmarked mark table) := by
    refine filterM_eq_ok_filter fun row hrow => ?_
    obtain ⟨key, hkey⟩ := h.keyed row hrow
    rw [isMarked_of_keyOf? hkey, hkey]
    rfl
  refine ⟨f.forget, _, ?_, h.write (List.filter_sublist.map Prod.fst)
    (fun row hrow => h.keyed row (List.mem_of_mem_filter hrow)) document⟩
  rw [RecordFile.remove, hdocument]
  simp only [bind, Except.bind, Document.table_of_written h.isTable hrows, hfilter]
  rfl

end Tabulates

end RecordFile

end LiabilityProof
