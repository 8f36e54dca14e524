import Mathlib.Data.List.Nodup
import LiabilityProof.Proofs.Outcome
import LiabilityProof.Proofs.Text.Decimal
import LiabilityProof.Storage.Document

/-!
# Tables read back from documents

A table whose rows stand under distinct numbers that can be written is read back from the document
it was written to. So searching a document, updating it and appending to it amount to `filter`,
`map` and `++` on the table.

Of most interest are rows whose type is a text, their *key*. Such a row has the type of a text
exactly if this is its key, and a row that is filled has the key and the data it is filled with.
-/

namespace LiabilityProof

/-! ### Tables by insertion -/

namespace Table

variable {κ α : Type} [DecidableEq κ]

theorem insert_of_notMem {key : κ} {table : List (κ × α)} (h : key ∉ table.map Prod.fst)
    (value : α) : insert key value table = table ++ [(key, value)] := by
  induction table with
  | nil => rfl
  | cons row table ih =>
    rw [List.map_cons, List.mem_cons, not_or] at h
    rw [insert, if_neg (Ne.symm h.1), ih h.2, List.cons_append]

omit [DecidableEq κ] in
theorem nodup_map_fst_append {key : κ} {table : List (κ × α)} (h : (table.map Prod.fst).Nodup)
    (hkey : key ∉ table.map Prod.fst) (value : α) :
    ((table ++ [(key, value)]).map Prod.fst).Nodup := by
  rw [List.map_append, List.map_singleton, List.nodup_append]
  refine ⟨h, List.nodup_singleton key, fun key' hmem key'' hmem' heq => hkey ?_⟩
  obtain rfl := List.mem_singleton.mp hmem'
  exact heq ▸ hmem

theorem foldl_insert {table before : List (κ × α)}
    (h : ((before ++ table).map Prod.fst).Nodup) :
    table.foldl (fun table row => insert row.1 row.2 table) before = before ++ table := by
  induction table generalizing before with
  | nil => rw [List.foldl_nil, List.append_nil]
  | cons row table ih =>
    have hassoc : before ++ row :: table = (before ++ [row]) ++ table :=
      List.append_cons before row table
    have hrow : row.1 ∉ before.map Prod.fst := by
      rw [List.map_append, List.nodup_append] at h
      exact fun hmem => h.2.2 _ hmem row.1 List.mem_cons_self rfl
    rw [hassoc] at h
    rw [List.foldl_cons, insert_of_notMem hrow, ih h, hassoc]

end Table

namespace Datum

/-- Nothing but a text equals a text. -/
theorem same_text_iff {d : Datum} {s : String} : d.same (.text s) = true ↔ d = .text s := by
  cases d <;> simp [same, sameNumber?, asInteger?]

theorem same_integer (m n : Int) : same (.integer m) (.integer n) = decide (m = n) := by
  simp [same, sameNumber?, asInteger?]

end Datum

namespace Document

/-! ### What is written -/

/-- The rows of a table as they are written. -/
def written (table : List (Int × Datum)) : List (String × Datum) :=
  table.map fun row => (Text.ofInt row.1, row.2)

theorem rows_withTable (name : String) (table : List (Int × Datum)) (document : Datum) :
    rows name (withTable name table document) = .ok (written table) := by
  rw [withTable, rows, Table.lookup_insert, if_pos rfl]
  rfl

/-- A table that is read back: its rows have distinct numbers that can be written. -/
structure IsTable (table : List (Int × Datum)) : Prop where
  nodup : (table.map Prod.fst).Nodup
  writable : ∀ row ∈ table, Text.isTooLong row.1 = false

theorem rowNumber_ofInt {n : Int} (h : Text.isTooLong n = false) :
    rowNumber (Text.ofInt n) = .ok n := by
  rw [rowNumber, Text.readInteger_ofInt h]
  rfl

variable {name : String} {document : Datum} {table : List (Int × Datum)}

theorem numbered_written (h : IsTable table) : numbered (written table) = .ok table := by
  have hpairs : (written table).mapM (fun row => (rowNumber row.1).map fun n => (n, row.2)) =
      .ok table := by
    refine mapM_map_eq_ok fun row hrow => ?_
    rw [rowNumber_ofInt (h.writable row hrow)]
    rfl
  have hinsert : table.foldl (fun table row => Table.insert row.1 row.2 table) [] = [] ++ table :=
    Table.foldl_insert h.nodup
  rw [numbered, hpairs]
  exact congrArg Except.ok hinsert

section Written

variable (h : IsTable table) (hrows : rows name document = .ok (written table))

include h hrows

theorem table_of_written : Document.table name document = .ok table := by
  rw [Document.table, hrows]
  exact numbered_written h

/-- A search finds the rows of the type. -/
theorem search_of_written (type : Datum) :
    search name type document =
      .ok ((table.filter fun row => hasType type row.2).map Prod.snd) := by
  rw [search, hrows]
  change ((written table).filter _).mapM _ = _
  rw [written, List.filter_map]
  refine mapM_map_eq_ok_map fun row hrow => ?_
  rw [rowNumber_ofInt (h.writable row (List.mem_of_mem_filter hrow))]
  rfl

/-- An update fills the rows of the type, and tells whether there are any. -/
theorem update_of_written (type data : Datum) :
    update name type data document =
      .ok (withTable name
          (table.map fun row =>
            (row.1, if hasType type row.2 then fill type data row.2 else row.2)) document,
        table.any fun row => hasType type row.2) := by
  rw [update, table_of_written h hrows]
  rfl

/-- A row under a free number that can be written is added at the end. -/
theorem append_of_written {number : Option Int} {n : Int}
    (hn : number.getD (nextNumber table) = n) (hwritable : Text.isTooLong n = false)
    (hfree : n ∉ table.map Prod.fst) (row : Datum) :
    append name number row document =
      .ok (withTable name (table ++ [(n, row)]) document, n) := by
  have hany : (table.any fun row => decide (row.1 = n)) = false := by
    refine List.any_eq_false.mpr fun row hrow h => hfree ?_
    rw [← of_decide_eq_true h]
    exact List.mem_map_of_mem hrow
  rw [append, table_of_written h hrows]
  simp only [bind, Except.bind, hn, hwritable, hany, Bool.false_eq_true, if_false]
  rfl

end Written

/-! ### Rows under keys -/

/-- The key of a row, its type if this is a text. -/
def keyOf? : Datum → Option String
  | .object fields =>
    match Table.lookup "type" fields with
    | some (.text key) => some key
    | _ => none
  | _ => none

theorem hasType_text (key : String) (row : Datum) :
    hasType (.text key) row = decide (keyOf? row = some key) := by
  cases row with
  | object fields =>
    rw [hasType, keyOf?]
    cases htype : Table.lookup "type" fields with
    | none => rfl
    | some type =>
      rw [Bool.eq_iff_iff, decide_eq_true_iff, Datum.same_text_iff]
      cases type <;> simp
  | _ => rfl

/-- A row that has a key is an object with this key for its type. -/
theorem exists_of_keyOf?_eq_some {row : Datum} {key : String} (h : keyOf? row = some key) :
    ∃ fields, row = .object fields ∧ Table.lookup "type" fields = some (.text key) := by
  cases row with
  | object fields =>
    refine ⟨fields, rfl, ?_⟩
    rw [keyOf?] at h
    split at h
    next hkey => rw [hkey, Option.some.inj h]
    next => exact absurd h (by simp)
  | _ => exact absurd h (by simp [keyOf?])

theorem lookup_data_fill (type data : Datum) (fields : List (String × Datum)) :
    Table.lookup "data" (Table.insert "data" data (Table.insert "type" type fields)) =
      some data := by
  rw [Table.lookup_insert, if_pos rfl]

theorem keyOf?_fill (key : String) (data : Datum) (fields : List (String × Datum)) :
    keyOf? (fill (.text key) data (.object fields)) = some key := by
  rw [fill, keyOf?, Table.lookup_insert, if_neg (by decide), Table.lookup_insert, if_pos rfl]

/-- The rows of a table under a key. -/
def under (key : String) (table : List (Int × Datum)) : List Datum :=
  (table.filter fun row => hasType (.text key) row.2).map Prod.snd

theorem under_append (key : String) (table : List (Int × Datum)) (n : Int) (row : Datum) :
    under key (table ++ [(n, row)]) =
      under key table ++ if keyOf? row = some key then [row] else [] := by
  simp only [under, List.filter_append, List.map_append, List.filter_cons, List.filter_nil,
    hasType_text, decide_eq_true_iff]
  split <;> rfl

theorem under_eq_nil_iff {key : String} :
    under key table = [] ↔ (table.any fun row => hasType (.text key) row.2) = false := by
  rw [under, List.map_eq_nil_iff, List.filter_eq_nil_iff, List.any_eq_false]

/-- The first of some rows has the given data. -/
def FirstHas (data : Datum) (rows : List Datum) : Prop :=
  ∃ fields rest, rows = .object fields :: rest ∧ Table.lookup "data" fields = some data

/-! ### New data under a key -/

/-- A row with new data, if it has the key. -/
def refill (key : String) (data row : Datum) : Datum :=
  if hasType (.text key) row then fill (.text key) data row else row

/-- The table with new data in the rows under a key. -/
def refilled (key : String) (data : Datum) (table : List (Int × Datum)) : List (Int × Datum) :=
  table.map fun row => (row.1, refill key data row.2)

theorem refill_of_ne {key : String} {row : Datum} (h : keyOf? row ≠ some key) (data : Datum) :
    refill key data row = row := by
  rw [refill, hasType_text, decide_eq_false h, if_neg Bool.false_ne_true]

theorem exists_refill {key : String} {row : Datum} (h : keyOf? row = some key) (data : Datum) :
    ∃ fields, refill key data row = .object fields ∧ keyOf? (.object fields) = some key ∧
      Table.lookup "data" fields = some data := by
  obtain ⟨fields, rfl, -⟩ := exists_of_keyOf?_eq_some h
  refine ⟨_, ?_, keyOf?_fill key data fields, lookup_data_fill (.text key) data fields⟩
  rw [refill, hasType_text, decide_eq_true h, if_pos rfl]
  rfl

/-- New data leave every row its key. -/
theorem keyOf?_refill (key : String) (data row : Datum) :
    keyOf? (refill key data row) = keyOf? row := by
  by_cases h : keyOf? row = some key
  · obtain ⟨fields, hrefill, hkey, -⟩ := exists_refill h data
    rw [hrefill, hkey, h]
  · rw [refill_of_ne h]

theorem map_fst_refilled (key : String) (data : Datum) (table : List (Int × Datum)) :
    (refilled key data table).map Prod.fst = table.map Prod.fst := by
  rw [refilled, List.map_map]
  rfl

theorem under_refilled (key other : String) (data : Datum) (table : List (Int × Datum)) :
    under other (refilled key data table) = (under other table).map (refill key data) := by
  have hfilter : ((fun row : Int × Datum => hasType (.text other) row.2) ∘
      fun row : Int × Datum => (row.1, refill key data row.2)) =
        fun row => hasType (.text other) row.2 := by
    funext row
    simp only [Function.comp_apply, hasType_text, keyOf?_refill]
  rw [under, refilled, List.filter_map, hfilter, List.map_map, under, List.map_map]
  rfl

theorem keyOf?_of_mem_under {key : String} {row : Datum} (h : row ∈ under key table) :
    keyOf? row = some key := by
  obtain ⟨numbered, hnumbered, rfl⟩ := List.mem_map.mp h
  have htype := (List.mem_filter.mp hnumbered).2
  rw [hasType_text] at htype
  exact of_decide_eq_true htype

/-- What is under another key stays as it is. -/
theorem under_refilled_of_ne {key other : String} (h : other ≠ key) (data : Datum)
    (table : List (Int × Datum)) : under other (refilled key data table) = under other table := by
  rw [under_refilled]
  refine (List.map_congr_left fun row hrow => refill_of_ne ?_ data).trans (List.map_id _)
  rw [keyOf?_of_mem_under hrow]
  exact fun heq => h (Option.some.inj heq)

theorem firstHas_under_refilled {key : String} (h : under key table ≠ []) (data : Datum) :
    FirstHas data (under key (refilled key data table)) := by
  obtain ⟨row, rest, hunder⟩ := List.exists_cons_of_ne_nil h
  have hkey : keyOf? row = some key := keyOf?_of_mem_under (hunder ▸ List.mem_cons_self)
  obtain ⟨fields, hrefill, -, hdata⟩ := exists_refill hkey data
  rw [under_refilled, hunder, List.map_cons, hrefill]
  exact ⟨fields, _, rfl, hdata⟩

/-- A table without the key is not changed. -/
theorem refilled_of_under_eq_nil {key : String} (h : under key table = []) (data : Datum) :
    refilled key data table = table := by
  have hall := List.any_eq_false.mp (under_eq_nil_iff.mp h)
  refine (List.map_congr_left fun row hrow => ?_).trans (List.map_id _)
  rw [refill, if_neg (hall row hrow)]
  rfl

/-! ### Rows whose keys start with a text -/

/-- Whether a text starts with another. -/
def startsWith (mark key : String) : Bool := mark.toList.isPrefixOf key.toList

/-- The table without the rows whose keys start with a text. -/
def unmarked (mark : String) (table : List (Int × Datum)) : List (Int × Datum) :=
  table.filter fun row => !(keyOf? row.2).any (startsWith mark)

/-- Nothing is left under the keys that start with the text, and nothing else changes. -/
theorem under_unmarked (mark key : String) (table : List (Int × Datum)) :
    under key (unmarked mark table) = if startsWith mark key then [] else under key table := by
  have hrow : ∀ row : Int × Datum,
      (hasType (.text key) row.2 && !(keyOf? row.2).any (startsWith mark)) =
        (hasType (.text key) row.2 && !startsWith mark key) := by
    intro row
    rw [hasType_text]
    by_cases h : keyOf? row.2 = some key
    · rw [h, Option.any_some]
    · rw [decide_eq_false h, Bool.false_and, Bool.false_and]
  rw [under, unmarked, List.filter_filter]
  simp only [hrow]
  cases startsWith mark key with
  | true => simp
  | false => simp [under]

end Document

end LiabilityProof
