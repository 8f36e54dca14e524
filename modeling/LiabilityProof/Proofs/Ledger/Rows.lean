import Mathlib.Data.List.Basic
import LiabilityProof.Ledger.Csv

/-!
# Rows are read back

A field can be written in two ways: bare, if it has no comma, quote or line end, and between quotes,
its own quotes doubled. Rows end in any of the three line ends, in any mixture, and lines may stay
blank (`Csv.WritesRows`).

However rows of two fields and more are written, they are the rows that are read, with blank rows
in between (`Csv.filled_rowsFrom`). The blank rows are not those that were written: behind a
carriage return, the line feed of a blank line belongs to the line end of the row before.
-/

namespace LiabilityProof

namespace Csv

/-! ### What is written -/

/-- Whether a character can stand in a bare field. -/
def IsBare (c : Char) : Prop := c ≠ ',' ∧ c ≠ '"' ∧ c ≠ '\n' ∧ c ≠ '\r'

/-- The characters with every quote written twice. -/
def doubled (cs : List Char) : List Char := cs.flatMap fun c => if c = '"' then ['"', '"'] else [c]

/-- The ways to write a field. -/
inductive WritesField (s : String) : List Char → Prop where
  /-- As it is. -/
  | bare (hbare : ∀ c ∈ s.toList, IsBare c) : WritesField s s.toList
  /-- Between quotes. -/
  | quoted : WritesField s ('"' :: (doubled s.toList ++ ['"']))

/-- The ways to write a row, without its end. -/
inductive WritesRow : List String → List Char → Prop where
  /-- The last field. -/
  | last {s : String} {cs : List Char} (hfield : WritesField s cs) : WritesRow [s] cs
  /-- A field in front of a row. -/
  | cons {s : String} {cs rest : List Char} {row : List String} (hfield : WritesField s cs)
    (hrow : WritesRow row rest) : WritesRow (s :: row) (cs ++ ',' :: rest)

/-- The ways to end a line. -/
inductive LineEnd : List Char → Prop where
  /-- A line feed. -/
  | lineFeed : LineEnd ['\n']
  /-- A carriage return. -/
  | carriageReturn : LineEnd ['\r']
  /-- The two together. -/
  | both : LineEnd ['\r', '\n']

/-- The ways to write rows, with blank lines among them. -/
inductive WritesRows : List (List String) → List Char → Prop where
  /-- Nothing more. -/
  | nil : WritesRows [] []
  /-- A blank line. -/
  | blank {lineEnd text : List Char} {rows : List (List String)} (hend : LineEnd lineEnd)
    (hrows : WritesRows rows text) : WritesRows rows (lineEnd ++ text)
  /-- A line with a row. -/
  | row {cs lineEnd text : List Char} {row : List String} {rows : List (List String)}
    (hrow : WritesRow row cs) (hend : LineEnd lineEnd) (hrows : WritesRows rows text) :
    WritesRows (row :: rows) (cs ++ (lineEnd ++ text))

/-! ### Characters inside a row -/

variable {p q r : Partial} {s : String} {cs cs' text : List Char}

/-- A reader at `p` gets to `q` over the characters, all of them inside the row. -/
def Partial.Reads (p : Partial) (cs : List Char) (q : Partial) : Prop :=
  ∀ rest, rowsFrom p (cs ++ rest) = rowsFrom q rest

theorem Partial.Reads.nil (p : Partial) : p.Reads [] p := fun _ => rfl

theorem Partial.Reads.append (h : p.Reads cs q) (h' : q.Reads cs' r) :
    p.Reads (cs ++ cs') r := by
  intro rest
  rw [List.append_assoc, h, h']

theorem Partial.Reads.cons {c : Char} (h : p.Reads [c] q) (h' : q.Reads cs r) :
    p.Reads (c :: cs) r :=
  h.append h'

theorem reads_of_ne {c : Char} (hfeed : c ≠ '\n') (hreturn : c ≠ '\r') (p : Partial) :
    p.Reads [c] (p.push c) := by
  intro rest
  rw [List.singleton_append, rowsFrom]
  · rw [if_neg]
    rintro ⟨-, h | h⟩
    · exact hfeed h
    · exact hreturn h
  · rintro rest' rfl -
    exact hreturn rfl

theorem IsBare.reads {c : Char} (hc : IsBare c) (p : Partial) : p.Reads [c] (p.push c) :=
  reads_of_ne hc.2.2.1 hc.2.2.2 p

theorem push_inQuotes {c : Char} (hc : c ≠ '"') (field : List Char) (fields : List String) :
    Partial.push ⟨.inQuotes, field, fields⟩ c = ⟨.inQuotes, c :: field, fields⟩ :=
  if_neg hc

/-- Between quotes a line end is a character like any other, also the one of two characters that is
read at once. -/
theorem reads_inQuotes {c : Char} (hc : c ≠ '"') (field : List Char) (fields : List String) :
    Partial.Reads ⟨.inQuotes, field, fields⟩ [c] ⟨.inQuotes, c :: field, fields⟩ := by
  intro rest
  rw [List.singleton_append]
  by_cases hpair : c = '\r' ∧ ∃ rest', rest = '\n' :: rest'
  · obtain ⟨rfl, rest', rfl⟩ := hpair
    rw [rowsFrom, if_pos rfl, push_inQuotes (by decide), push_inQuotes (by decide), rowsFrom,
      if_neg (fun h => h.1 rfl), push_inQuotes (by decide)]
    · simp
  · rw [rowsFrom, if_neg (fun h => h.1 rfl), push_inQuotes hc]
    intro rest' hreturn hfeed
    exact hpair ⟨hreturn, rest', hfeed⟩

/-- A row in progress whose field in progress is `s`, with the fields `before` it, and which may end
here. -/
structure Partial.Holds (q : Partial) (s : String) (before : List String) : Prop where
  /-- The field is not inside quotes. -/
  place : q.place ≠ .inQuotes
  /-- The field in progress. -/
  field : String.ofList q.field.reverse = s
  /-- The fields before it. -/
  fields : q.fields = before

theorem Partial.Holds.push_comma {before : List String} (h : q.Holds s before) :
    q.push ',' = ⟨.fieldStart, [], s :: before⟩ := by
  have hclose : q.close = ⟨.fieldStart, [], s :: before⟩ := by
    rw [Partial.close, h.field, h.fields]
  have hpush : q.push ',' = q.close := by
    rcases q with ⟨place, field, fields⟩
    cases place with
    | inQuotes => exact absurd rfl h.place
    | rowStart | fieldStart | bare | afterQuote => rfl
  rw [hpush, hclose]

theorem Partial.Holds.finish {before : List String} (h : q.Holds s before)
    (hplace : q.place ≠ .rowStart) : q.finish = before.reverse ++ [s] := by
  rw [Partial.finish, if_neg hplace, Partial.close, h.field, h.fields, List.reverse_cons]

/-! ### Fields and rows -/

theorem reads_bare (hcs : ∀ c ∈ cs, IsBare c) (field : List Char) (fields : List String) :
    Partial.Reads ⟨.bare, field, fields⟩ cs ⟨.bare, cs.reverse ++ field, fields⟩ := by
  induction cs generalizing field with
  | nil => exact .nil _
  | cons c cs ih =>
    have hc := hcs c List.mem_cons_self
    have hpush : Partial.push ⟨.bare, field, fields⟩ c = ⟨.bare, c :: field, fields⟩ :=
      if_neg hc.1
    have hfirst := hc.reads ⟨.bare, field, fields⟩
    rw [hpush] at hfirst
    rw [List.reverse_cons, List.append_assoc]
    exact hfirst.cons (ih (fun c' hc' => hcs c' (List.mem_cons_of_mem c hc')) (c :: field))

theorem reads_doubled (cs : List Char) (field : List Char) (fields : List String) :
    Partial.Reads ⟨.inQuotes, field, fields⟩ (doubled cs)
      ⟨.inQuotes, cs.reverse ++ field, fields⟩ := by
  induction cs generalizing field with
  | nil => exact .nil _
  | cons c cs ih =>
    have hfirst : Partial.Reads ⟨.inQuotes, field, fields⟩ (if c = '"' then ['"', '"'] else [c])
        ⟨.inQuotes, c :: field, fields⟩ := by
      split
      next h =>
        subst h
        exact (reads_of_ne (by decide) (by decide) _).cons (reads_of_ne (by decide) (by decide) _)
      next h => exact reads_inQuotes h field fields
    rw [doubled, List.flatMap_cons, List.reverse_cons, List.append_assoc]
    exact hfirst.append (ih (c :: field))

/-- A field is read as it was written, at the start of a row and behind a comma. Only an empty first
field leaves the reader at the start of the row. -/
theorem WritesField.reads (h : WritesField s cs) {place : Place}
    (hplace : place = .rowStart ∨ place = .fieldStart) (before : List String) :
    ∃ q : Partial, Partial.Reads ⟨place, [], before⟩ cs q ∧ q.Holds s before ∧
      (place = .fieldStart → q.place ≠ .rowStart) := by
  cases h with
  | bare hs =>
    cases hcs : s.toList with
    | nil =>
      refine ⟨⟨place, [], before⟩, .nil _, ⟨?_, ?_, rfl⟩, ?_⟩
      · rcases hplace with rfl | rfl <;> exact Place.noConfusion
      · exact (String.toList_eq_nil_iff.mp hcs).symm
      · rintro rfl
        exact Place.noConfusion
    | cons c cs =>
      rw [hcs] at hs
      have hc := hs c List.mem_cons_self
      have hpush : Partial.push ⟨place, [], before⟩ c = ⟨.bare, [c], before⟩ := by
        rcases hplace with rfl | rfl <;> rw [Partial.push, if_neg hc.2.1, if_neg hc.1]
      have hfirst := hc.reads ⟨place, [], before⟩
      rw [hpush] at hfirst
      refine ⟨_, hfirst.cons (reads_bare (fun c' hc' => hs c' (List.mem_cons_of_mem c hc')) _ _),
        ⟨Place.noConfusion, ?_, rfl⟩, fun _ => Place.noConfusion⟩
      rw [List.reverse_append, List.reverse_reverse, List.reverse_singleton, List.singleton_append,
        ← hcs, String.ofList_toList]
  | quoted =>
    have hopen : Partial.push ⟨place, [], before⟩ '"' = ⟨.inQuotes, [], before⟩ := by
      rcases hplace with rfl | rfl <;> rfl
    have hfirst := reads_of_ne (c := '"') (by decide) (by decide) ⟨place, [], before⟩
    rw [hopen] at hfirst
    have hclose := reads_of_ne (c := '"') (by decide) (by decide)
      ⟨.inQuotes, s.toList.reverse ++ [], before⟩
    refine ⟨_, hfirst.cons ((reads_doubled s.toList [] before).append hclose),
      ⟨Place.noConfusion, ?_, rfl⟩, fun _ => Place.noConfusion⟩
    show String.ofList (s.toList.reverse ++ []).reverse = s
    rw [List.append_nil, List.reverse_reverse, String.ofList_toList]

theorem reads_comma {before : List String} (h : q.Holds s before) :
    q.Reads [','] ⟨.fieldStart, [], s :: before⟩ :=
  h.push_comma ▸ reads_of_ne (by decide) (by decide) q

/-- Fields behind a comma. -/
theorem WritesRow.reads_tail {row : List String} (h : WritesRow row cs) (before : List String) :
    ∃ q : Partial, Partial.Reads ⟨.fieldStart, [], before⟩ cs q ∧ q.place ≠ .inQuotes ∧
      q.finish = before.reverse ++ row := by
  induction h generalizing before with
  | last hfield =>
    obtain ⟨q, hreads, hq, hstart⟩ := hfield.reads (.inr rfl) before
    exact ⟨q, hreads, hq.place, hq.finish (hstart rfl)⟩
  | @cons s cs rest row hfield hrow ih =>
    obtain ⟨q, hreads, hq, -⟩ := hfield.reads (.inr rfl) before
    obtain ⟨r, hrest, hr, hfinish⟩ := ih (s :: before)
    refine ⟨r, hreads.append ((reads_comma hq).cons hrest), hr, ?_⟩
    rw [hfinish, List.reverse_cons, List.append_assoc, List.singleton_append]

/-- A row of two fields and more is read as it was written. -/
theorem WritesRow.reads {row : List String} (h : WritesRow row cs) (hrow : 2 ≤ row.length) :
    ∃ q : Partial, Partial.empty.Reads cs q ∧ q.place ≠ .inQuotes ∧ q.finish = row := by
  cases h with
  | last hfield => exact absurd hrow (by simp)
  | @cons s cs rest row hfield htail =>
    obtain ⟨q, hreads, hq, -⟩ := hfield.reads (.inl rfl) []
    obtain ⟨r, hrest, hr, hfinish⟩ := htail.reads_tail [s]
    exact ⟨r, hreads.append ((reads_comma hq).cons hrest), hr, hfinish⟩

/-! ### Line ends -/

/-- A text behind a carriage return that ended a row: a first line feed belongs to the line end. -/
def afterReturn : List Char → List Char
  | '\n' :: rest => rest
  | cs => cs

theorem afterReturn_cons {c : Char} (hc : c ≠ '\n') (rest : List Char) :
    afterReturn (c :: rest) = c :: rest := by
  rw [afterReturn]
  rintro rest' h
  exact hc (List.cons.inj h).1

/-- What is left of a text behind a line end: all of it, or what follows a line feed that the line
end took with it. -/
def IsBehind (rest text : List Char) : Prop := rest = text ∨ rest = afterReturn text

theorem rowsFrom_lineEnd {lineEnd : List Char} (h : LineEnd lineEnd) (hp : p.place ≠ .inQuotes)
    (text : List Char) :
    ∃ rest, IsBehind rest text ∧ rowsFrom p (lineEnd ++ text) = p.finish :: rowsFrom .empty rest := by
  cases h with
  | lineFeed =>
    refine ⟨text, .inl rfl, ?_⟩
    rw [List.singleton_append, rowsFrom, if_pos ⟨hp, .inl rfl⟩]
    simp
  | both =>
    refine ⟨text, .inl rfl, ?_⟩
    rw [List.cons_append, List.singleton_append, rowsFrom, if_neg hp]
  | carriageReturn =>
    refine ⟨afterReturn text, .inr rfl, ?_⟩
    rw [List.singleton_append]
    by_cases hfeed : ∃ rest, text = '\n' :: rest
    · obtain ⟨rest, rfl⟩ := hfeed
      rw [rowsFrom, if_neg hp, afterReturn]
    · have hrest : afterReturn text = text := by
        rw [afterReturn]
        rintro rest rfl
        exact hfeed ⟨rest, rfl⟩
      rw [rowsFrom, if_pos ⟨hp, .inr rfl⟩, hrest]
      rintro rest - rfl
      exact hfeed ⟨rest, rfl⟩

/-- No row of two fields and more starts with a line feed. -/
theorem WritesRow.afterReturn_append {row : List String} (h : WritesRow row cs)
    (hrow : 2 ≤ row.length) (text : List Char) : afterReturn (cs ++ text) = cs ++ text := by
  cases h with
  | last hfield => exact absurd hrow (by simp)
  | @cons s cs rest row hfield htail =>
    cases hfield with
    | quoted => exact afterReturn_cons (by decide) _
    | bare hs =>
      cases hcs : s.toList with
      | nil => exact afterReturn_cons (by decide) _
      | cons c cs =>
        rw [hcs] at hs
        exact afterReturn_cons (hs c List.mem_cons_self).2.2.1 _

/-! ### Texts -/

/-- The rows that are not blank. -/
def filled (rows : List (List String)) : List (List String) := rows.filter fun row => !row.isEmpty

/-- Rows of two fields and more are read as they were written. -/
theorem filled_rowsFrom {rows : List (List String)} (h : WritesRows rows text)
    (hrows : ∀ row ∈ rows, 2 ≤ row.length) {rest : List Char} (hrest : IsBehind rest text) :
    filled (rowsFrom .empty rest) = rows := by
  induction h generalizing rest with
  | nil =>
    have : rest = [] := by rcases hrest with rfl | rfl <;> rfl
    rw [this]
    rfl
  | @blank lineEnd text rows hend hwritten ih =>
    -- the line feed of a blank line may have been read with the row before
    have hcases : rest = lineEnd ++ text ∨ rest = text := by
      rcases hrest with rfl | rfl
      · exact .inl rfl
      · cases hend with
        | lineFeed => exact .inr rfl
        | carriageReturn | both => exact .inl rfl
    rcases hcases with rfl | rfl
    · obtain ⟨rest, hbehind, hread⟩ :=
        rowsFrom_lineEnd (p := .empty) hend Place.noConfusion text
      rw [hread]
      exact ih hrows hbehind
    · exact ih hrows (.inl rfl)
  | @row cs lineEnd text row rows hrow hend hwritten ih =>
    have hlength := hrows row List.mem_cons_self
    have hstart : rest = cs ++ (lineEnd ++ text) := by
      rcases hrest with rfl | rfl
      · rfl
      · exact hrow.afterReturn_append hlength _
    obtain ⟨q, hreads, hq, hfinish⟩ := hrow.reads hlength
    obtain ⟨rest', hbehind, hread⟩ := rowsFrom_lineEnd hend hq text
    have hfilled : (!row.isEmpty) = true := by
      rw [Bool.not_eq_true', List.isEmpty_eq_false_iff]
      exact List.ne_nil_of_length_pos (by omega)
    have htail := ih (fun row' h => hrows row' (List.mem_cons_of_mem row h)) hbehind
    rw [filled] at htail ⊢
    rw [hstart, hreads, hread, hfinish, List.filter_cons, if_pos hfilled, htail]

/-- The row in front of the others is the first one that is read. -/
theorem rows_of_writesRow {row : List String} {rows : List (List String)}
    {lineEnd : List Char} (hrow : WritesRow row cs) (hend : LineEnd lineEnd)
    (hrows : WritesRows rows text) (hlength : ∀ row' ∈ row :: rows, 2 ≤ row'.length) :
    ∃ rest, Csv.rows (cs ++ (lineEnd ++ text)) = row :: rest ∧ filled rest = rows := by
  obtain ⟨q, hreads, hq, hfinish⟩ := hrow.reads (hlength row List.mem_cons_self)
  obtain ⟨rest, hbehind, hread⟩ := rowsFrom_lineEnd hend hq text
  refine ⟨rowsFrom .empty rest, ?_, ?_⟩
  · rw [Csv.rows, hreads, hread, hfinish]
  · exact filled_rowsFrom hrows (fun row' h => hlength row' (List.mem_cons_of_mem row h)) hbehind

end Csv

end LiabilityProof
