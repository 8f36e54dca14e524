import LiabilityProof.Ledger.Columns
import LiabilityProof.Proofs.Outcome
import LiabilityProof.Proofs.Polynomial.Transform

/-!
# The columns represent the ledger

A row of a ledger holds the identity and the balances of an entry as field elements. The column
polynomials of a ledger have the values of its rows at the points of the domain, and zero at the
points past the last row (`polynomials_eq_ok`).
-/

namespace LiabilityProof

open scoped Residue

namespace Columns

/-- The row of a user of the given name and balances. -/
def rowValues (name : String) (balances : List Nat) : List Scalar :=
  Scalar.encode (Entry.identityOf name) :: balances.map Scalar.encode

@[simp]
theorem length_rowValues (name : String) (balances : List Nat) :
    (rowValues name balances).length = balances.length + 1 := by
  rw [rowValues, List.length_cons, List.length_map]

/-- The row of an entry; what has no text for a name has none. -/
def row : Entry → List Scalar
  | ⟨.text name, balances⟩ => rowValues name balances
  | _ => []

theorem rowOf_text {currencies : Datum} {e : Entry} {name : String}
    (hname : e.username = .text name)
    (hcount : (Datum.integer e.balances.length).same currencies = true) :
    rowOf currencies e = .ok (row e) := by
  cases e with
  | mk username balances =>
    obtain rfl : username = .text name := hname
    rw [rowOf, if_pos hcount]
    rfl

/-! ### Columns of values -/

theorem length_column {size : Nat} {rows : List (List Scalar)} (h : rows.length ≤ size)
    (j : Nat) : (column size rows j).length = size := by
  simp only [column, List.length_append, List.length_map, List.length_replicate]
  omega

/-- A column holds the values of the rows, and zero past the last one. -/
theorem getD_column (size : Nat) (rows : List (List Scalar)) (j i : Nat) :
    (column size rows j).getD i 0 = (rows.getD i []).getD j 0 := by
  simp only [column]
  rcases lt_or_ge i rows.length with h | h
  · rw [List.getD_append _ _ _ _ (by rwa [List.length_map]),
      List.getD_eq_getElem _ _ (by rwa [List.length_map]), List.getElem_map,
      List.getD_eq_getElem _ _ h]
  · rw [List.getD_append_right _ _ _ _ (by rwa [List.length_map]), List.getD_eq_getElem?_getD,
      List.getElem?_getD_replicate_default_eq, List.getD_eq_default _ _ h, List.getD_nil]

/-- A domain stays below the lengths that are refused. -/
theorem shape_integer {size : Nat} (hsize : size ≤ Nat.pow 2 Scalar.maxDomainExponent)
    (currencies : Nat) :
    shape (.integer currencies) (.integer size) = .ok (currencies + 1, size) := by
  have hlength : lengthOf (.integer size) = .ok size := by
    have hsmall : size < Nat.pow 2 40 :=
      hsize.trans_lt (Nat.pow_lt_pow_right (by norm_num) (by decide))
    exact if_pos hsmall
  have hpos : ¬((currencies : Int) + 1).toNat = 0 := by omega
  have hcount : ((currencies : Int) + 1).toNat = currencies + 1 := by omega
  change (if ((currencies : Int) + 1).toNat = 0 then .ok (0, 0)
    else (lengthOf (.integer size)).map fun n => (((currencies : Int) + 1).toNat, n)) = _
  rw [if_neg hpos, hlength, hcount]
  rfl

/-- The columns of a ledger that has room in `size` rows are made of its rows, if there are any. -/
theorem evaluations_of_length_le {entries : List Entry} {size : Nat}
    (hsize : size ≤ Nat.pow 2 Scalar.maxDomainExponent) (hroom : entries.length ≤ size)
    (currencies : Nat) :
    evaluations entries (.integer currencies) (.integer size) =
      (entries.mapM (rowOf (.integer currencies))).map fun rows =>
        (List.range (currencies + 1)).map (column size rows) := by
  have hcompare : (Datum.integer size).compareInteger? entries.length =
      some (some (compare (size : Int) entries.length)) := rfl
  have hne : compare (size : Int) entries.length ≠ .lt :=
    compare_ge_iff_ge.mpr (Int.ofNat_le.mpr hroom)
  rw [evaluations, hcompare]
  split
  next h => exact absurd h (by simp)
  next h => exact absurd (Option.some.inj (Option.some.inj h)) hne
  next =>
    rw [shape_integer hsize]
    cases entries.mapM (rowOf (.integer currencies)) <;> rfl

/-- The columns of a ledger that has room in `size` rows. -/
theorem evaluations_eq_ok {entries : List Entry} {currencies size : Nat}
    (hsize : size ≤ Nat.pow 2 Scalar.maxDomainExponent) (hroom : entries.length ≤ size)
    (hentries : ∀ e ∈ entries, e.balances.length = currencies ∧ ∃ name, e.username = .text name) :
    evaluations entries (.integer currencies) (.integer size) =
      .ok ((List.range (currencies + 1)).map (column size (entries.map row))) := by
  have hrows : entries.mapM (rowOf (.integer currencies)) = .ok (entries.map row) := by
    refine mapM_eq_ok_map fun e he => ?_
    obtain ⟨hcount, name, hname⟩ := hentries e he
    exact rowOf_text hname (by rw [hcount]; exact decide_eq_true rfl)
  rw [evaluations_of_length_le hsize hroom, hrows]
  rfl

/-! ### Columns as polynomials -/

/-- The polynomials that are found for the columns of some rows have their values. -/
theorem eval_of_interpolate {rows : List (List Scalar)} {n : Nat} {domain : Domain}
    {columns : List Poly} (hroot : HalfTurn domain.exponent domain.root)
    (hroom : rows.length ≤ domain.size)
    (h : ((List.range n).map (column domain.size rows)).mapM
      (fun values => Transform.interpolate values domain.root) = .ok columns)
    {j : Nat} {f : Poly} (hf : columns[j]? = some f) :
    f.degree < domain.size ∧
      ∀ i < domain.size, f.eval (domain.point i) = (rows.getD i []).getD j 0 := by
  obtain ⟨values, hvalues, hinterpolate⟩ := exists_getElem?_of_mapM h hf
  rw [List.getElem?_map, Option.map_eq_some_iff] at hvalues
  obtain ⟨j', hj', rfl⟩ := hvalues
  obtain ⟨hj, rfl⟩ := List.getElem?_eq_some_iff.mp hj'
  rw [List.getElem_range] at hinterpolate
  have hlength : (column domain.size rows j).length = 2 ^ domain.exponent := length_column hroom j
  obtain ⟨g, hg, hdegree, heval⟩ := Transform.interpolate_eq_ok hroot hlength
  obtain rfl : g = f := Except.ok.inj (hg.symm.trans hinterpolate)
  exact ⟨hdegree, fun i hi => (heval i hi).trans (getD_column _ _ _ _)⟩

/-- The polynomials of a ledger have the values of its rows at the points of the domain, and zero
past the last row. -/
theorem polynomials_eq_ok {entries : List Entry} {currencies : Nat} {domain : Domain}
    (hexponent : domain.exponent ≤ Scalar.maxDomainExponent)
    (hroot : HalfTurn domain.exponent domain.root) (hroom : entries.length ≤ domain.size)
    (hentries : ∀ e ∈ entries, e.balances.length = currencies ∧ ∃ name, e.username = .text name) :
    ∃ columns, polynomials entries (.integer currencies) domain = .ok columns ∧
      columns.length = currencies + 1 ∧
      ∀ (j : Nat) (f : Poly), columns[j]? = some f → f.degree < domain.size ∧
        ∀ i < domain.size, f.eval (domain.point i) = ((entries.map row).getD i []).getD j 0 := by
  have hrows : (entries.map row).length ≤ domain.size := by rwa [List.length_map]
  obtain ⟨columns, hcolumns⟩ : ∃ columns,
      ((List.range (currencies + 1)).map (column domain.size (entries.map row))).mapM
        (fun values => Transform.interpolate values domain.root) = .ok columns := by
    refine exists_mapM_eq_ok fun values hvalues => ?_
    obtain ⟨j, -, rfl⟩ := List.mem_map.mp hvalues
    obtain ⟨f, hf, -⟩ := Transform.interpolate_eq_ok hroot (length_column hrows j)
    exact ⟨f, hf⟩
  refine ⟨columns, ?_, ?_, fun j f hf => eval_of_interpolate hroot hrows hcolumns hf⟩
  · have hsize : domain.size ≤ Nat.pow 2 Scalar.maxDomainExponent :=
      Nat.pow_le_pow_right (by norm_num) hexponent
    rw [polynomials, evaluations_eq_ok hsize hroom hentries]
    exact hcolumns
  · rw [← (mapM_eq_ok_iff.mp hcolumns).length_eq, List.length_map, List.length_range]

/-! ### What columns tell about a ledger -/

theorem same_integer_iff {d : Datum} {c : Int} (hd : d.asInteger? = some c) (n : Nat) :
    (Datum.integer n).same d = true ↔ (n : Int) = c := by
  cases d with
  | bool b => cases b <;> simp_all [Datum.asInteger?, Datum.same, Datum.sameNumber?, eq_comm]
  | integer m => simp_all [Datum.asInteger?, Datum.same, Datum.sameNumber?]
  | null | double | text | array | object | scalar => exact absurd hd (by simp [Datum.asInteger?])

theorem rowOf_eq_ok_iff {currencies : Datum} {c : Int} (hc : currencies.asInteger? = some c)
    {e : Entry} {values : List Scalar} :
    rowOf currencies e = .ok values ↔
      (e.balances.length : Int) = c ∧ (∃ name, e.username = .text name) ∧ row e = values := by
  rw [rowOf, ← same_integer_iff hc]
  split
  next h =>
    rw [and_iff_right h]
    cases e with
    | mk username balances =>
      cases username <;> simp [Entry.identity, Except.map, row, rowValues]
  next h => exact iff_of_false (by simp) fun hall => h hall.1

/-- Rows are made of entries that have a name and as many balances as there are currencies. -/
theorem mapM_rowOf_eq_ok {currencies : Datum} {c : Int} (hc : currencies.asInteger? = some c)
    {entries : List Entry} {rows : List (List Scalar)}
    (h : entries.mapM (rowOf currencies) = .ok rows) :
    (∀ e ∈ entries, (e.balances.length : Int) = c ∧ ∃ name, e.username = .text name) ∧
      rows = entries.map row := by
  induction entries generalizing rows with
  | nil => exact ⟨by simp, (Except.ok.inj h).symm⟩
  | cons e entries ih =>
    simp only [List.mapM_cons, bind_eq_ok_iff, rowOf_eq_ok_iff hc] at h
    obtain ⟨_, ⟨hcount, hname, rfl⟩, rest, hrest, h⟩ := h
    obtain ⟨hentries, rfl⟩ := ih hrest
    exact ⟨List.forall_mem_cons.mpr ⟨⟨hcount, hname⟩, hentries⟩, (Except.ok.inj h).symm⟩

theorem shape_eq_ok {currencies : Datum} {c : Int} (hc : currencies.asInteger? = some c)
    {size width length : Nat} (h : shape currencies (.integer size) = .ok (width, length)) :
    width = (c + 1).toNat ∧ (width ≠ 0 → length = size) := by
  rw [shape, hc] at h
  dsimp only at h
  split at h
  next hzero =>
    obtain ⟨rfl, rfl⟩ := Prod.ext_iff.mp (Except.ok.inj h)
    exact ⟨hzero.symm, fun hne => absurd rfl hne⟩
  next =>
    rw [lengthOf] at h
    dsimp only [Datum.asInteger?] at h
    split at h
    · obtain ⟨rfl, rfl⟩ := Prod.ext_iff.mp (Except.ok.inj h)
      exact ⟨rfl, fun _ => rfl⟩
    · split at h <;> exact absurd h (by simp [Except.map])

/-- Columns that can be made are those of a ledger that has room, in which every entry has a name
and one balance less than there are columns. -/
theorem evaluations_eq_ok_only {entries : List Entry} {currencies : Datum} {size : Nat}
    {columns : List (List Scalar)}
    (h : evaluations entries currencies (.integer size) = .ok columns) :
    entries.length ≤ size ∧
      (∀ e ∈ entries, e.balances.length + 1 = columns.length ∧ ∃ name, e.username = .text name) ∧
      columns = (List.range columns.length).map (column size (entries.map row)) := by
  have hcompare : (Datum.integer size).compareInteger? entries.length =
      some (some (compare (size : Int) entries.length)) := rfl
  rw [evaluations, hcompare] at h
  split at h
  next => exact absurd h (by simp)
  next => exact absurd h (by simp)
  next hlt horder =>
    have hroom : entries.length ≤ size := by
      refine not_lt.mp fun hshort => hlt ?_
      rw [← Option.some.inj horder, compare_lt_iff_lt.mpr (Int.ofNat_lt.mpr hshort)]
    simp only [bind_eq_ok_iff] at h
    obtain ⟨⟨width, length⟩, hshape, rows, hrows, h⟩ := h
    obtain rfl := Except.ok.inj h
    cases hc : currencies.asInteger? with
    | none =>
      rw [shape, hc] at hshape
      exact absurd hshape (by simp)
    | some c =>
      obtain ⟨hentries, rfl⟩ := mapM_rowOf_eq_ok hc hrows
      obtain ⟨hwidth, hlength⟩ := shape_eq_ok hc hshape
      rw [List.length_map, List.length_range]
      refine ⟨hroom, fun e he => ⟨?_, (hentries e he).2⟩, List.map_congr_left fun j hj => ?_⟩
      · have hcount := (hentries e he).1
        omega
      · rw [hlength (Nat.ne_zero_of_lt (List.mem_range.mp hj))]

/-- Polynomials that can be made are those of a ledger that has room, in which every entry has a
name and one balance less than there are columns, and they have the values of its rows. -/
theorem polynomials_eq_ok_only {entries : List Entry} {currencies : Datum} {domain : Domain}
    {columns : List Poly} (hroot : HalfTurn domain.exponent domain.root)
    (h : polynomials entries currencies domain = .ok columns) :
    entries.length ≤ domain.size ∧
      (∀ e ∈ entries, e.balances.length + 1 = columns.length ∧ ∃ name, e.username = .text name) ∧
      ∀ (j : Nat) (f : Poly), columns[j]? = some f →
        ∀ i < domain.size, f.eval (domain.point i) = ((entries.map row).getD i []).getD j 0 := by
  obtain ⟨values, hvalues, hcolumns⟩ := bind_eq_ok_iff.mp h
  obtain ⟨hroom, hentries, hmap⟩ := evaluations_eq_ok_only hvalues
  rw [(mapM_eq_ok_iff.mp hcolumns).length_eq] at hentries
  refine ⟨hroom, hentries, fun j f hf => ?_⟩
  rw [hmap] at hcolumns
  exact (eval_of_interpolate hroot (by rwa [List.length_map]) hcolumns hf).2

end Columns

end LiabilityProof
