import LiabilityProof.Proofs.Ledger.Columns
import LiabilityProof.Proofs.Ledger.Identity
import LiabilityProof.Proofs.Polynomial.Interpolation
import LiabilityProof.Proofs.Text.Decimal

/-!
# The columns are the ledger, up to the field

A ledger that fits a domain has columns, and any other is refused as misconfigured. The columns hold
the identities and the balances at the rows of the users, and zero at the rows past the last one
(`Represents`). They tell two ledgers apart exactly if these differ as tables of residues: filled up
with rows of zeros to the size of the domain, in some cell they hold numbers of different classes
(`polynomials_represent`).
-/

namespace LiabilityProof

open scoped Residue

namespace Columns

/-! ### Ledgers as tables of numbers -/

/-- The numbers of an entry: its identity and its balances. What has no text for a name has none. -/
def numbers : Entry → List Nat
  | ⟨.text name, balances⟩ => Entry.identityOf name :: balances
  | _ => []

theorem row_eq_map_numbers (e : Entry) : row e = (numbers e).map Scalar.encode := by
  obtain ⟨username, balances⟩ := e
  cases username <;> rfl

/-- The numbers of a ledger, filled up with rows of `width` zeros to `size` rows. -/
def paddedRows (size width : Nat) (entries : List Entry) : List (List Nat) :=
  entries.map numbers ++ List.replicate (size - entries.length) (List.replicate width 0)

/-- Tables of numbers that are equal modulo the order of the field. -/
def Congruent (rows rows' : List (List Nat)) : Prop :=
  List.Forall₂ (List.Forall₂ fun m n => m ≡ n [MOD groupOrder]) rows rows'

/-- Whether a ledger has room in `size` rows, with a balance for each currency in each of them. -/
def Fits (size currencies : Nat) (entries : List Entry) : Prop :=
  entries.length ≤ size ∧ ∀ e ∈ entries, e.balances.length = currencies

variable {size currencies : Nat} {entries entries' : List Entry}

/-- The value of a ledger at a row and a column, zero where there is none. -/
def cell (entries : List Entry) (i j : Nat) : Scalar := ((entries.map row).getD i []).getD j 0

theorem getD_map_row {i : Nat} {e : Entry} (he : entries[i]? = some e) :
    (entries.map row).getD i [] = row e := by
  rw [List.getD_eq_getElem?_getD, List.getElem?_map, he]
  rfl

theorem cell_identity {i : Nat} {name : String} {balances : List Nat}
    (he : entries[i]? = some ⟨.text name, balances⟩) :
    cell entries i 0 = Scalar.encode (Entry.identityOf name) := by
  rw [cell, getD_map_row he]
  rfl

theorem cell_balance {i j b : Nat} {name : String} {balances : List Nat}
    (he : entries[i]? = some ⟨.text name, balances⟩) (hb : balances[j]? = some b) :
    cell entries i (j + 1) = Scalar.encode b := by
  rw [cell, getD_map_row he, row, rowValues, List.getD_cons_succ, List.getD_eq_getElem?_getD,
    List.getElem?_map, hb]
  rfl

theorem cell_of_length_le {i : Nat} (h : entries.length ≤ i) (j : Nat) : cell entries i j = 0 := by
  have hnone : (entries.map row).getD i [] = [] :=
    List.getD_eq_default _ _ (by rwa [List.length_map])
  rw [cell, hnone, List.getD_nil]

theorem not_fits_iff : ¬Fits size currencies entries ↔
    size < entries.length ∨ ∃ e ∈ entries, e.balances.length ≠ currencies := by
  simp only [Fits, not_and_or, not_le, not_forall, exists_prop, ne_eq]

theorem length_paddedRows (h : Fits size currencies entries) (width : Nat) :
    (paddedRows size width entries).length = size := by
  have hroom := h.1
  simp only [paddedRows, List.length_append, List.length_map, List.length_replicate]
  omega

theorem length_of_mem_paddedRows (h : Fits size currencies entries)
    (hnames : ∀ e ∈ entries, ∃ name, e.username = .text name) {r : List Nat}
    (hr : r ∈ paddedRows size (currencies + 1) entries) : r.length = currencies + 1 := by
  rcases List.mem_append.mp hr with hr | hr
  · obtain ⟨⟨username, balances⟩, he, rfl⟩ := List.mem_map.mp hr
    obtain ⟨name, rfl⟩ := hnames _ he
    rw [numbers, List.length_cons, h.2 _ he]
  · rw [List.eq_of_mem_replicate hr, List.length_replicate]

/-- The cells of the filled up table are those of the ledger. -/
theorem encode_getD_paddedRows (size width : Nat) (entries : List Entry) (i j : Nat) :
    Scalar.encode (((paddedRows size width entries).getD i []).getD j 0) = cell entries i j := by
  have hzero : Scalar.encode 0 = 0 := rfl
  rw [paddedRows]
  rcases lt_or_ge i entries.length with hi | hi
  · have hnumbers : (entries.map numbers).getD i [] = numbers entries[i] := by
      rw [List.getD_eq_getElem _ _ (by rwa [List.length_map]), List.getElem_map]
    rw [cell, getD_map_row (List.getElem?_eq_getElem hi), row_eq_map_numbers,
      List.getD_append _ _ _ _ (by rwa [List.length_map]), hnumbers, ← hzero, List.getD_map]
  · rw [List.getD_append_right _ _ _ _ (by rwa [List.length_map]), cell_of_length_le hi]
    -- a row of zeros, or none at all
    generalize i - (entries.map numbers).length = past
    rcases lt_or_ge past (size - entries.length) with hfill | hfill
    · rw [List.getD_replicate _ hfill, List.getD_eq_getElem?_getD,
        List.getElem?_getD_replicate_default_eq, hzero]
    · have hnone : (List.replicate (size - entries.length) (List.replicate width 0)).getD past [] =
          [] := List.getD_eq_default _ _ (by rwa [List.length_replicate])
      rw [hnone, List.getD_nil, hzero]

theorem forall₂_iff_getD {α : Type} {R : α → α → Prop} {l l' : List α} {n : Nat}
    (hl : l.length = n) (hl' : l'.length = n) (d : α) :
    List.Forall₂ R l l' ↔ ∀ i < n, R (l.getD i d) (l'.getD i d) := by
  rw [List.forall₂_iff_get]
  constructor
  · rintro ⟨-, h⟩ i hi
    rw [List.getD_eq_getElem _ _ (hl ▸ hi), List.getD_eq_getElem _ _ (hl' ▸ hi)]
    exact h i (hl ▸ hi) (hl' ▸ hi)
  · intro h
    refine ⟨hl.trans hl'.symm, fun i hi hi' => ?_⟩
    have hcell := h i (hl ▸ hi)
    rwa [List.getD_eq_getElem _ _ hi, List.getD_eq_getElem _ _ hi'] at hcell

/-- Tables are congruent cell by cell. -/
theorem congruent_paddedRows_iff (h : Fits size currencies entries)
    (hnames : ∀ e ∈ entries, ∃ name, e.username = .text name) (h' : Fits size currencies entries')
    (hnames' : ∀ e ∈ entries', ∃ name, e.username = .text name) :
    Congruent (paddedRows size (currencies + 1) entries)
        (paddedRows size (currencies + 1) entries') ↔
      ∀ i < size, ∀ j < currencies + 1,
        cell entries i j = cell entries' i j := by
  rw [Congruent, forall₂_iff_getD (length_paddedRows h _) (length_paddedRows h' _) []]
  refine forall₂_congr fun i hi => ?_
  have hlength : ((paddedRows size (currencies + 1) entries).getD i []).length =
      currencies + 1 := by
    rw [List.getD_eq_getElem _ _ (by rwa [length_paddedRows h])]
    exact length_of_mem_paddedRows h hnames (List.getElem_mem _)
  have hlength' : ((paddedRows size (currencies + 1) entries').getD i []).length =
      currencies + 1 := by
    rw [List.getD_eq_getElem _ _ (by rwa [length_paddedRows h'])]
    exact length_of_mem_paddedRows h' hnames' (List.getElem_mem _)
  rw [forall₂_iff_getD hlength hlength' 0]
  refine forall₂_congr fun j _ => ?_
  rw [← encode_getD_paddedRows size (currencies + 1) entries,
    ← encode_getD_paddedRows size (currencies + 1) entries', Scalar.encode_eq_encode_iff]

/-! ### Ledgers that do not fit -/

theorem rowOf_eq_error {e : Entry} {name : String} (hname : e.username = .text name)
    {failure : Failure} (h : rowOf (.integer currencies) e = .error failure) :
    failure.kind = .configuration := by
  rw [rowOf, Entry.identity, hname] at h
  split at h
  · exact absurd h (by simp [Except.map])
  · rw [Failure.showing_text, Datum.ifNegative_natCast, Failure.showing_nil] at h
    rw [← Except.error.inj h]
    rfl

/-- The lengths of domains are short. -/
theorem isTooLong_of_le_maxDomainExponent (hsize : size ≤ Nat.pow 2 Scalar.maxDomainExponent) :
    Text.isTooLong size = false := by
  have hlt : size < 10 ^ 9 := hsize.trans_lt (by decide)
  exact Text.isTooLong_natCast (Text.lt_pow_maxDigits hlt (by decide))

/-- A ledger of named entries that does not fit is refused as misconfigured. -/
theorem evaluations_eq_error (hsize : size ≤ Nat.pow 2 Scalar.maxDomainExponent)
    (hnames : ∀ e ∈ entries, ∃ name, e.username = .text name) (h : ¬Fits size currencies entries) :
    ∃ failure, evaluations entries (.integer currencies) (.integer size) = .error failure ∧
      failure.kind = .configuration := by
  rcases le_or_gt entries.length size with hroom | hroom
  · rw [evaluations_of_length_le hsize hroom]
    cases hrows : entries.mapM (rowOf (.integer currencies)) with
    | ok rows =>
      have hentries := (mapM_rowOf_eq_ok (c := currencies) rfl hrows).1
      exact absurd ⟨hroom, fun e he => by exact_mod_cast (hentries e he).1⟩ h
    | error failure =>
      obtain ⟨e, he, hfailure⟩ := exists_of_mapM_eq_error hrows
      obtain ⟨name, hname⟩ := hnames e he
      exact ⟨failure, rfl, rowOf_eq_error hname hfailure⟩
  · have hcompare : (Datum.integer size).compareInteger? entries.length = some (some .lt) := by
      have hlt : compare (size : Int) entries.length = .lt :=
        compare_lt_iff_lt.mpr (by exact_mod_cast hroom)
      rw [← hlt]
      rfl
    refine ⟨.tooManyUsers entries.length (.integer size), ?_, rfl⟩
    have hshort := isTooLong_of_le_maxDomainExponent hsize
    rw [evaluations, hcompare]
    exact congrArg Except.error (Failure.showing_integer_of_short hshort _)

theorem polynomials_eq_error {domain : Domain}
    (hexponent : domain.exponent ≤ Scalar.maxDomainExponent)
    (hnames : ∀ e ∈ entries, ∃ name, e.username = .text name)
    (h : ¬Fits domain.size currencies entries) :
    ∃ failure, polynomials entries (.integer currencies) domain = .error failure ∧
      failure.kind = .configuration := by
  have hsize : domain.size ≤ Nat.pow 2 Scalar.maxDomainExponent :=
    Nat.pow_le_pow_right (by norm_num) hexponent
  obtain ⟨failure, hfailure, hkind⟩ := evaluations_eq_error hsize hnames h
  refine ⟨failure, ?_, hkind⟩
  rw [polynomials, hfailure]
  rfl

/-! ### Ledgers that fit -/

/-- Polynomials of degrees below the number of rows, the `j`-th of which has the value `values i j`
at the `i`-th point. -/
def HaveValues (domain : Domain) (values : Nat → Nat → Scalar) (columns : List Poly) : Prop :=
  ∀ (j : Nat) (f : Poly), columns[j]? = some f → f.degree < domain.size ∧
    ∀ i < domain.size, f.eval (domain.point i) = values i j

/-- What the polynomials of a ledger are: one for the identities and one for each currency, of
degrees below the number of rows, with the values of the users at their rows, and zero at the rows
past the last user. -/
structure Represents (domain : Domain) (currencies : Nat) (entries : List Entry)
    (columns : List Poly) : Prop where
  /-- One column more than currencies. -/
  length_eq : columns.length = currencies + 1
  /-- Degrees are below the number of rows. -/
  degree_lt : ∀ f ∈ columns, f.degree < domain.size
  /-- The first column holds the identities. -/
  identity : ∀ (i : Nat) (name : String) (balances : List Nat) (f : Poly),
    entries[i]? = some ⟨.text name, balances⟩ → columns[0]? = some f →
      f.eval (domain.root ^ i) = Scalar.encode (Entry.identityOf name)
  /-- The others hold the balances. -/
  balance : ∀ (i j : Nat) (name : String) (balances : List Nat) (b : Nat) (f : Poly),
    entries[i]? = some ⟨.text name, balances⟩ → balances[j]? = some b →
      columns[j + 1]? = some f → f.eval (domain.root ^ i) = Scalar.encode b
  /-- Rows past the last user are zero. -/
  padding : ∀ i, entries.length ≤ i → i < domain.size → ∀ f ∈ columns,
    f.eval (domain.root ^ i) = 0

/-- Polynomials with the values of the rows represent the ledger. -/
theorem HaveValues.represents {domain : Domain} {columns : List Poly}
    (hlength : columns.length = currencies + 1) (hroom : entries.length ≤ domain.size)
    (hvalues : HaveValues domain (cell entries) columns) :
    Represents domain currencies entries columns := by
  refine ⟨hlength, ?_, ?_, ?_, ?_⟩
  · intro f hf
    obtain ⟨j, hj⟩ := List.mem_iff_getElem?.mp hf
    exact (hvalues j f hj).1
  · intro i name balances f he hf
    have hi : i < domain.size := (List.getElem?_eq_some_iff.mp he).1.trans_le hroom
    exact ((hvalues 0 f hf).2 i hi).trans (cell_identity he)
  · intro i j name balances b f he hb hf
    have hi : i < domain.size := (List.getElem?_eq_some_iff.mp he).1.trans_le hroom
    exact ((hvalues (j + 1) f hf).2 i hi).trans (cell_balance he hb)
  · intro i hpast hi f hf
    obtain ⟨j, hj⟩ := List.mem_iff_getElem?.mp hf
    exact ((hvalues j f hj).2 i hi).trans (cell_of_length_le hpast j)

/-- Columns are equal exactly if they have the same values on the domain. -/
theorem HaveValues.eq_iff {domain : Domain} (hroot : HalfTurn domain.exponent domain.root)
    {columns columns' : List Poly} (hlength : columns.length = currencies + 1)
    (hlength' : columns'.length = currencies + 1) {values values' : Nat → Nat → Scalar}
    (hvalues : HaveValues domain values columns) (hvalues' : HaveValues domain values' columns') :
    columns = columns' ↔
      ∀ i < domain.size, ∀ j < currencies + 1, values i j = values' i j := by
  constructor
  · rintro rfl i hi j hj
    have hf : columns[j]? = some columns[j] := List.getElem?_eq_getElem (hlength ▸ hj)
    rw [← (hvalues j _ hf).2 i hi, (hvalues' j _ hf).2 i hi]
  · intro h
    refine List.ext_getElem (hlength.trans hlength'.symm) fun j hj hj' => ?_
    obtain ⟨hdegree, heval⟩ := hvalues j _ (List.getElem?_eq_getElem hj)
    obtain ⟨hdegree', heval'⟩ := hvalues' j _ (List.getElem?_eq_getElem hj')
    refine Poly.eq_of_eval_eq hroot hdegree hdegree' fun i hi => ?_
    exact (heval i hi).trans ((h i hi j (hlength ▸ hj)).trans (heval' i hi).symm)

section Domain

variable {domain : Domain} (hexponent : domain.exponent ≤ Scalar.maxDomainExponent)
  (hroot : HalfTurn domain.exponent domain.root)
  (hnames : ∀ e ∈ entries, ∃ name, e.username = .text name)

include hexponent hroot hnames

theorem exists_haveValues (hfits : Fits domain.size currencies entries) :
    ∃ columns, polynomials entries (.integer currencies) domain = .ok columns ∧
      columns.length = currencies + 1 ∧
      HaveValues domain (cell entries) columns :=
  polynomials_eq_ok hexponent hroot hfits.1 fun e he => ⟨hfits.2 e he, hnames e he⟩

theorem polynomials_eq_error_iff :
    (∃ failure, polynomials entries (.integer currencies) domain = .error failure ∧
      failure.kind = .configuration) ↔ ¬Fits domain.size currencies entries := by
  refine ⟨?_, polynomials_eq_error hexponent hnames⟩
  rintro ⟨failure, hfailure, -⟩ hfits
  obtain ⟨columns, hcolumns, -⟩ := exists_haveValues hexponent hroot hnames hfits
  exact absurd (hfailure.symm.trans hcolumns) (by simp)

theorem exists_represents (hfits : Fits domain.size currencies entries) :
    ∃ columns, polynomials entries (.integer currencies) domain = .ok columns ∧
      Represents domain currencies entries columns := by
  obtain ⟨columns, hcolumns, hlength, hvalues⟩ := exists_haveValues hexponent hroot hnames hfits
  exact ⟨columns, hcolumns, hvalues.represents hlength hfits.1⟩

/-- Ledgers that fit have one list of polynomials exactly if, filled up, they are congruent. -/
theorem polynomials_eq_iff (hfits : Fits domain.size currencies entries)
    (hnames' : ∀ e ∈ entries', ∃ name, e.username = .text name)
    (hfits' : Fits domain.size currencies entries') :
    polynomials entries (.integer currencies) domain =
        polynomials entries' (.integer currencies) domain ↔
      Congruent (paddedRows domain.size (currencies + 1) entries)
        (paddedRows domain.size (currencies + 1) entries') := by
  obtain ⟨columns, hcolumns, hlength, hvalues⟩ := exists_haveValues hexponent hroot hnames hfits
  obtain ⟨columns', hcolumns', hlength', hvalues'⟩ :=
    exists_haveValues hexponent hroot hnames' hfits'
  rw [hcolumns, hcolumns', Except.ok.injEq, hvalues.eq_iff hroot hlength hlength' hvalues',
    congruent_paddedRows_iff hfits hnames hfits' hnames']

end Domain

/-- Over every domain, the polynomials of a ledger of named entries are refused as misconfigured
exactly if the ledger does not fit; if it does, they represent it, and they are those of another
ledger that fits exactly if the two, filled up with rows of zeros, are congruent. -/
theorem polynomials_represent {k : Nat} (hk : k ≤ Scalar.maxDomainExponent) (currencies : Nat) :
    ∃ domain, Domain.ofDatum (.integer k) = .ok domain ∧ domain.size = 2 ^ k ∧
      Scalar.rootOfUnity (Nat.pow 2 k : Nat) = .ok domain.root ∧
      ∀ entries : List Entry, (∀ e ∈ entries, ∃ name, e.username = .text name) →
        ((∃ failure, polynomials entries (.integer currencies) domain = .error failure ∧
            failure.kind = .configuration) ↔
          2 ^ k < entries.length ∨ ∃ e ∈ entries, e.balances.length ≠ currencies) ∧
        (Fits (2 ^ k) currencies entries →
          (∃ columns, polynomials entries (.integer currencies) domain = .ok columns ∧
            Represents domain currencies entries columns) ∧
          ∀ entries' : List Entry, (∀ e ∈ entries', ∃ name, e.username = .text name) →
            Fits (2 ^ k) currencies entries' →
            (polynomials entries (.integer currencies) domain =
                polynomials entries' (.integer currencies) domain ↔
              Congruent (paddedRows (2 ^ k) (currencies + 1) entries)
                (paddedRows (2 ^ k) (currencies + 1) entries'))) := by
  have hroot := Scalar.halfTurn_twoPowerRoot hk
  refine ⟨⟨k, Scalar.twoPowerRoot k⟩, Domain.ofDatum_eq_ok_iff.mpr ⟨k, hk, rfl, rfl⟩, rfl,
    Scalar.rootOfUnity_two_pow hk, fun entries hnames => ⟨?_, fun hfits => ⟨?_, ?_⟩⟩⟩
  · exact (polynomials_eq_error_iff hk hroot hnames).trans not_fits_iff
  · exact exists_represents hk hroot hnames hfits
  · exact fun entries' hnames' hfits' =>
      polynomials_eq_iff hk hroot hnames hfits hnames' hfits'

/-- Over two rows: the ledger of one user is that of a balance larger by the order of the field and
of a second user without name and balance, it is not that of another balance, and three users are
too many. -/
theorem polynomials_represent_two_rows :
    let alone : List Entry := [⟨.text "a", [7]⟩]
    let joined : List Entry := [⟨.text "a", [7 + groupOrder]⟩, ⟨.text "", [0]⟩]
    let richer : List Entry := [⟨.text "a", [8]⟩]
    let crowd : List Entry := [⟨.text "a", [7]⟩, ⟨.text "b", [7]⟩, ⟨.text "c", [7]⟩]
    1 ≤ Scalar.maxDomainExponent ∧
      ∃ domain, Domain.ofDatum (.integer 1) = .ok domain ∧
        (∃ columns, polynomials alone (.integer 1) domain = .ok columns ∧
          Represents domain 1 alone columns) ∧
        polynomials alone (.integer 1) domain = polynomials joined (.integer 1) domain ∧
        polynomials alone (.integer 1) domain ≠ polynomials richer (.integer 1) domain ∧
        ∃ failure, polynomials crowd (.integer 1) domain = .error failure ∧
          failure.kind = .configuration := by
  intro alone joined richer crowd
  obtain ⟨domain, hdomain, -, -, h⟩ := polynomials_represent (k := 1) (by decide) 1
  have halone : ∀ e ∈ alone, ∃ name, e.username = .text name := by simp [alone]
  have hjoined : ∀ e ∈ joined, ∃ name, e.username = .text name := by simp [joined]
  have hricher : ∀ e ∈ richer, ∃ name, e.username = .text name := by simp [richer]
  have hcrowd : ∀ e ∈ crowd, ∃ name, e.username = .text name := by simp [crowd]
  obtain ⟨hrepresents, heq⟩ := (h alone halone).2 ⟨by decide, by simp [alone]⟩
  refine ⟨by decide, domain, hdomain, hrepresents, ?_, ?_, ?_⟩
  · refine (heq joined hjoined ⟨by decide, by simp [joined]⟩).mpr ?_
    have hbalance : 7 ≡ 7 + groupOrder [MOD groupOrder] := (Nat.add_modEq_right).symm
    exact .cons (.cons rfl (.cons hbalance .nil)) (.cons (.cons rfl (.cons rfl .nil)) .nil)
  · intro hsame
    obtain _ | ⟨_ | ⟨-, _ | ⟨hbalance, -⟩⟩, -⟩ :=
      (heq richer hricher ⟨by decide, by simp [richer]⟩).mp hsame
    exact absurd hbalance (by decide)
  · exact (h crowd hcrowd).1.mpr (.inl (by decide))

end Columns

end LiabilityProof
