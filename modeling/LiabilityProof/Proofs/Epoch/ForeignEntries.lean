import LiabilityProof.Proofs.Epoch.InclusionProof
import LiabilityProof.Proofs.Ledger.Identity

/-!
# Proofs with the claims of another ledger

A proof can be asked for with the entries of any ledger, and the index has to be one of these
entries. The columns are only ever looked at in a point of the domain. So what the entry has to
agree with is the row that the index leads to, counted round the domain: the entry of the
snapshot's own ledger there, or zeros past its last one (`inclusionProof_eq_ok_iff`).
-/

namespace LiabilityProof

namespace Columns

/-- Two users have one row exactly if they are one in the field. -/
theorem rowValues_eq_iff {name name' : String} {balances balances' : List Nat} :
    rowValues name balances = rowValues name' balances' ↔
      Entry.identityOf name ≡ Entry.identityOf name' [MOD groupOrder] ∧
        List.Forall₂ (· ≡ · [MOD groupOrder]) balances balances' := by
  rw [rowValues, rowValues, List.cons.injEq, Scalar.encode_eq_encode_iff, ← List.forall₂_eq_eq_eq,
    List.forall₂_map_left_iff, List.forall₂_map_right_iff]
  simp only [Scalar.encode_eq_encode_iff]

/-- A row of zeros belongs to a user whose identity and balances are zero in the field. -/
theorem forall_mem_rowValues_eq_zero_iff {name : String} {balances : List Nat} :
    (∀ value ∈ rowValues name balances, value = 0) ↔
      Entry.identityOf name ≡ 0 [MOD groupOrder] ∧ ∀ b ∈ balances, b ≡ 0 [MOD groupOrder] := by
  simp only [rowValues, List.forall_mem_cons, List.forall_mem_map,
    ← Scalar.encode_eq_encode_iff]
  exact Iff.rfl

end Columns

namespace Snapshot

/-- A user who is, in the field, what stands in a row. -/
structure Matches (s : Snapshot) (row : Nat) (name : String) (balances : List Nat) : Prop where
  /-- An entry of the ledger has the same identity and the same balances. -/
  own : ∀ e, s.entries[row]? = some e → ∃ name', e.username = .text name' ∧
    Entry.identityOf name ≡ Entry.identityOf name' [MOD groupOrder] ∧
      List.Forall₂ (· ≡ · [MOD groupOrder]) balances e.balances
  /-- Past the last entry, identity and balances are zero. -/
  padding : s.entries.length ≤ row →
    Entry.identityOf name ≡ 0 [MOD groupOrder] ∧ ∀ b ∈ balances, b ≡ 0 [MOD groupOrder]

variable {E : PairingGroups} {τ : Scalar} {s : Snapshot} {name : String} {balances : List Nat}

/-! ### What a row asks for -/

/-- No column differs from the claims if every claim is the value of the row. -/
theorem not_differs_iff {i : Nat} {claims row : List Scalar} (hwidth : claims.length = s.width)
    (hrow : ∀ (j : Nat) (f : Poly), s.columns[j]? = some f →
      f.eval (s.setup.domain.point i) = row.getD j 0) :
    (∀ j, ¬s.Differs i claims j) ↔ ∀ j value, claims[j]? = some value → row.getD j 0 = value := by
  constructor
  · intro hall j value hvalue
    have hj : j < s.columns.length := by
      have hj := (List.getElem?_eq_some_iff.mp hvalue).1
      rwa [hwidth] at hj
    obtain ⟨f, hf⟩ : ∃ f, s.columns[j]? = some f := ⟨_, List.getElem?_eq_getElem hj⟩
    rw [← hrow j f hf]
    exact by_contra fun hne => hall j ⟨f, value, hf, hvalue, hne⟩
  · rintro hall j ⟨f, value, hf, hvalue, hne⟩
    exact hne ((hrow j f hf).trans (hall j value hvalue))

theorem forall_getD_eq_iff {claims row : List Scalar} (hlength : row.length = claims.length) :
    (∀ j value, claims[j]? = some value → row.getD j 0 = value) ↔ claims = row := by
  constructor
  · intro hall
    refine List.ext_getElem hlength.symm fun j hj hj' => ?_
    have hvalue := hall j claims[j] (List.getElem?_eq_getElem hj)
    rw [List.getD_eq_getElem _ _ hj'] at hvalue
    exact hvalue.symm
  · rintro rfl j value hvalue
    rw [List.getD_eq_getElem?_getD, hvalue]
    rfl

theorem forall_getD_nil_iff {claims : List Scalar} :
    (∀ j value, claims[j]? = some value → ([] : List Scalar).getD j 0 = value) ↔
      ∀ value ∈ claims, value = 0 := by
  simp only [List.getD_nil, List.mem_iff_getElem?]
  exact ⟨fun hall value ⟨j, hj⟩ => (hall j value hj).symm,
    fun hall j value hj => (hall value ⟨j, hj⟩).symm⟩

/-- The values of a row are those of a user exactly if the user matches the row. -/
theorem forall_getD_row_iff {row : Nat} (hbalances : balances.length + 1 = s.width)
    (hentries : ∀ e ∈ s.entries, e.balances.length + 1 = s.width ∧
      ∃ name, e.username = .text name) :
    (∀ j value, (Columns.rowValues name balances)[j]? = some value →
        ((s.entries.map Columns.row).getD row []).getD j 0 = value) ↔
      s.Matches row name balances := by
  cases he : s.entries[row]? with
  | some e =>
    have hmem := List.mem_of_getElem? he
    obtain ⟨hcount, name', hname'⟩ := hentries e hmem
    have hrow : (s.entries.map Columns.row).getD row [] =
        Columns.rowValues name' e.balances := by
      rw [List.getD_eq_getElem?_getD, List.getElem?_map, he, Option.map_some, Option.getD_some]
      cases e
      cases hname'
      rfl
    have hlength : (Columns.rowValues name' e.balances).length =
        (Columns.rowValues name balances).length := by
      rw [Columns.length_rowValues, Columns.length_rowValues]
      omega
    rw [hrow, forall_getD_eq_iff hlength, Columns.rowValues_eq_iff]
    have hlt := (List.getElem?_eq_some_iff.mp he).1
    constructor
    · intro h
      refine ⟨fun e' he' => ?_, fun hle => absurd hlt (not_lt.mpr hle)⟩
      obtain rfl : e = e' := Option.some.inj (he.symm.trans he')
      exact ⟨name', hname', h⟩
    · intro h
      obtain ⟨name'', hname'', hsame⟩ := h.own e he
      obtain rfl : name' = name'' := Datum.text.inj (hname'.symm.trans hname'')
      exact hsame
  | none =>
    have hle := List.getElem?_eq_none_iff.mp he
    rw [List.getD_eq_default _ _ (by rwa [List.length_map]), forall_getD_nil_iff,
      Columns.forall_mem_rowValues_eq_zero_iff]
    exact ⟨fun h => ⟨fun e he' => absurd (he.symm.trans he') (by simp), fun _ => h⟩,
      fun h => h.padding hle⟩

/-! ### Proving a row -/

/-- Without a text for a name there is no identity to open the first column to. -/
theorem exists_prove_eq_error (hE : E.Lawful) {d : Nat} (hsetup : s.setup.Honest E τ d)
    (hschedule : s.schedule ≠ .unusable) (i : Nat) {e : Entry}
    (hname : ∀ name, e.username ≠ .text name) : ∃ failure, s.prove E i e = .error failure := by
  by_cases hbalances : e.balances.length + 1 = s.width
  · have hpos : 0 < s.width := by omega
    obtain ⟨f, hf⟩ : ∃ f, s.columns[0]? = some f := ⟨_, List.getElem?_eq_getElem hpos⟩
    have hclaim : claimedValue e (.integer 0) = .error .noSuchProperty := by
      have hidentity : e.identity = .error .noSuchProperty := by
        rw [Entry.identity]
        split
        next name h => exact absurd h (hname name)
        next => rfl
      rw [claimedValue, if_pos (by rfl), hidentity]
      rfl
    have hfirst : s.openColumnAt E (.integer i) (.ok (s.setup.domain.point i)) e (.integer 0) =
        .error .noSuchProperty := by
      have hcolumn : s.column (.integer 0) = .ok f := column_ofNat hf
      rw [openColumnAt, hcolumn]
      change (Kzg.commit E f s.setup.parameters.key >>= fun commitment => _) = _
      rw [hsetup.parameters_key,
        Kzg.commit_ofSecret hE (degree_le_of_honest hsetup (List.mem_of_getElem? hf))]
      change (claimedValue e (.integer 0) >>= fun value => _) = _
      rw [hclaim]
      rfl
    rw [prove_of_length_eq hbalances,
      Schedule.run_eq_error hschedule hpos (fun j hj => absurd hj (Nat.not_lt_zero j)) hfirst]
    exact ⟨_, rfl⟩
  · exact ⟨_, prove_of_length_ne hbalances⟩

/-- Without a number of workers nothing is opened. -/
theorem schedule_ne_unusable {user : Datum} {entries : List Entry} {proof : InclusionProof}
    (h : s.inclusionProof E user entries = .ok proof) : s.schedule ≠ .unusable := by
  intro hschedule
  by_cases hindex : ∃ i : Nat, user = .integer i ∧ i < entries.length
  · obtain ⟨i, rfl, hi⟩ := hindex
    rw [inclusionProof_ofNat (List.getElem?_eq_getElem hi)] at h
    by_cases hbalances : entries[i].balances.length + 1 = s.width
    · rw [prove_of_length_eq hbalances, hschedule] at h
      exact absurd h (by simp [Schedule.run, Except.map])
    · exact absurd ((prove_of_length_ne hbalances).symm.trans h) (by simp)
  · obtain ⟨failure, hfailure, -⟩ := inclusionProof_of_not_index (E := E) (s := s) hindex
    exact absurd (h.symm.trans hfailure) (by simp)

/-- A row is proved exactly if no column differs from the claims. -/
theorem exists_prove_eq_ok_iff (hE : E.Lawful) {d : Nat} (hsetup : s.setup.Honest E τ d)
    (hschedule : s.schedule ≠ .unusable) (i : Nat) (name : String) (balances : List Nat) :
    (∃ proof, s.prove E i ⟨.text name, balances⟩ = .ok proof) ↔
      balances.length + 1 = s.width ∧ ∀ j, ¬s.Differs i (Columns.rowValues name balances) j := by
  obtain ⟨hne, failure, hprove, -⟩ | ⟨-, j, hprove, hfirst⟩ | ⟨hwidth, hall, hprove⟩ :=
    prove_cases hE hsetup hschedule i name balances
  · exact iff_of_false (by rw [hprove]; simp) fun h => hne h.1
  · exact iff_of_false (by rw [hprove]; simp) fun h => h.2 j hfirst.1
  · exact iff_of_true ⟨_, hprove⟩ ⟨hwidth, hall⟩

section Committed

variable (hE : E.Lawful) {d : Int} {k currencies provenance currencies' : Datum}
  (hsetup : TrustedSetup.bind (Parameters.generate E τ d) k currencies provenance = .ok s.setup)
  (hcolumns : Columns.polynomials s.entries currencies' s.setup.domain = .ok s.columns)
  (hschedule : s.schedule ≠ .unusable)

include hE hsetup hcolumns hschedule in
/-- The rows of a committed ledger are proved to those who match them. -/
theorem exists_prove_eq_ok_iff_matches (i : Nat) (name : String) (balances : List Nat) :
    (∃ proof, s.prove E i ⟨.text name, balances⟩ = .ok proof) ↔
      balances.length + 1 = s.width ∧ s.Matches (i % s.setup.domain.size) name balances := by
  obtain ⟨d, rfl, hhonest⟩ := TrustedSetup.honest_of_bind hsetup
  obtain ⟨columns, domain, -, hdomain, -, -, hbound⟩ := (TrustedSetup.bind_eq_ok_iff rfl).mp hsetup
  obtain rfl : s.setup.domain = domain := by rw [hbound]; rfl
  obtain ⟨-, hentries, hvalues⟩ :=
    Columns.polynomials_eq_ok_only (Domain.halfTurn_of_ofDatum hdomain) hcolumns
  have hrow : ∀ (j : Nat) (f : Poly), s.columns[j]? = some f → f.eval (s.setup.domain.point i) =
      ((s.entries.map Columns.row).getD (i % s.setup.domain.size) []).getD j 0 := by
    intro j f hf
    rw [← Domain.point_mod hdomain i]
    exact hvalues j f hf _ (Nat.mod_lt i (Nat.two_pow_pos _))
  rw [exists_prove_eq_ok_iff hE hhonest hschedule]
  refine and_congr_right fun hwidth => ?_
  rw [not_differs_iff (by rwa [Columns.length_rowValues]) hrow]
  exact forall_getD_row_iff hwidth hentries

include hE hsetup hcolumns in
/-- A proof is returned for an index of the entries that are handed in, if the entry there has a
text for a name, a balance for each currency, and what stands in the committed row, counted round
the domain. That row need not be one of the snapshot's own entries. -/
theorem inclusionProof_eq_ok_iff (user : Datum) (entries : List Entry) :
    (∃ proof, s.inclusionProof E user entries = .ok proof) ↔
      s.schedule ≠ .unusable ∧
        ∃ (i : Nat) (name : String) (balances : List Nat), user = .integer i ∧
          entries[i]? = some ⟨.text name, balances⟩ ∧ balances.length + 1 = s.width ∧
          s.Matches (i % s.setup.domain.size) name balances := by
  constructor
  · rintro ⟨proof, hproof⟩
    have hschedule := schedule_ne_unusable hproof
    refine ⟨hschedule, ?_⟩
    by_cases hindex : ∃ i : Nat, user = .integer i ∧ i < entries.length
    · obtain ⟨i, rfl, hi⟩ := hindex
      have he : entries[i]? = some entries[i] := List.getElem?_eq_getElem hi
      rw [inclusionProof_ofNat he] at hproof
      by_cases hname : ∃ name, entries[i].username = .text name
      · obtain ⟨name, hname⟩ := hname
        have hentry : entries[i] = ⟨.text name, entries[i].balances⟩ := by rw [← hname]
        rw [hentry] at hproof
        obtain ⟨hwidth, hmatches⟩ := (exists_prove_eq_ok_iff_matches hE hsetup hcolumns hschedule
          i name _).mp ⟨proof, hproof⟩
        exact ⟨i, name, _, rfl, he.trans (congrArg some hentry), hwidth, hmatches⟩
      · obtain ⟨d, rfl, hhonest⟩ := TrustedSetup.honest_of_bind hsetup
        obtain ⟨failure, hfailure⟩ :=
          exists_prove_eq_error hE hhonest hschedule i (not_exists.mp hname)
        exact absurd (hproof.symm.trans hfailure) (by simp)
    · obtain ⟨failure, hfailure, -⟩ := inclusionProof_of_not_index (E := E) (s := s) hindex
      exact absurd (hproof.symm.trans hfailure) (by simp)
  · rintro ⟨hschedule, i, name, balances, rfl, he, hwidth, hmatches⟩
    rw [inclusionProof_ofNat he]
    exact (exists_prove_eq_ok_iff_matches hE hsetup hcolumns hschedule i name balances).mpr
      ⟨hwidth, hmatches⟩

end Committed

/-! ### Rows past the last entry -/

/-- A ledger that has room makes a snapshot on parameters that reach the last row. -/
theorem exists_of_ledger (E : PairingGroups) (τ : Scalar) {k currencies : Nat}
    (hk : k ≤ Scalar.maxDomainExponent) (hcurrencies : 1 ≤ currencies) {d : Int}
    (hd : ((2 ^ k : Nat) : Int) - 1 ≤ d) (schedule : Schedule) {entries : List Entry}
    (hroom : entries.length ≤ 2 ^ k)
    (hentries : ∀ e ∈ entries, e.balances.length = currencies ∧ ∃ name, e.username = .text name) :
    ∃ s : Snapshot,
      TrustedSetup.bind (Parameters.generate E τ d) (.integer k) (.integer currencies) .null =
        .ok s.setup ∧
      Columns.polynomials s.entries (.integer currencies) s.setup.domain = .ok s.columns ∧
      s.entries = entries ∧ s.schedule = schedule ∧ s.setup.domain.size = 2 ^ k ∧
      s.width = currencies + 1 := by
  obtain ⟨setup, hbind, hdomain, hsetup⟩ :=
    TrustedSetup.exists_bind_eq_ok E τ hk hcurrencies hd .null
  have hsize : setup.domain.size = 2 ^ k := by rw [hdomain]; rfl
  obtain ⟨columns, hcolumns, hlength, hvalues⟩ := Columns.polynomials_eq_ok
    (by rw [hdomain]; exact hk) (by rw [hdomain]; exact Scalar.halfTurn_twoPowerRoot hk)
    (hroom.trans hsize.ge) hentries
  have hfits : mismatch? columns entries setup = none := by
    refine mismatch?_eq_none hsetup hlength (fun f hf => ?_) (hroom.trans hsize.ge)
      fun e he => (hentries e he).1
    obtain ⟨j, hj⟩ := List.mem_iff_getElem?.mp hf
    exact (hvalues j f hj).1
  exact ⟨⟨columns, entries, setup, schedule, hfits⟩, hbind, hcolumns, rfl, rfl, hsize, hlength⟩

theorem inclusionProof_eq_ok_iff_alice : ∃ s : Snapshot,
    s.entries = [⟨.text "alice", [10]⟩] ∧ s.setup.domain.size = 2 ∧
      ∀ (user : Datum) (entries : List Entry),
        (∃ proof, s.inclusionProof .bn254Logarithms user entries = .ok proof) ↔
          s.schedule ≠ .unusable ∧
            ∃ (i : Nat) (name : String) (balances : List Nat), user = .integer i ∧
              entries[i]? = some ⟨.text name, balances⟩ ∧ balances.length + 1 = s.width ∧
              s.Matches (i % s.setup.domain.size) name balances := by
  obtain ⟨s, hbind, hcolumns, hentries, -, hsize, -⟩ := exists_of_ledger
    .bn254Logarithms (Scalar.encode 3) (by decide : 1 ≤ Scalar.maxDomainExponent) le_rfl
    (by decide : ((2 ^ 1 : Nat) : Int) - 1 ≤ 1) .inTurn
    (by decide : [(⟨.text "alice", [10]⟩ : Entry)].length ≤ 2 ^ 1) (by simp)
  exact ⟨s, hentries, hsize, inclusionProof_eq_ok_iff PairingGroups.bn254Logarithms_lawful hbind
    hcolumns⟩

/-- A ledger of one user over two rows. The second row is proved to a user without a name and a
balance, and the index two leads to the first row again. -/
theorem exists_inclusionProof_past_own_entries : ∃ s : Snapshot,
    PairingGroups.bn254Logarithms.Lawful ∧
      TrustedSetup.bind (Parameters.generate .bn254Logarithms (Scalar.encode 3) 1) (.integer 1)
          (.integer 1) .null = .ok s.setup ∧
      Columns.polynomials s.entries (.integer 1) s.setup.domain = .ok s.columns ∧
      s.entries = [⟨.text "alice", [10]⟩] ∧
      (∃ proof, s.inclusionProof .bn254Logarithms (.integer 1)
        [⟨.text "alice", [10]⟩, ⟨.text "", [0]⟩] = .ok proof) ∧
      ∃ proof, s.inclusionProof .bn254Logarithms (.integer 2)
        [⟨.text "alice", [10]⟩, ⟨.text "", [0]⟩, ⟨.text "alice", [10]⟩] = .ok proof := by
  obtain ⟨s, hbind, hcolumns, hentries, hschedule, hsize, hwidth⟩ := exists_of_ledger
    .bn254Logarithms (Scalar.encode 3) (by decide : 1 ≤ Scalar.maxDomainExponent) le_rfl
    (by decide : ((2 ^ 1 : Nat) : Int) - 1 ≤ 1) .inTurn
    (by decide : [(⟨.text "alice", [10]⟩ : Entry)].length ≤ 2 ^ 1) (by simp)
  have hprove := exists_prove_eq_ok_iff_matches PairingGroups.bn254Logarithms_lawful hbind hcolumns
    (by rw [hschedule]; simp)
  have hpadding : s.Matches (1 % s.setup.domain.size) "" [0] := by
    rw [hsize]
    refine ⟨fun e he => ?_, fun _ => ⟨rfl, List.forall_mem_singleton.mpr rfl⟩⟩
    rw [hentries] at he
    exact absurd he (by simp)
  have hround : s.Matches (2 % s.setup.domain.size) "alice" [10] := by
    rw [hsize]
    refine ⟨fun e he => ?_, fun hle => ?_⟩
    · rw [hentries] at he
      obtain rfl : ⟨.text "alice", [10]⟩ = e := Option.some.inj he
      exact ⟨"alice", rfl, rfl, .cons rfl .nil⟩
    · rw [hentries] at hle
      exact absurd hle (by simp)
  obtain ⟨second, hsecond⟩ := (hprove 1 "" [0]).mpr ⟨hwidth.symm, hpadding⟩
  obtain ⟨first, hfirst⟩ := (hprove 2 "alice" [10]).mpr ⟨hwidth.symm, hround⟩
  exact ⟨s, PairingGroups.bn254Logarithms_lawful, hbind, hcolumns, hentries,
    ⟨second, (inclusionProof_ofNat (i := 1) rfl).trans hsecond⟩,
    ⟨first, (inclusionProof_ofNat (i := 2) rfl).trans hfirst⟩⟩

end Snapshot

end LiabilityProof
