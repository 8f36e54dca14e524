import LiabilityProof.Proofs.Kzg.Setup

/-!
# What a bound set-up can commit to

Parameters that were read claim a largest degree, and hold some number of powers. Binding looks at
the claim only. A commitment looks at the claim first, and then asks for a power for every
coefficient that is not zero; an opening is made with the prover's key, whose largest degree is the
one that the powers support.

So a set-up serves a polynomial of its domain when there is a power for the leading coefficient
(`Serves.iff_degree_lt`), and all of them when there are as many powers as rows
(`serves_columns_iff`). Parameters that claim more than they hold are bound all the same, and fail
at the first column of a high degree.
-/

namespace LiabilityProof

open scoped Residue

/-! ### Coefficients without powers -/

namespace Poly

theorem coeffs_zero : (0 : Poly).coeffs = [0] := by decide

theorem eq_zero_of_coeffs {f : Poly} (h : f.coeffs = [0]) : f = 0 := by
  apply toPolynomial_injective
  rw [toPolynomial, toPolynomial, h, coeffs_zero]

/-- The polynomial `x ^ n`. -/
def power (n : Nat) : Poly where
  coeffs := List.replicate n 0 ++ [1]
  coeffs_ne_nil := by simp
  eq_zero_of_getLast? h := by
    rw [List.getLast?_concat, Option.some.injEq] at h
    exact absurd h one_ne_zero

theorem degree_power (n : Nat) : (power n).degree = n := by
  rw [degree, power, List.length_append, List.length_replicate]
  rfl

theorem power_ne_zero (n : Nat) : power n ≠ 0 := by
  intro h
  have hlast : (power n).coeffs.getLast? = some 1 := List.getLast?_concat
  rw [h, coeffs_zero] at hlast
  exact absurd (Option.some.inj hlast) zero_ne_one

/-- From some position on all coefficients are zero where the polynomial ends before. -/
theorem forall_mem_drop_coeffs_iff {f : Poly} {n : Nat} :
    (∀ c ∈ f.coeffs.drop n, c = 0) ↔ f.degree < n ∨ f = 0 := by
  have hlength := f.length_coeffs
  constructor
  · intro h
    by_contra hne
    obtain ⟨hdegree, hzero⟩ := not_or.mp hne
    have hlt : n < f.coeffs.length := by omega
    -- the leading coefficient is among the rest
    have hmem : f.coeffs.getLast f.coeffs_ne_nil ∈ f.coeffs.drop n := by
      rw [← List.getLast_drop (by simpa using hlt)]
      exact List.getLast_mem _
    have hlast : f.coeffs.getLast? = some 0 := by
      rw [List.getLast?_eq_some_getLast f.coeffs_ne_nil, h _ hmem]
    exact hzero (eq_zero_of_coeffs (f.eq_zero_of_getLast? hlast))
  · rintro (hdegree | rfl) c hc
    · rw [List.drop_eq_nil_of_le (by omega)] at hc
      exact absurd hc List.not_mem_nil
    · exact List.mem_singleton.mp (coeffs_zero ▸ List.mem_of_mem_drop hc)

end Poly

namespace Kzg

variable {E : PairingGroups}

/-- Powers are combined where only coefficients of zero have none. -/
theorem exists_combine {cs : List Scalar} {powers : List G1Point}
    (h : ∀ c ∈ cs.drop powers.length, c = 0) (sum : G1Point) :
    ∃ point, combine E cs powers sum = .ok point := by
  induction cs generalizing powers sum with
  | nil => exact ⟨sum, by rw [combine]⟩
  | cons c cs ih =>
    cases powers with
    | nil =>
      obtain ⟨rfl, hcs⟩ := List.forall_mem_cons.mp h
      have hnone : ∀ c ∈ cs.drop ([] : List G1Point).length, c = 0 := hcs
      rw [combine, if_pos rfl]
      exact ih hnone sum
    | cons power powers =>
      rw [combine]
      exact ih h _

/-- Elsewhere a power is missing. -/
theorem combine_eq_pastTheEnd {cs : List Scalar} {powers : List G1Point}
    (h : ¬∀ c ∈ cs.drop powers.length, c = 0) (sum : G1Point) :
    combine E cs powers sum = .error .pastTheEnd := by
  induction cs generalizing powers sum with
  | nil => exact absurd (by simp) h
  | cons c cs ih =>
    cases powers with
    | nil =>
      rw [combine]
      split
      next hc =>
        have hsome : ¬∀ c ∈ cs.drop ([] : List G1Point).length, c = 0 :=
          fun hcs => h (List.forall_mem_cons.mpr ⟨hc, hcs⟩)
        exact ih hsome sum
      next => rfl
    | cons power powers =>
      rw [combine]
      exact ih h _

variable {f : Poly} {key : CommitmentKey} {n : Int}

/-- A polynomial up to the claimed degree has a commitment where the key has a power for the
leading coefficient. -/
theorem exists_commit (hkey : key.maxDegree = .integer n) (hf : (f.degree : Int) ≤ n)
    (h : f.degree < key.powers.length ∨ f = 0) : ∃ commitment, commit E f key = .ok commitment := by
  rw [commit_of_maxDegree hkey hf]
  exact exists_combine (Poly.forall_mem_drop_coeffs_iff.mpr h) _

theorem commit_eq_pastTheEnd (hkey : key.maxDegree = .integer n) (hf : (f.degree : Int) ≤ n)
    (h : ¬(f.degree < key.powers.length ∨ f = 0)) : commit E f key = .error .pastTheEnd := by
  rw [commit_of_maxDegree hkey hf]
  exact combine_eq_pastTheEnd (mt Poly.forall_mem_drop_coeffs_iff.mp h) _

/-- A polynomial above the claimed degree has no commitment. -/
theorem commit_of_maxDegree_lt (hkey : key.maxDegree = .integer n) (hf : n < (f.degree : Int)) :
    commit E f key =
      .error (.showing key.maxDegree.ifNegative (.degreeTooLarge f.degree key.maxDegree)) := by
  have hcompare : key.maxDegree.compareInteger? f.degree = some (some (compare n f.degree)) := by
    rw [hkey]
    rfl
  rw [commit, hcompare, compare_lt_iff_lt.mpr hf]

/-- With the prover's key there is an opening where there is a power for the leading coefficient
of the quotient, whatever the point and the value. -/
theorem openAt_provingKey_iff {pk : ProvingKey} {z y : Scalar} :
    (∃ opening, openAt E f z y pk.key = .ok opening) ↔ f.degree - 1 < pk.powers1.length := by
  have hkey : pk.key.maxDegree = .integer ((pk.powers1.length : Int) - 1) := rfl
  have hquotient := f.degree_quotient z
  rw [openAt, Poly.quotient_sub_constant, ← hquotient]
  constructor
  · rintro ⟨opening, h⟩
    by_contra hge
    rw [commit_of_maxDegree_lt hkey (by omega)] at h
    exact absurd h (by simp)
  · intro hlt
    exact exists_commit hkey (by omega) (.inl hlt)

end Kzg

/-! ### Set-ups -/

namespace TrustedSetup

/-- The set-up has a commitment to a polynomial, and openings at all points for all values. -/
structure Serves (E : PairingGroups) (setup : TrustedSetup) (f : Poly) : Prop where
  /-- The parameters commit to it. -/
  commit : ∃ commitment, Kzg.commit E f setup.parameters.key = .ok commitment
  /-- The prover opens it. -/
  openAt : ∀ z y, ∃ opening, Kzg.openAt E f z y setup.provingKey.key = .ok opening

variable {E : PairingGroups} {p : Parameters} {k currencies provenance : Datum}
  {setup : TrustedSetup} {d : Int} {f : Poly}

/-- A bound set-up serves the polynomials of its domain for whose degree there is a power. -/
theorem Serves.iff_degree_lt (hd : p.maxDegree = .integer d)
    (hbind : bind p k currencies provenance = .ok setup) (hf : f.degree < setup.domain.size) :
    setup.Serves E f ↔ f.degree < p.powers1.length := by
  obtain ⟨columns, domain, -, -, hsize, -, rfl⟩ := (bind_eq_ok_iff hd).mp hbind
  have hdegree : (f.degree : Int) ≤ d := by
    have hlt : f.degree < domain.size := hf
    omega
  constructor
  · intro h
    by_contra hge
    by_cases hzero : f = 0
    · -- the prover's key supports no degree at all
      have hopen := Kzg.openAt_provingKey_iff.mp (h.openAt 0 0)
      change f.degree - 1 < p.powers1.length at hopen
      have hdegreeZero : f.degree = 0 := by rw [hzero, Poly.degree, Poly.coeffs_zero]; rfl
      omega
    · obtain ⟨commitment, hcommit⟩ := h.commit
      rw [Kzg.commit_eq_pastTheEnd hd hdegree (not_or.mpr ⟨hge, hzero⟩)] at hcommit
      exact absurd hcommit (by simp)
  · intro hlt
    refine ⟨Kzg.exists_commit hd hdegree (.inl hlt), fun z y => ?_⟩
    refine Kzg.openAt_provingKey_iff.mpr ?_
    change f.degree - 1 < p.powers1.length
    omega

/-- A bound set-up serves the polynomials of its domain that do not need a power beyond those that
the parameters hold, and so it serves all of them exactly if there are as many powers as rows. The
claimed degree, which is all that binding looks at, has no part in it. -/
theorem serves_columns_iff (E : PairingGroups) (hd : p.maxDegree = .integer d)
    (hbind : bind p k currencies provenance = .ok setup) :
    (∀ f : Poly, f.degree < setup.domain.size →
        (setup.Serves E f ↔ f.degree < p.powers1.length)) ∧
      ((∀ f : Poly, f.degree < setup.domain.size → setup.Serves E f) ↔
        setup.domain.size ≤ p.powers1.length) := by
  have hserves : ∀ f : Poly, f.degree < setup.domain.size →
      (setup.Serves E f ↔ f.degree < p.powers1.length) :=
    fun f hf => Serves.iff_degree_lt hd hbind hf
  refine ⟨hserves, fun hall => ?_, fun hle f hf => (hserves f hf).mpr (hf.trans_le hle)⟩
  have hpos : 0 < setup.domain.size := Nat.two_pow_pos _
  -- the last column is a power of the largest degree
  have hlast : (Poly.power (setup.domain.size - 1)).degree < setup.domain.size := by
    rw [Poly.degree_power]
    omega
  have hlt := (hserves _ hlast).mp (hall _ hlast)
  rw [Poly.degree_power] at hlt
  omega

/-- Parameters that hold the powers they claim, for two rows. -/
theorem serves_columns_iff_two_rows :
    let p := Parameters.generate .bn254 (Scalar.encode 3) 1
    p.maxDegree = .integer 1 ∧ ∃ setup, bind p (.integer 1) (.integer 1) .null = .ok setup ∧
      (∀ f : Poly, f.degree < setup.domain.size →
        (setup.Serves .bn254 f ↔ f.degree < p.powers1.length)) ∧
      ((∀ f : Poly, f.degree < setup.domain.size → setup.Serves .bn254 f) ↔
        setup.domain.size ≤ p.powers1.length) := by
  obtain ⟨setup, hbind, -⟩ := exists_bind_eq_ok .bn254 (Scalar.encode 3)
    (by decide : 1 ≤ Scalar.maxDomainExponent) le_rfl (by decide : ((2 ^ 1 : Nat) : Int) - 1 ≤ 1)
    .null
  exact ⟨rfl, setup, hbind, serves_columns_iff .bn254 rfl hbind⟩

/-- Parameters that claim the degree one and hold a single power are bound to a domain of two rows,
and have no commitment to `x`. The failure is not one of configuration. -/
theorem exists_bound_without_power :
    let p : Parameters := ⟨[.affine 1 (Residue.ofNat 2)],
      [PairingGroups.generator2, PairingGroups.generator2], .integer 1⟩
    ∃ setup, bind p (.integer 1) (.integer 1) .null = .ok setup ∧
      (Poly.power 1).degree < setup.domain.size ∧
      Kzg.commit .bn254 (Poly.power 1) setup.parameters.key = .error .pastTheEnd ∧
      Failure.kind .pastTheEnd ≠ .configuration := by
  have hcolumns : columnsFor (.integer 1) = .ok (.integer 2) := rfl
  have hdomain : Domain.ofDatum (.integer 1) = .ok ⟨1, Scalar.twoPowerRoot 1⟩ :=
    Domain.ofDatum_eq_ok_iff.mpr ⟨1, by decide, rfl, rfl⟩
  have hmissing : ¬((Poly.power 1).degree < 1 ∨ Poly.power 1 = 0) := by
    rw [Poly.degree_power]
    exact not_or.mpr ⟨lt_irrefl 1, Poly.power_ne_zero 1⟩
  refine ⟨_, (bind_eq_ok_iff rfl).mpr ⟨_, _, hcolumns, hdomain, le_rfl, le_rfl, rfl⟩, ?_, ?_, ?_⟩
  · rw [Poly.degree_power]
    exact one_lt_two
  · exact Kzg.commit_eq_pastTheEnd rfl (by rw [Poly.degree_power]; rfl) hmissing
  · decide

end TrustedSetup

end LiabilityProof
