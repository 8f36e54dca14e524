import LiabilityProof.Proofs.Kzg.Capacity

/-!
# Commitments are values at the secret

The parameters of a seed hold the multiples of the generator by the powers of the seed's secret, and
a commitment sums them with the coefficients. The sum is the multiple by the value of the
polynomial at the secret, whichever coefficients vanish and whatever the secret is
(`commit_ofSeed`). So commitments to a difference and to what was taken away add up to that to the
minuend.
-/

namespace LiabilityProof

open scoped Residue

namespace Kzg

variable {E : PairingGroups}

theorem commit_sub_ofSecret (hE : E.first.Homomorphic .infinity) {τ : Scalar} {d : Nat}
    {f g : Poly} (hf : f.degree ≤ d) (hg : g.degree ≤ d) :
    ∃ difference commitment, commit E (f - g) (.ofSecret E τ d) = .ok difference ∧
      commit E g (.ofSecret E τ d) = .ok commitment ∧
      commit E f (.ofSecret E τ d) = .ok (E.first.add difference commitment) := by
  have hdegree : (f - g).degree ≤ d := (f.degree_sub_le g).trans (max_le hf hg)
  refine ⟨_, _, commit_ofSecret_of_homomorphic hE hdegree, commit_ofSecret_of_homomorphic hE hg, ?_⟩
  rw [commit_ofSecret_of_homomorphic hE hf, hE.add_multiple, Poly.eval_sub, sub_add_cancel]

/-- Under the parameters of a seed, a commitment is the multiple of the generator by the value at
the number that the hash of the seed's text writes, and there is none to a polynomial above the
largest degree. -/
theorem commit_ofSeed (hE : E.first.Homomorphic .infinity) (seed : Datum) (d : Nat) :
    let τ := Scalar.encode (Text.ofBigEndian (Sha256.hash (Text.utf8 seed.display)))
    let key := (Parameters.ofSeed E seed d).key
    (∀ f : Poly, d < f.degree →
        commit E f key = .error (.degreeTooLarge f.degree (.integer d)) ∧
          (Failure.degreeTooLarge f.degree (.integer d)).kind = .value) ∧
      (∀ f : Poly, f.degree ≤ d →
        commit E f key = .ok (E.first.mul (f.eval τ) E.first.generator) ∧
          (f.eval τ = 0 → commit E f key = .ok .infinity)) ∧
      ∀ f g : Poly, f.degree ≤ d → g.degree ≤ d →
        ∃ difference commitment, commit E (f - g) key = .ok difference ∧
          commit E g key = .ok commitment ∧
          commit E f key = .ok (E.first.add difference commitment) := by
  intro τ key
  have hkey : key = .ofSecret E τ d := rfl
  rw [hkey]
  refine ⟨?_, ?_, ?_⟩
  · intro f hf
    exact ⟨commit_of_maxDegree_lt rfl (by exact_mod_cast hf), rfl⟩
  · intro f hf
    have hcommit := commit_ofSecret_of_homomorphic (τ := τ) hE hf
    refine ⟨hcommit, fun hzero => ?_⟩
    rw [hcommit, hzero, hE.multiple_zero]
  · intro f g hf hg
    exact commit_sub_ofSecret hE hf hg

/-- On the curve of the library, under the parameters of the seed 42 up to the degree one: `x ^ 2`
is refused, the commitment to `x` less the secret is the point at infinity, and so the commitment
to the secret as a constant is that to `x`. -/
theorem commit_ofSeed_secret_root :
    let E := PairingGroups.bn254
    let τ := Scalar.encode (Text.ofBigEndian (Sha256.hash (Text.utf8 (Datum.integer 42).display)))
    let key := (Parameters.ofSeed E (.integer 42) 1).key
    let f := Poly.power 1 - Poly.constant τ
    E.first.Homomorphic .infinity ∧ 1 < (Poly.power 2).degree ∧ f.degree ≤ 1 ∧ f.eval τ = 0 ∧
      (commit E (Poly.power 2) key = .error (.degreeTooLarge (Poly.power 2).degree (.integer 1)) ∧
        (Failure.degreeTooLarge (Poly.power 2).degree (.integer 1)).kind = .value) ∧
      commit E f key = .ok .infinity ∧
      ∃ difference commitment, commit E f key = .ok difference ∧
        commit E (Poly.constant τ) key = .ok commitment ∧
        commit E (Poly.power 1) key = .ok (E.first.add difference commitment) := by
  intro E τ key f
  have hE : E.first.Homomorphic .infinity := PairingGroups.bn254_first_lawful.homomorphic
  have hlarge : 1 < (Poly.power 2).degree := by
    rw [Poly.degree_power]
    exact one_lt_two
  have hpower : (Poly.power 1).degree ≤ 1 := (Poly.degree_power 1).le
  have hconstant : (Poly.constant τ).degree ≤ 1 :=
    (Poly.degree_ofCoeffs_lt (n := 1) le_rfl one_pos).le
  have hf : f.degree ≤ 1 := (Poly.degree_sub_le _ _).trans (max_le hpower hconstant)
  have hroot : f.eval τ = 0 := by
    have hx : (Poly.power 1).eval τ = τ := by
      change (0 * τ + 1) * τ + 0 = τ
      ring
    have hc : (Poly.constant τ).eval τ = τ := by
      rw [Poly.constant, Poly.eval_ofCoeffs, Poly.horner_cons, Poly.horner_nil, zero_mul, zero_add]
    rw [Poly.eval_sub, hx, hc, sub_self]
  obtain ⟨hrefused, hcommit, hsub⟩ := commit_ofSeed hE (.integer 42) 1
  exact ⟨hE, hlarge, hf, hroot, hrefused _ hlarge, (hcommit f hf).2 hroot,
    hsub (Poly.power 1) (Poly.constant τ) hpower hconstant⟩

end Kzg

end LiabilityProof
