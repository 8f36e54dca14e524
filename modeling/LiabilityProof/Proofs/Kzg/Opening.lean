import LiabilityProof.Kzg.Commitment
import LiabilityProof.Proofs.Curve.Groups
import LiabilityProof.Proofs.Polynomial.Algebra

/-!
# Commitments and openings under honest parameters

With parameters made from a secret `τ`, the commitment to `f` is the multiple `f(τ)·G₁` of the
generator, and the opening at `z` is `q(τ)·G₁` for the quotient `q` of `f` by `x - z`: the
claimed value drops out with the remainder. The verifier compares `c - y` with `π·(τ - z)`, and
by the division identity `f(τ) - y = q(τ)·(τ - z) + (f(z) - y)`. So the opening is accepted for
the value `f(z)` and for no other, whatever the secret is (`verify_openAt_commit`).
-/

namespace LiabilityProof

open scoped Residue

namespace CommitmentKey

/-- The key for a secret and a largest degree. -/
def ofSecret (E : PairingGroups) (τ : Scalar) (d : Nat) : CommitmentKey where
  powers := (Parameters.powersFrom τ (d + 1) 1).map E.first.multiple
  maxDegree := .integer d

end CommitmentKey

namespace Parameters

@[simp]
theorem length_powersFrom (τ : Scalar) (n : Nat) (w : Scalar) :
    (powersFrom τ n w).length = n := by
  induction n generalizing w with
  | zero => rfl
  | succ n ih => rw [powersFrom, List.length_cons, ih]

end Parameters

namespace Kzg

variable {E : PairingGroups} {τ : Scalar} {d : Nat}

/-- The sum that is combined is a value of Horner's rule: the powers still to come start at `w`,
and `s` is what has been summed up so far. -/
theorem combine_powersFrom (hE : E.first.Homomorphic .infinity) (cs : List Scalar) {n : Nat}
    (hn : cs.length ≤ n) (w s : Scalar) :
    combine E cs ((Parameters.powersFrom τ n w).map E.first.multiple) (E.first.multiple s) =
      .ok (E.first.multiple (s + w * Poly.horner τ cs)) := by
  induction cs generalizing n w s with
  | nil => rw [combine, Poly.horner_nil, mul_zero, add_zero]
  | cons c cs ih =>
    obtain ⟨n, rfl⟩ : ∃ m, n = m + 1 := ⟨n - 1, by simp at hn; omega⟩
    -- a vanishing coefficient is passed over, which adds the zero that it stands for
    have hterm : (if c = 0 then E.first.multiple s
        else E.first.add (E.first.multiple s) (E.first.mul c (E.first.multiple w))) =
        E.first.multiple (s + c * w) := by
      split
      next hc => rw [hc, zero_mul, add_zero]
      next => rw [hE.mul_multiple, hE.add_multiple]
    rw [Parameters.powersFrom, List.map_cons, combine, hterm, ih (by simpa using hn),
      Poly.horner_cons]
    congr 2
    ring

/-- A key with a whole degree commits to the polynomials up to that degree. -/
theorem commit_of_maxDegree {f : Poly} {key : CommitmentKey} {n : Int}
    (hkey : key.maxDegree = .integer n) (hf : (f.degree : Int) ≤ n) :
    commit E f key = combine E f.coeffs key.powers .infinity := by
  have hcompare : key.maxDegree.compareInteger? f.degree = some (some (compare n f.degree)) := by
    rw [hkey]
    rfl
  rw [commit, hcompare]
  rcases hf.lt_or_eq with hlt | heq
  · rw [compare_gt_iff_gt.mpr hlt]
  · rw [compare_eq_iff_eq.mpr heq.symm]

/-- A commitment is the multiple of the generator by the value at the secret. -/
theorem commit_ofSecret_of_homomorphic (hE : E.first.Homomorphic .infinity) {f : Poly}
    (hf : f.degree ≤ d) :
    commit E f (.ofSecret E τ d) = .ok (E.first.multiple (f.eval τ)) := by
  rw [commit_of_maxDegree rfl (by exact_mod_cast hf), ← hE.multiple_zero,
    CommitmentKey.ofSecret,
    combine_powersFrom hE f.coeffs (by rw [Poly.length_coeffs]; omega), zero_add, one_mul,
    Poly.eval]

theorem commit_ofSecret (hE : E.Lawful) {f : Poly} (hf : f.degree ≤ d) :
    commit E f (.ofSecret E τ d) = .ok (E.first.multiple (f.eval τ)) :=
  commit_ofSecret_of_homomorphic hE.first.homomorphic hf

/-- An opening is the multiple of the generator by the value of the quotient at the secret; the
claimed value does not occur in it. -/
theorem openAt_ofSecret (hE : E.Lawful) {f : Poly} (hf : f.degree ≤ d) (z y : Scalar) :
    openAt E f z y (.ofSecret E τ d) = .ok (E.first.multiple ((f.quotient z).eval τ)) := by
  have hq : (f.quotient z).degree ≤ d := by
    rw [Poly.degree_quotient]
    omega
  rw [openAt, Poly.quotient_sub_constant, commit_ofSecret hE hq]

/-- The verifier compares scalars: the commitment less the claimed value, and the opening times
the distance of the secret from the point. -/
theorem verify_multiple (hE : E.Lawful) (c p z y : Scalar) :
    verify E (E.first.multiple c) (E.first.multiple p) z y
        [E.second.generator, E.second.multiple τ] =
      .ok (decide (c - y = p * (τ - z))) := by
  have hshifted : E.second.add (E.second.multiple τ)
      (E.second.neg (E.second.mul z E.second.generator)) = E.second.multiple (τ - z) :=
    hE.second.sub_multiple τ z
  have hreduced : E.first.add (E.first.multiple c)
      (E.first.neg (E.first.mul y E.first.generator)) = E.first.multiple (c - y) :=
    hE.first.sub_multiple c y
  obtain ⟨u, u', hu, hu', hiff⟩ := hE.exists_pair (c - y) 1 p (τ - z)
  -- the left side is paired with the second generator itself, its multiple by one
  rw [hE.second.multiple_one] at hu
  rw [mul_one] at hiff
  simp only [verify, hshifted, hreduced, hu, hu']
  exact congrArg Except.ok (decide_eq_decide.mpr hiff)

/-- The opening of a polynomial at one point is accepted at another for the value on the line
through the first whose slope is the value of the quotient at the secret. -/
theorem verify_quotient_at (hE : E.Lawful) (f : Poly) (z z' y : Scalar) :
    verify E (E.first.multiple (f.eval τ)) (E.first.multiple ((f.quotient z).eval τ)) z' y
        [E.second.generator, E.second.multiple τ] =
      .ok (decide (y = f.eval z + (f.quotient z).eval τ * (z' - z))) := by
  have hiff : f.eval τ - y = (f.quotient z).eval τ * (τ - z') ↔
      y = f.eval z + (f.quotient z).eval τ * (z' - z) := by
    rw [f.eval_eq_quotient z τ]
    constructor
    · intro h
      linear_combination -h
    · intro h
      linear_combination -h
  rw [verify_multiple hE]
  exact congrArg Except.ok (decide_eq_decide.mpr hiff)

/-- The opening of a polynomial shows its value and no other. -/
theorem verify_quotient (hE : E.Lawful) (f : Poly) (z y : Scalar) :
    verify E (E.first.multiple (f.eval τ)) (E.first.multiple ((f.quotient z).eval τ)) z y
        [E.second.generator, E.second.multiple τ] =
      .ok (decide (y = f.eval z)) := by
  rw [verify_quotient_at hE, sub_self, mul_zero, add_zero]

/-- The opening of a commitment shows the value of the polynomial and no other, and it is the
same for every value that it was asked to show. -/
theorem verify_openAt_commit (hE : E.Lawful) (τ : Scalar) {d : Int} {f : Poly}
    (hf : (f.degree : Int) ≤ d) (z : Scalar) :
    ∃ commitment opening,
      commit E f (Parameters.generate E τ d).key = .ok commitment ∧
      (∀ y', openAt E f z y' (Parameters.generate E τ d).key = .ok opening) ∧
      ∀ y, verify E commitment opening z y (Parameters.generate E τ d).powers2 =
        .ok (decide (y = f.eval z)) := by
  obtain ⟨d, rfl⟩ := Int.eq_ofNat_of_zero_le (by omega : 0 ≤ d)
  have hf : f.degree ≤ d := by exact_mod_cast hf
  exact ⟨E.first.multiple (f.eval τ), E.first.multiple ((f.quotient z).eval τ),
    commit_ofSecret hE hf, fun y' => openAt_ofSecret hE hf z y', fun y => verify_quotient hE f z y⟩

/-- A polynomial of the largest degree, opened at the secret itself. -/
theorem verify_openAt_commit_at_secret :
    let E := PairingGroups.bn254Logarithms
    let τ := Scalar.encode 3
    let f := Poly.ofCoeffs [Scalar.encode 1, 0, Scalar.encode 2]
    ∃ commitment opening,
      commit E f (Parameters.generate E τ 2).key = .ok commitment ∧
      (∀ y', openAt E f τ y' (Parameters.generate E τ 2).key = .ok opening) ∧
      ∀ y, verify E commitment opening τ y (Parameters.generate E τ 2).powers2 =
        .ok (decide (y = f.eval τ)) :=
  verify_openAt_commit PairingGroups.bn254Logarithms_lawful _ (by decide +kernel) _

end Kzg

end LiabilityProof
