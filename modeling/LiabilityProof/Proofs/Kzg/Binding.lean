import LiabilityProof.Proofs.Kzg.Setup

/-!
# What openings are bound to

The verifier compares `c - y` with `p·(τ - z)`, whoever made the commitment `c·G₁` and the opening
`p·G₁`. Two openings of one commitment that are accepted at one point for different values differ
by the multiple `(y' - y) / (τ - z)` of the generator, so that whoever has both can compute
`1 / (τ - z)·G₁` (`verify_conflict`). At the secret itself there are no such openings.

An opening that was made for one row of a domain is accepted at another row for one value, that of
the line through the row whose slope is the quotient's value at the secret. It is the row's own
value only if the opening is the point at infinity (`openAt_bound_to_row`).
-/

namespace LiabilityProof

open Polynomial
open scoped Residue

namespace Kzg

variable {E : PairingGroups}

/-! ### Conflicting openings -/

/-- Two accepted openings of one commitment at one point, for different values, give away the
quotient of the generator by the distance of the secret from the point. -/
theorem verify_conflict (hE : E.Lawful) {params : Parameters} {τ z y y' : Scalar}
    (hpowers : params.powers2 = [E.second.generator, E.second.mul τ E.second.generator])
    {commitment opening opening' : G1Point} (hcommitment : ∃ c, commitment = E.first.multiple c)
    (hopening : ∃ p, opening = E.first.multiple p)
    (hopening' : ∃ p, opening' = E.first.multiple p) (hne : y ≠ y')
    (h : verify E commitment opening z y params.powers2 = .ok true)
    (h' : verify E commitment opening' z y' params.powers2 = .ok true) :
    τ ≠ z ∧ E.first.mul (1 / (y' - y)) (E.first.add opening (E.first.neg opening')) =
      E.first.mul (1 / (τ - z)) E.first.generator := by
  obtain ⟨c, rfl⟩ := hcommitment
  obtain ⟨p, rfl⟩ := hopening
  obtain ⟨p', rfl⟩ := hopening'
  have heq : c - y = p * (τ - z) := by
    rw [hpowers] at h
    exact of_decide_eq_true (Except.ok.inj ((verify_multiple hE c p z y).symm.trans h))
  have heq' : c - y' = p' * (τ - z) := by
    rw [hpowers] at h'
    exact of_decide_eq_true (Except.ok.inj ((verify_multiple hE c p' z y').symm.trans h'))
  have hdiff : y' - y = (p - p') * (τ - z) := by linear_combination heq - heq'
  have hy : y' - y ≠ 0 := sub_ne_zero.mpr (Ne.symm hne)
  have hτ : τ - z ≠ 0 := by
    intro hzero
    rw [hzero, mul_zero] at hdiff
    exact hy hdiff
  have hscalar : 1 / (y' - y) * (p - p') = 1 / (τ - z) := by
    rw [div_mul_eq_mul_div, one_mul, div_eq_div_iff hy hτ, one_mul, ← hdiff]
  refine ⟨sub_ne_zero.mp hτ, ?_⟩
  rw [hE.first.sub_multiple, hE.first.mul_multiple, hscalar]
  rfl

/-- The commitment `2·G₁` under the secret 3, opened at 1 to the value 0, and to the value 2 by the
point at infinity. -/
theorem verify_conflict_at_infinity :
    let E := PairingGroups.bn254Logarithms
    let τ := Scalar.encode 3
    let params := Parameters.generate E τ 1
    verify E (E.first.multiple (Scalar.encode 2)) (E.first.multiple 1) 1 0 params.powers2 =
        .ok true ∧
      verify E (E.first.multiple (Scalar.encode 2)) (E.first.multiple 0) 1 (Scalar.encode 2)
        params.powers2 = .ok true ∧
      τ ≠ 1 ∧ E.first.mul (1 / (Scalar.encode 2 - 0))
        (E.first.add (E.first.multiple 1) (E.first.neg (E.first.multiple 0))) =
          E.first.mul (1 / (τ - 1)) E.first.generator := by
  intro E τ params
  have hE : E.Lawful := PairingGroups.bn254Logarithms_lawful
  have h : verify E (E.first.multiple (Scalar.encode 2)) (E.first.multiple 1) 1 0
      params.powers2 = .ok true :=
    (verify_multiple hE _ _ _ _).trans (congrArg Except.ok (decide_eq_true (by decide +kernel)))
  have h' : verify E (E.first.multiple (Scalar.encode 2)) (E.first.multiple 0) 1 (Scalar.encode 2)
      params.powers2 = .ok true :=
    (verify_multiple hE _ _ _ _).trans (congrArg Except.ok (decide_eq_true (by decide +kernel)))
  have hne : (0 : Scalar) ≠ Scalar.encode 2 := by decide +kernel
  exact ⟨h, h', verify_conflict hE rfl ⟨_, rfl⟩ ⟨_, rfl⟩ ⟨_, rfl⟩ hne h h'⟩

/-! ### Openings of other rows -/

/-- What the opening of one row of a domain shows at another row: that row's value if and only if
it is the point at infinity, and in general the value on a line. -/
def BoundToRow (E : PairingGroups) (τ : Scalar) (params : Parameters) (f : Poly)
    (z z' : Scalar) : Prop :=
  ∃ commitment opening, commit E f params.key = .ok commitment ∧
    openAt E f z (f.eval z) params.key = .ok opening ∧
    verify E commitment opening z' (f.eval z) params.powers2 =
      .ok (decide (opening = .infinity)) ∧
    ∀ y, verify E commitment opening z' y params.powers2 =
      .ok (decide (y = f.eval z + ((f.toPolynomial - C (f.eval z)) /ₘ (X - C z)).eval τ * (z' - z)))

/-- At another point an opening shows the value of its own point only if it is trivial. -/
theorem boundToRow_of_ne (hE : E.Lawful) (τ : Scalar) {d : Nat} {f : Poly} (hf : f.degree ≤ d)
    {z z' : Scalar} (hne : z ≠ z') : BoundToRow E τ (Parameters.generate E τ d) f z z' := by
  refine ⟨E.first.multiple (f.eval τ), E.first.multiple ((f.quotient z).eval τ),
    commit_ofSecret hE hf, openAt_ofSecret hE hf z _, ?_, fun y => ?_⟩
  · have hiff : f.eval z = f.eval z + (f.quotient z).eval τ * (z' - z) ↔
        E.first.multiple ((f.quotient z).eval τ) = .infinity := by
      rw [← hE.first.multiple_zero, hE.first.multiple_injective.eq_iff, left_eq_add, mul_eq_zero,
        or_iff_left (sub_ne_zero.mpr hne.symm)]
    exact (verify_quotient_at hE f z z' _).trans
      (congrArg Except.ok (decide_eq_decide.mpr hiff))
  · rw [Poly.toPolynomial_sub_divByMonic, Poly.eval_toPolynomial]
    exact verify_quotient_at hE f z z' y

/-- The rows of a domain stand at different points, and the opening of a column at one of them is
bound to it. -/
theorem openAt_bound_to_row (hE : E.Lawful) (τ : Scalar) {k : Nat} (hk : k ≤ 28) {d : Int}
    (hd : ((2 ^ k : Nat) : Int) - 1 ≤ d) :
    ∃ domain, Domain.ofDatum (.integer k) = .ok domain ∧ domain.size = 2 ^ k ∧
      ∀ f : Poly, f.degree < 2 ^ k → ∀ i < 2 ^ k, ∀ j < 2 ^ k, i ≠ j →
        domain.point i ≠ domain.point j ∧
          BoundToRow E τ (Parameters.generate E τ d) f (domain.point i) (domain.point j) := by
  have hpos : 0 < 2 ^ k := Nat.two_pow_pos k
  obtain ⟨d, rfl⟩ := Int.eq_ofNat_of_zero_le (by omega : 0 ≤ d)
  refine ⟨⟨k, Scalar.twoPowerRoot k⟩, Domain.ofDatum_eq_ok_iff.mpr ⟨k, hk, rfl, rfl⟩, rfl, ?_⟩
  intro f hf i hi j hj hij
  have hpoints : Scalar.twoPowerRoot k ^ i ≠ Scalar.twoPowerRoot k ^ j := fun h =>
    hij ((Scalar.halfTurn_twoPowerRoot hk).pow_inj hi hj h)
  exact ⟨hpoints, boundToRow_of_ne hE τ (by omega) hpoints⟩

/-- The smallest domain with two rows, with the least parameters for it and the row `-1` for the
secret. -/
theorem openAt_bound_to_row_two :
    ∃ domain, Domain.ofDatum (.integer (1 : Nat)) = .ok domain ∧ domain.size = 2 ^ 1 ∧
      ∀ f : Poly, f.degree < 2 ^ 1 → ∀ i < 2 ^ 1, ∀ j < 2 ^ 1, i ≠ j →
        domain.point i ≠ domain.point j ∧
          BoundToRow .bn254Logarithms (-1) (Parameters.generate .bn254Logarithms (-1) 1) f
            (domain.point i) (domain.point j) :=
  openAt_bound_to_row PairingGroups.bn254Logarithms_lawful (-1) (by decide : 1 ≤ 28) le_rfl

end Kzg

end LiabilityProof
