import LiabilityProof.Proofs.Polynomial.Evaluation

/-!
# Division by `x - z`

Of a polynomial `f` and a point `z` there is one polynomial `q` with `f = q·(x - z) + r` for a
constant `r`, and the constant is the value of `f` at `z`. Synthetic division finds this `q`, and
drops the remainder: so it makes no difference which constant is subtracted from `f` first
(`quotient_eq_iff`).
-/

namespace LiabilityProof

open Polynomial
open scoped Residue

namespace Poly

@[simp]
theorem toPolynomial_zero : (0 : Poly).toPolynomial = 0 :=
  (toPolynomial_constant 0).trans C_0

/-- The division identity determines the quotient and the remainder. -/
theorem eq_quotient_and_eq_eval {f q : Poly} {z r : Scalar}
    (h : f.toPolynomial = q.toPolynomial * (X - C z) + C r) : q = f.quotient z ∧ r = f.eval z := by
  constructor
  · apply toPolynomial_injective
    rw [toPolynomial_quotient]
    refine (divByMonic_X_sub_C_eq (r := r) ?_).symm
    rw [h, mul_comm, add_comm]
  · rw [← eval_toPolynomial, h, eval_add, eval_mul, Polynomial.eval_sub, eval_X, eval_C, sub_self,
      mul_zero, zero_add, eval_C]

/-- A polynomial of degree zero has nothing but a remainder. -/
theorem quotient_of_degree_eq_zero {f : Poly} (h : f.degree = 0) (z : Scalar) :
    f.quotient z = 0 := by
  have hconstant : f.toPolynomial = C (f.toPolynomial.coeff 0) :=
    eq_C_of_natDegree_eq_zero (f.natDegree_toPolynomial.trans h)
  have hidentity : f.toPolynomial =
      (0 : Poly).toPolynomial * (X - C z) + C (f.toPolynomial.coeff 0) := by
    rw [toPolynomial_zero, zero_mul, zero_add]
    exact hconstant
  exact (eq_quotient_and_eq_eval hidentity).1.symm

end Poly

namespace Wire

open Transform (coefficientDatum coefficientClass)

/-- A number counts as the constant of its class. -/
theorem operand?_coefficientDatum (c : Int ⊕ Scalar) :
    operand? (coefficientDatum c) = .ok (some (Poly.constant (coefficientClass c))) := by
  rcases c with n | a
  · rfl
  · rfl

theorem subtract_coefficientDatum (f : Poly) (c : Int ⊕ Scalar) :
    subtract f (coefficientDatum c) = .ok (f - Poly.constant (coefficientClass c)) := by
  rw [subtract, operand?_coefficientDatum]
  rfl

end Wire

namespace Poly

/-- Synthetic division by `x - z` finds the only polynomial `q` with `f = q·(x - z) + r`, and the
remainder `r` is the value of `f` at `z`. The quotient has one degree less than `f`, or is zero
where `f` is constant, and stays the same when a constant is subtracted from `f`. -/
theorem quotient_eq_iff (f : Poly) (z : Scalar) :
    f.toPolynomial = (f.quotient z).toPolynomial * (X - C z) + C (f.eval z) ∧
      (if 1 ≤ f.degree then (f.quotient z).degree = f.degree - 1 else f.quotient z = 0) ∧
      (∀ (q : Poly) (r : Scalar), f.toPolynomial = q.toPolynomial * (X - C z) + C r ↔
        q = f.quotient z ∧ r = f.eval z) ∧
      ∀ c : Int ⊕ Scalar, ∃ g, Wire.subtract f (Transform.coefficientDatum c) = .ok g ∧
        g.quotient z = f.quotient z := by
  have hidentity : f.toPolynomial =
      (f.quotient z).toPolynomial * (X - C z) + C (f.eval z) := by
    rw [mul_comm, add_comm]
    exact (toPolynomial_eq_quotient f z).symm
  refine ⟨hidentity, ?_, fun q r => ⟨eq_quotient_and_eq_eval, ?_⟩, fun c => ?_⟩
  · split
    next => exact degree_quotient f z
    next hdegree => exact quotient_of_degree_eq_zero (by omega) z
  · rintro ⟨rfl, rfl⟩
    exact hidentity
  · exact ⟨_, Wire.subtract_coefficientDatum f c, quotient_sub_constant f z _⟩

end Poly

end LiabilityProof
