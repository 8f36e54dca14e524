import Mathlib.Algebra.Polynomial.Div
import Mathlib.Data.List.GetD
import Mathlib.Tactic.Ring
import LiabilityProof.Polynomial.Basic
import LiabilityProof.Proofs.Field.Primality

/-!
# Coefficient lists as polynomials

`Poly.toPolynomial` reads the coefficients of a `Poly` as a polynomial over the field of
scalars. It is injective, because coefficient lists are in canonical form, and it takes the
operations to those of the ring of polynomials:

* Horner's rule is evaluation, and the degree is `natDegree`.
* Synthetic division is division by the monic polynomial `X - C z`. The remainder `f(z)` drops
  out, so a quotient does not change when a constant is subtracted first
  (`quotient_sub_constant`), and `f(x) = q(x)·(x - z) + f(z)` at every point (`eval_eq_quotient`).
-/

namespace LiabilityProof

open Polynomial
open scoped Residue

namespace Poly

/-! ### Coefficient lists -/

/-- The polynomial with the given coefficients, lowest first. -/
noncomputable def ofList : List Scalar → Scalar[X]
  | [] => 0
  | c :: cs => C c + X * ofList cs

@[simp]
theorem ofList_nil : ofList [] = 0 := rfl

@[simp]
theorem ofList_cons (c : Scalar) (cs : List Scalar) : ofList (c :: cs) = C c + X * ofList cs :=
  rfl

@[simp]
theorem horner_nil (x : Scalar) : horner x [] = 0 := rfl

@[simp]
theorem horner_cons (x c : Scalar) (cs : List Scalar) :
    horner x (c :: cs) = horner x cs * x + c := rfl

theorem eval_ofList (x : Scalar) (cs : List Scalar) : (ofList cs).eval x = horner x cs := by
  induction cs with
  | nil => simp
  | cons c cs ih =>
    rw [ofList_cons, horner_cons, eval_add, eval_C, eval_mul, eval_X, ih]
    ring

theorem coeff_ofList (cs : List Scalar) (i : Nat) : (ofList cs).coeff i = cs.getD i 0 := by
  induction cs generalizing i with
  | nil => simp
  | cons c cs ih =>
    cases i with
    | zero => simp
    | succ i => simp [ih]

theorem ofList_trimZeros (cs : List Scalar) : ofList (trimZeros cs) = ofList cs := by
  induction cs with
  | nil => rfl
  | cons c cs ih =>
    unfold trimZeros
    split
    next h =>
      rw [h, ofList_nil] at ih
      split
      next hc => simp [hc, ← ih]
      next => simp [← ih]
    next t h => rw [ofList_cons, ofList_cons, ih]

theorem length_trimZeros_le (cs : List Scalar) : (trimZeros cs).length ≤ cs.length := by
  induction cs with
  | nil => exact le_rfl
  | cons c cs ih =>
    unfold trimZeros
    split
    next => split <;> simp
    next => simpa using ih

theorem ofList_map_zero_sub (bs : List Scalar) : ofList (bs.map (0 - ·)) = -ofList bs := by
  induction bs with
  | nil => simp
  | cons b bs ih =>
    rw [List.map_cons, ofList_cons, ofList_cons, ih, C_sub, C_0]
    ring

theorem ofList_subCoeffs (as bs : List Scalar) :
    ofList (subCoeffs as bs) = ofList as - ofList bs := by
  induction as generalizing bs with
  | nil => rw [subCoeffs, ofList_map_zero_sub, ofList_nil, zero_sub]
  | cons a as ih =>
    cases bs with
    | nil => rw [subCoeffs, ofList_nil, sub_zero]; simp
    | cons b bs =>
      rw [subCoeffs, ofList_cons, ofList_cons, ofList_cons, ih, C_sub]
      ring

/-- Division by `X - C z`: the value at `z` is the remainder, and the list of partial values is
the quotient. -/
theorem ofList_divide (z : Scalar) (cs : List Scalar) :
    C (divide z cs).1 + (X - C z) * ofList (divide z cs).2 = ofList cs := by
  induction cs with
  | nil => simp [divide]
  | cons c cs ih =>
    rw [divide, ofList_cons, ofList_cons, ← ih, C_add, C_mul]
    ring

/-! ### Polynomials in canonical form -/

/-- The polynomial of a coefficient list in canonical form. -/
noncomputable def toPolynomial (f : Poly) : Scalar[X] := ofList f.coeffs

theorem eval_toPolynomial (f : Poly) (x : Scalar) : f.toPolynomial.eval x = f.eval x :=
  eval_ofList x f.coeffs

theorem toPolynomial_ofCoeffs (cs : List Scalar) :
    (ofCoeffs cs).toPolynomial = ofList cs := by
  rw [toPolynomial, ofCoeffs]
  split
  next h => rw [← ofList_trimZeros cs, h]; simp
  next => exact ofList_trimZeros cs

theorem eval_ofCoeffs (cs : List Scalar) (x : Scalar) : (ofCoeffs cs).eval x = horner x cs := by
  rw [← eval_toPolynomial, toPolynomial_ofCoeffs, eval_ofList]

@[simp]
theorem toPolynomial_constant (c : Scalar) : (constant c).toPolynomial = C c := by
  rw [constant, toPolynomial_ofCoeffs]
  simp

@[simp]
theorem toPolynomial_sub (f g : Poly) :
    (f - g).toPolynomial = f.toPolynomial - g.toPolynomial :=
  (toPolynomial_ofCoeffs _).trans (ofList_subCoeffs f.coeffs g.coeffs)

theorem length_coeffs (f : Poly) : f.coeffs.length = f.degree + 1 := by
  have := List.length_pos_iff.mpr f.coeffs_ne_nil
  rw [degree]
  omega

theorem degree_ofCoeffs_lt {cs : List Scalar} {n : Nat} (hcs : cs.length ≤ n) (hn : 0 < n) :
    (ofCoeffs cs).degree < n := by
  have hlength := length_trimZeros_le cs
  rw [degree, ofCoeffs]
  split
  next => simpa using hn
  next h =>
    have := List.length_pos_iff.mpr h
    change (trimZeros cs).length - 1 < n
    omega

/-- The leading coefficient vanishes in the zero polynomial only. -/
theorem coeff_degree_ne_zero {f : Poly} (h : 0 < f.degree) :
    f.toPolynomial.coeff f.degree ≠ 0 := by
  intro hzero
  have hlast : f.coeffs.getLast? = some 0 := by
    rw [List.getLast?_eq_getElem?, ← hzero, toPolynomial, coeff_ofList, List.getD_eq_getElem?_getD,
      length_coeffs, Nat.add_sub_cancel, List.getElem?_eq_getElem (by rw [length_coeffs]; omega),
      Option.getD_some]
  have hlength := f.length_coeffs
  rw [f.eq_zero_of_getLast? hlast, List.length_singleton] at hlength
  omega

theorem natDegree_toPolynomial (f : Poly) : f.toPolynomial.natDegree = f.degree := by
  apply le_antisymm
  · refine natDegree_le_iff_coeff_eq_zero.mpr fun i hi => ?_
    rw [toPolynomial, coeff_ofList, List.getD_eq_default _ _ (by rw [length_coeffs]; omega)]
  · rcases Nat.eq_zero_or_pos f.degree with h | h
    · omega
    · exact le_natDegree_of_ne_zero (coeff_degree_ne_zero h)

/-- A polynomial has one coefficient list in canonical form. -/
theorem toPolynomial_injective : Function.Injective toPolynomial := by
  intro f g h
  have hdegree : f.degree = g.degree := by
    rw [← natDegree_toPolynomial, ← natDegree_toPolynomial, h]
  have hcoeffs : f.coeffs = g.coeffs := by
    apply List.ext_getElem (by rw [length_coeffs, length_coeffs, hdegree])
    intro i hf hg
    have hi := congrArg (fun p => p.coeff i) h
    simp only [toPolynomial, coeff_ofList] at hi
    rwa [List.getD_eq_getElem _ _ hf, List.getD_eq_getElem _ _ hg] at hi
  cases f
  cases g
  simp_all

/-! ### Synthetic division -/

theorem fst_divide (z : Scalar) (cs : List Scalar) : (divide z cs).1 = horner z cs := by
  induction cs with
  | nil => rfl
  | cons c cs ih => rw [divide, horner_cons, ← ih, add_comm]

/-- A quotient by `X - C z` is known by its remainder being constant. -/
theorem divByMonic_X_sub_C_eq {p q : Scalar[X]} {z r : Scalar}
    (h : C r + (X - C z) * q = p) : p /ₘ (X - C z) = q := by
  have hdegree : (C r).degree < (X - C z).degree := by
    rw [degree_X_sub_C]
    exact degree_C_lt
  exact (div_modByMonic_unique q (C r) (monic_X_sub_C z) ⟨h, hdegree⟩).1

/-- Dividing synthetically is dividing by `X - C z`. -/
theorem toPolynomial_quotient (f : Poly) (z : Scalar) :
    (f.quotient z).toPolynomial = f.toPolynomial /ₘ (X - C z) := by
  rw [quotient, toPolynomial_ofCoeffs]
  exact (divByMonic_X_sub_C_eq (ofList_divide z f.coeffs)).symm

/-- The division identity: the remainder is the value at `z`. -/
theorem toPolynomial_eq_quotient (f : Poly) (z : Scalar) :
    C (f.eval z) + (X - C z) * (f.quotient z).toPolynomial = f.toPolynomial := by
  rw [quotient, toPolynomial_ofCoeffs, eval, ← fst_divide]
  exact ofList_divide z f.coeffs

/-- Taking the value at `z` away leaves the quotient as it is, and the division exact. -/
theorem toPolynomial_sub_divByMonic (f : Poly) (z : Scalar) :
    (f.toPolynomial - C (f.eval z)) /ₘ (X - C z) = (f.quotient z).toPolynomial := by
  refine divByMonic_X_sub_C_eq (r := 0) ?_
  rw [← toPolynomial_eq_quotient f z, C_0, zero_add, add_sub_cancel_left]

/-- The division identity at a point. -/
theorem eval_eq_quotient (f : Poly) (z x : Scalar) :
    f.eval x = (f.quotient z).eval x * (x - z) + f.eval z := by
  have h := congrArg (Polynomial.eval x) (toPolynomial_eq_quotient f z)
  rw [eval_add, eval_C, eval_mul, eval_sub, eval_X, eval_C, eval_toPolynomial,
    eval_toPolynomial] at h
  rw [← h]
  ring

/-- A constant goes into the remainder, which is dropped. -/
@[simp]
theorem quotient_sub_constant (f : Poly) (z c : Scalar) :
    (f - constant c).quotient z = f.quotient z := by
  apply toPolynomial_injective
  rw [toPolynomial_quotient, toPolynomial_sub, toPolynomial_constant]
  apply divByMonic_X_sub_C_eq (r := f.eval z - c)
  rw [← toPolynomial_eq_quotient f z, C_sub]
  ring

theorem degree_quotient (f : Poly) (z : Scalar) : (f.quotient z).degree = f.degree - 1 := by
  rw [← natDegree_toPolynomial, ← natDegree_toPolynomial, toPolynomial_quotient,
    natDegree_divByMonic _ (monic_X_sub_C z), natDegree_X_sub_C]

/-! ### Differences -/

theorem eval_sub (f g : Poly) (x : Scalar) : (f - g).eval x = f.eval x - g.eval x := by
  rw [← eval_toPolynomial, toPolynomial_sub, Polynomial.eval_sub, eval_toPolynomial,
    eval_toPolynomial]

theorem degree_sub_le (f g : Poly) : (f - g).degree ≤ max f.degree g.degree := by
  rw [← natDegree_toPolynomial, ← natDegree_toPolynomial f, ← natDegree_toPolynomial g,
    toPolynomial_sub]
  exact Polynomial.natDegree_sub_le _ _

end Poly

end LiabilityProof
