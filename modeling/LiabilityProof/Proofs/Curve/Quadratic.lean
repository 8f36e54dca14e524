import Mathlib.NumberTheory.LegendreSymbol.QuadraticChar.Basic
import Mathlib.Tactic.LinearCombination
import LiabilityProof.Curve.Extension
import LiabilityProof.Proofs.Field.Primality

/-!
# The quadratic extension is a field

The coordinate modulus is three modulo four, so `-1` is no square of a coordinate and the norm
`a² + b²` of `a + b·i` vanishes at zero only. Hence the conjugate over the norm is the inverse.

The extension has as many elements as there are pairs of coordinates. The instances are scoped:
`open scoped Fq2` makes them available.
-/

namespace LiabilityProof

open scoped Residue

namespace Residue

/-- Residues are the numbers below the modulus. -/
def equivFin (m : Nat) : Residue m ≃ Fin m where
  toFun a := ⟨a.val, a.isLt⟩
  invFun i := ⟨i.val, i.isLt⟩
  left_inv _ := rfl
  right_inv _ := rfl

scoped instance (m : Nat) : Fintype (Residue m) := .ofEquiv (Fin m) (equivFin m).symm

theorem card (m : Nat) : Fintype.card (Residue m) = m :=
  (Fintype.card_congr (equivFin m)).trans (Fintype.card_fin m)

end Residue

namespace Fq2

theorem ext {a b : Fq2} (hre : a.re = b.re) (him : a.im = b.im) : a = b := by
  cases a
  cases b
  cases hre
  cases him
  rfl

/-! ### The ring -/

@[simp] theorem re_zero : (0 : Fq2).re = 0 := rfl

@[simp] theorem im_zero : (0 : Fq2).im = 0 := rfl

@[simp] theorem re_one : (1 : Fq2).re = 1 := rfl

@[simp] theorem im_one : (1 : Fq2).im = 0 := rfl

@[simp] theorem re_add (a b : Fq2) : (a + b).re = a.re + b.re := rfl

@[simp] theorem im_add (a b : Fq2) : (a + b).im = a.im + b.im := rfl

@[simp] theorem re_sub (a b : Fq2) : (a - b).re = a.re - b.re := rfl

@[simp] theorem im_sub (a b : Fq2) : (a - b).im = a.im - b.im := rfl

@[simp] theorem re_neg (a : Fq2) : (-a).re = -a.re := rfl

@[simp] theorem im_neg (a : Fq2) : (-a).im = -a.im := rfl

@[simp]
theorem re_mul (a b : Fq2) : (a * b).re = a.re * b.re - a.im * b.im := by
  have hmodulus : ((coordinateModulus : Nat) : Fq) = 0 :=
    (Residue.natCast_eq_zero_iff _).mpr dvd_rfl
  change (Residue.ofNat _ : Fq) = _
  rw [Residue.ofNat_eq_cast]
  push_cast [Nat.cast_sub a.im.isLt.le]
  rw [hmodulus, Residue.natCast_val, Residue.natCast_val, Residue.natCast_val,
    Residue.natCast_val]
  ring

@[simp]
theorem im_mul (a b : Fq2) : (a * b).im = a.re * b.im + a.im * b.re := by
  change (Residue.ofNat _ : Fq) = _
  rw [Residue.ofNat_eq_cast]
  push_cast
  rw [Residue.natCast_val, Residue.natCast_val, Residue.natCast_val, Residue.natCast_val]

scoped instance commRing : CommRing Fq2 where
  add_assoc a b c := by apply ext <;> simp <;> ring
  zero_add a := by apply ext <;> simp
  add_zero a := by apply ext <;> simp
  add_comm a b := by apply ext <;> simp <;> ring
  neg_add_cancel a := by apply ext <;> simp
  sub_eq_add_neg a b := by apply ext <;> simp <;> ring
  mul_assoc a b c := by apply ext <;> simp <;> ring
  one_mul a := by apply ext <;> simp
  mul_one a := by apply ext <;> simp
  left_distrib a b c := by apply ext <;> simp <;> ring
  right_distrib a b c := by apply ext <;> simp <;> ring
  zero_mul a := by apply ext <;> simp
  mul_zero a := by apply ext <;> simp
  mul_comm a b := by apply ext <;> simp <;> ring
  nsmul := nsmulRec
  zsmul := zsmulRec
  npow := npowRec

/-! ### The field -/

theorem not_isSquare_neg_one : ¬IsSquare (-1 : Fq) := by
  rw [FiniteField.isSquare_neg_one_iff, Residue.card]
  decide

/-- The norm vanishes at zero only. -/
theorem norm_ne_zero {a : Fq2} (ha : a ≠ 0) : a.re * a.re + a.im * a.im ≠ 0 := by
  intro h
  by_cases him : a.im = 0
  · rw [him, mul_zero, add_zero, mul_self_eq_zero] at h
    exact ha (ext h him)
  · -- otherwise the quotient of the parts would be a root of minus one
    refine not_isSquare_neg_one ⟨a.re * a.im⁻¹, ?_⟩
    field_simp
    linear_combination -h

theorem mul_inv_cancel_of_ne_zero {a : Fq2} (ha : a ≠ 0) : a * a⁻¹ = 1 := by
  have hnorm := norm_ne_zero ha
  have hre : a⁻¹.re = (a.re * a.re + a.im * a.im)⁻¹ * a.re := rfl
  have him : a⁻¹.im = (a.re * a.re + a.im * a.im)⁻¹ * -a.im := rfl
  apply ext
  · rw [re_mul, hre, him, re_one, ← mul_inv_cancel₀ hnorm]
    ring
  · rw [im_mul, hre, him, im_one]
    ring

scoped instance field : Field Fq2 :=
  { commRing with
    exists_pair_ne := ⟨0, 1, by decide⟩
    mul_inv_cancel := fun _ ha => mul_inv_cancel_of_ne_zero ha
    inv_zero := ext (mul_zero _) (mul_eq_zero_of_right _ neg_zero)
    nnqsmul := _
    nnqsmul_def := fun _ _ => rfl
    qsmul := _
    qsmul_def := fun _ _ => rfl }

/-- An element is a pair of coordinates. -/
def equivProd : Fq2 ≃ Fq × Fq where
  toFun a := (a.re, a.im)
  invFun c := ⟨c.1, c.2⟩
  left_inv _ := rfl
  right_inv _ := rfl

scoped instance : Fintype Fq2 := .ofEquiv (Fq × Fq) equivProd.symm

theorem card : Fintype.card Fq2 = coordinateModulus ^ 2 := by
  rw [Fintype.card_congr equivProd, Fintype.card_prod, Residue.card, pow_two]

end Fq2

end LiabilityProof
