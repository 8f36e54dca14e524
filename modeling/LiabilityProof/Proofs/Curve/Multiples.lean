import Mathlib.Tactic.FieldSimp
import LiabilityProof.Curve.Jacobian
import LiabilityProof.Proofs.Curve.GroupLaw

/-!
# Multiples without divisions

A triple of scaled coordinates represents a point when its denominator does not vanish and the
point has the quotients for coordinates (`Jacobian.Represents`). Doubling and adding triples
doubles and adds the points they represent, so that halving the factor and doubling the point
gives the multiple in the group of the curve (`Point.nsmul_ofCurve`).
-/

namespace LiabilityProof

variable {F : Type} [Field F] [DecidableEq F]

local instance (priority := low) : CoordinateField F := .ofField F

theorem Point.add_self (P : Point F) : P.add P = P.double := by
  cases P with
  | infinity => rfl
  | affine x y => rw [Point.add, if_pos rfl, if_pos rfl]

namespace Jacobian

/-- A triple represents a point. -/
inductive Represents : Jacobian F → Point F → Prop
  | infinity : Represents .infinity .infinity
  | finite {x y z : F} (hz : z ≠ 0) :
      Represents (.finite (x * z ^ 2) (y * z ^ 3) z) (.affine x y)

theorem represents_ofPoint (P : Point F) : Represents (ofPoint P) P := by
  cases P with
  | infinity => exact .infinity
  | affine x y =>
    have h := Represents.finite (x := x) (y := y) (one_ne_zero : (1 : F) ≠ 0)
    rwa [one_pow, one_pow, mul_one, mul_one] at h

theorem Represents.toPoint_eq {J : Jacobian F} {P : Point F} (h : Represents J P) :
    J.toPoint = P := by
  cases h with
  | infinity => rfl
  | @finite x y z hz =>
    change Point.affine (x * z ^ 2 * (z⁻¹ * z⁻¹)) (y * z ^ 3 * (z⁻¹ * z⁻¹ * z⁻¹)) = _
    congr 1 <;> field_simp

/-- A triple represents a point once its coordinates are the quotients. -/
theorem Represents.of_eq {x y z x' y' : F} (hz : z ≠ 0) (hx : x = x' * z ^ 2)
    (hy : y = y' * z ^ 3) : Represents (.finite x y z) (.affine x' y') := by
  rw [hx, hy]
  exact .finite hz

/-- Doubling a triple doubles the point. -/
theorem Represents.double (h2 : (2 : F) ≠ 0) {J : Jacobian F} {P : Point F}
    (h : Represents J P) : Represents J.double P.double := by
  cases h with
  | infinity => exact .infinity
  | @finite x y z hz =>
    rw [Jacobian.double]
    split
    next hy0 =>
      -- the slope of the point has the inverse of zero for a factor, which is zero
      obtain rfl : y = 0 := (mul_eq_zero.mp hy0).resolve_right (pow_ne_zero 3 hz)
      refine .of_eq hz ?_ ?_ <;> rw [add_zero, inv_zero, mul_zero] <;> ring
    next hy0 =>
      have hy : y ≠ 0 := left_ne_zero_of_mul hy0
      refine .of_eq ?_ ?_ ?_
      · rw [← two_mul]
        exact mul_ne_zero h2 (mul_ne_zero hy0 hz)
      · rw [← two_mul y]
        field_simp
        ring
      · rw [← two_mul y]
        field_simp
        ring

/-- Adding triples adds the points. -/
theorem Represents.add (h2 : (2 : F) ≠ 0) {J K : Jacobian F} {P Q : Point F}
    (hJ : Represents J P) (hK : Represents K Q) : Represents (J.add K) (P.add Q) := by
  cases hJ with
  | infinity => cases K <;> exact hK
  | @finite x₁ y₁ z₁ hz₁ =>
    cases hK with
    | infinity => exact .finite hz₁
    | @finite x₂ y₂ z₂ hz₂ =>
      have hz : z₁ * z₂ ≠ 0 := mul_ne_zero hz₁ hz₂
      -- cross-multiplied coordinates agree when those of the points do
      have hx : x₁ * z₁ ^ 2 * (z₂ * z₂) = x₂ * z₂ ^ 2 * (z₁ * z₁) ↔ x₁ = x₂ := by
        refine ⟨fun h => mul_right_cancel₀ (pow_ne_zero 2 hz) ?_, fun h => by rw [h]; ring⟩
        linear_combination h
      have hy : y₁ * z₁ ^ 3 * (z₂ * z₂ * z₂) = y₂ * z₂ ^ 3 * (z₁ * z₁ * z₁) ↔ y₁ = y₂ := by
        refine ⟨fun h => mul_right_cancel₀ (pow_ne_zero 3 hz) ?_, fun h => by rw [h]; ring⟩
        linear_combination h
      rw [Jacobian.add, Point.add]
      simp only [hx, hy]
      split
      next =>
        split
        next => exact (Represents.finite hz₁).double h2
        next => exact .infinity
      next hne =>
        have hd : x₂ - x₁ ≠ 0 := sub_ne_zero.mpr (Ne.symm hne)
        refine .of_eq ?_ ?_ ?_
        · have hden : (x₂ * z₂ ^ 2 * (z₁ * z₁) - x₁ * z₁ ^ 2 * (z₂ * z₂)) * (z₁ * z₂) =
              (x₂ - x₁) * (z₁ * z₂) ^ 3 := by ring
          rw [hden]
          exact mul_ne_zero hd (pow_ne_zero 3 hz)
        · field_simp
          ring
        · field_simp
          ring

section Curve

variable {b : F} (hb : ∀ x : F, x * x * x + b ≠ 0) (h2 : (2 : F) ≠ 0)

include hb h2 in
/-- Halving the factor and doubling the triple represents the multiple. -/
theorem Represents.nsmul (n : Nat) {J : Jacobian F} {P : (shortCurve b).Point}
    (h : Represents J (.ofCurve P)) : Represents (J.nsmul n) (.ofCurve (n • P)) := by
  induction n using Nat.strong_induction_on generalizing J P with
  | h n ih =>
    rw [Jacobian.nsmul]
    split
    next h0 =>
      rw [h0, zero_smul]
      exact .infinity
    next h0 =>
      -- `n • P` is half of `n` times the double, and one more if `n` is odd
      have hdouble : Represents J.double (.ofCurve (2 • P)) := by
        rw [two_smul, Point.ofCurve_add hb h2, Point.add_self]
        exact h.double h2
      have hhalf := ih (n / 2) (Nat.div_lt_self (by omega) (by norm_num)) hdouble
      rw [smul_smul] at hhalf
      split
      next hodd =>
        have hn : n • P = (n / 2 * 2) • P + P := by
          rw [← succ_nsmul]
          congr 1
          omega
        rw [hn, Point.ofCurve_add hb h2]
        exact hhalf.add h2 h
      next heven =>
        rwa [show n / 2 * 2 = n by omega] at hhalf

end Curve

end Jacobian

/-- The multiples of a point of the curve are those in the group of the curve. -/
theorem Point.nsmul_ofCurve {b : F} (hb : ∀ x : F, x * x * x + b ≠ 0) (h2 : (2 : F) ≠ 0) (n : Nat)
    (P : (shortCurve b).Point) : (ofCurve P).nsmul n = ofCurve (n • P) :=
  ((Jacobian.represents_ofPoint (ofCurve P)).nsmul hb h2 n).toPoint_eq

end LiabilityProof
