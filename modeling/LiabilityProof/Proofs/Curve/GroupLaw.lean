import Mathlib.AlgebraicGeometry.EllipticCurve.Affine.Point
import Mathlib.Tactic.LinearCombination
import LiabilityProof.Curve.Point

/-!
# The chord and tangent formulas are the group law

Over a field of characteristic other than two, on a curve `y² = x³ + b` without points of
vanishing `y`, the formulas of `Point` are those of the group of points of the Weierstrass curve
(`Point.ofCurve_add`, `Point.ofCurve_neg`). A point of vanishing `y` has to be excluded: it is
its own negative, and `Point.double` does not lead it to infinity.
-/

namespace LiabilityProof

/-- The operations of a field, as the formulas use them. -/
abbrev CoordinateField.ofField (F : Type) [Field F] [DecidableEq F] : CoordinateField F :=
  { (inferInstance : Field F) with decEq := inferInstance }

/-- The curve `y² = x³ + b`. -/
def shortCurve {F : Type} [Field F] (b : F) : WeierstrassCurve.Affine F := ⟨0, 0, 0, 0, b⟩

namespace Point

open WeierstrassCurve.Affine

variable {F : Type} [Field F] {b : F}

/-- The coordinates of a point of a curve. -/
def ofCurve : (shortCurve b).Point → Point F
  | .zero => .infinity
  | .some x y _ => .affine x y

theorem ofCurve_injective : Function.Injective (ofCurve : (shortCurve b).Point → Point F) := by
  rintro (_ | ⟨x, y, h⟩) (_ | ⟨x', y', h'⟩) heq
  · rfl
  · exact absurd heq (by simp [ofCurve])
  · exact absurd heq (by simp [ofCurve])
  · obtain ⟨rfl, rfl⟩ : x = x' ∧ y = y' := by simpa [ofCurve] using heq
    rfl

@[simp]
theorem negY_shortCurve (x y : F) : (shortCurve b).negY x y = -y := by
  simp [negY, shortCurve]

theorem equation_shortCurve {x y : F} :
    (shortCurve b).Equation x y ↔ y * y = x * x * x + b := by
  rw [equation_iff]
  simp only [shortCurve, zero_mul, add_zero, pow_succ, pow_zero, one_mul]

theorem ofCurve_neg [DecidableEq F] (P : (shortCurve b).Point) :
    ofCurve (-P) = @neg F (.ofField F) (ofCurve P) := by
  cases P with
  | zero => rfl
  | some x y h => exact congrArg (affine x) (negY_shortCurve x y)

/-- The point on a line through two points of a curve, reflected. -/
theorem affine_addX_addY [DecidableEq F] (m x₁ y₁ x₂ : F) :
    affine ((shortCurve b).addX x₁ x₂ m) ((shortCurve b).addY x₁ x₂ y₁ m) =
      @onLine F (.ofField F) m x₁ y₁ x₂ := by
  have hx : (shortCurve b).addX x₁ x₂ m = m * m - x₁ - x₂ := by
    simp only [addX, shortCurve]
    ring
  have hy : (shortCurve b).addY x₁ x₂ y₁ m = m * (x₁ - (m * m - x₁ - x₂)) - y₁ := by
    rw [addY, negY_shortCurve, negAddY, hx]
    ring
  rw [hx, hy]
  rfl

section NoTwoTorsion

variable (hb : ∀ x : F, x * x * x + b ≠ 0)

include hb in
theorem y_ne_zero {x y : F} (h : (shortCurve b).Nonsingular x y) : y ≠ 0 := by
  rintro rfl
  have heq := equation_shortCurve.mp h.1
  rw [mul_zero] at heq
  exact hb x heq.symm

variable [DecidableEq F] (h2 : (2 : F) ≠ 0)

include hb h2 in
/-- The chord and the tangent add points of a curve that has none of order two. -/
theorem ofCurve_add (P Q : (shortCurve b).Point) :
    ofCurve (P + Q) = @add F (.ofField F) (ofCurve P) (ofCurve Q) := by
  rcases P with _ | ⟨x₁, y₁, h₁⟩
  · exact congrArg ofCurve (zero_add Q)
  rcases Q with _ | ⟨x₂, y₂, h₂⟩
  · exact congrArg ofCurve (add_zero (Point.some x₁ y₁ h₁))
  have hsum : ∀ hne, ofCurve (Point.some x₁ y₁ h₁ + Point.some x₂ y₂ h₂) =
      @onLine F (.ofField F) ((shortCurve b).slope x₁ x₂ y₁ y₂) x₁ y₁ x₂ := fun hne => by
    rw [Point.add_some hne, ← affine_addX_addY (b := b)]
    rfl
  change _ = if x₁ = x₂ then
    if y₁ = y₂ then @double F (.ofField F) (affine x₁ y₁) else infinity
    else @onLine F (.ofField F) ((y₂ - y₁) * (x₂ - x₁)⁻¹) x₁ y₁ x₂
  split
  next hx =>
    subst hx
    split
    next hy =>
      -- the tangent, whose slope does not have a vanishing denominator
      subst hy
      have hne : y₁ ≠ (shortCurve b).negY x₁ y₁ := by
        rw [negY_shortCurve, Ne, eq_neg_iff_add_eq_zero, ← two_mul]
        exact mul_ne_zero h2 (y_ne_zero hb h₁)
      have hslope : (shortCurve b).slope x₁ x₁ y₁ y₁ =
          (x₁ * x₁ + x₁ * x₁ + x₁ * x₁) * (y₁ + y₁)⁻¹ := by
        rw [slope_of_Y_ne rfl hne, negY_shortCurve, sub_neg_eq_add, div_eq_mul_inv]
        simp only [shortCurve]
        ring
      rw [hsum fun h => hne h.2, hslope]
      rfl
    next hy =>
      -- opposite points
      have hneg := (Y_eq_of_X_eq h₁.1 h₂.1 rfl).resolve_left hy
      rw [Point.add_of_Y_eq rfl hneg]
      rfl
  next hx =>
    -- the chord, with the signs of the slope turned round
    have hslope : (shortCurve b).slope x₁ x₂ y₁ y₂ = (y₂ - y₁) * (x₂ - x₁)⁻¹ := by
      rw [slope_of_X_ne hx, ← neg_sub y₂, ← neg_sub x₂, neg_div_neg_eq, div_eq_mul_inv]
    rw [hsum fun h => hx h.1, hslope]

end NoTwoTorsion

end Point

end LiabilityProof
