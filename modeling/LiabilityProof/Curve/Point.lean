/-!
# Points of a short Weierstrass curve

A point is the point at infinity or a pair of coordinates. The chord-and-tangent formulas
below are those of a curve `y² = x³ + b`; `b` does not occur in them, so they are defined for
**every** pair of coordinates, on the curve or not, and the convention `0⁻¹ = 0` makes the
remaining case total: a point with `y = 0` has tangent slope zero and doubles to `(-2x, 0)`.

`CoordinateField` names the operations the formulas use, so that one text serves the curve
over the base field and the curve over its quadratic extension.
-/

namespace LiabilityProof

/-- The operations on coordinates that the curve formulas use, with `0⁻¹ = 0`. -/
class CoordinateField (F : Type) extends Zero F, One F, Add F, Sub F, Neg F, Mul F, Inv F where
  /-- Equality of coordinates is decidable. -/
  decEq : DecidableEq F

instance {F : Type} [CoordinateField F] : DecidableEq F := CoordinateField.decEq

/-- The point at infinity, or a pair of coordinates. -/
inductive Point (F : Type) where
  | infinity
  | affine (x y : F)
deriving DecidableEq, Inhabited

namespace Point

variable {F : Type} [CoordinateField F]

/-- The reflection of a point. -/
def neg : Point F → Point F
  | infinity => infinity
  | affine x y => affine x (-y)

/-- The third intersection of the line of slope `m` through `(x₁, y₁)` and a second point of
first coordinate `x₂`, reflected. -/
def onLine (m x₁ y₁ x₂ : F) : Point F :=
  let x := m * m - x₁ - x₂
  affine x (m * (x₁ - x) - y₁)

/-- Twice a point, by the tangent. -/
def double : Point F → Point F
  | infinity => infinity
  | affine x y => onLine ((x * x + x * x + x * x) * (y + y)⁻¹) x y x

/-- The sum of two points, by the chord; equal points are doubled, and two points over one
first coordinate cancel. -/
def add : Point F → Point F → Point F
  | infinity, q => q
  | p, infinity => p
  | affine x₁ y₁, affine x₂ y₂ =>
    if x₁ = x₂ then
      if y₁ = y₂ then double (affine x₁ y₁) else infinity
    else onLine ((y₂ - y₁) * (x₂ - x₁)⁻¹) x₁ y₁ x₂

end Point

end LiabilityProof
