import LiabilityProof.Curve.Point

/-!
# Multiples of a point without divisions

The triple `(x, y, z)` with `z ≠ 0` stands for the point `(x / z², y / z³)`. In these
coordinates the chord and the tangent need no division, so a multiple costs one inversion at
its end. The case distinctions are those of `Point.add` and `Point.double`, cross-multiplied,
which is why a multiple taken here is the multiple taken by the formulas of `Point`, also for
pairs that lie on no common curve.
-/

namespace LiabilityProof

/-- A point scaled by a common denominator: `finite x y z` is `(x / z², y / z³)`. -/
inductive Jacobian (F : Type) where
  | infinity
  | finite (x y z : F)

namespace Jacobian

variable {F : Type} [CoordinateField F]

/-- A point over the denominator one. -/
def ofPoint : Point F → Jacobian F
  | .infinity => infinity
  | .affine x y => finite x y 1

/-- The point, with its denominator divided out. -/
@[specialize]
def toPoint : Jacobian F → Point F
  | infinity => .infinity
  | finite x y z =>
    let i := z⁻¹
    let i2 := i * i
    .affine (x * i2) (y * (i2 * i))

/-- Twice a point. A vanishing `y` has tangent slope zero. -/
@[specialize]
def double : Jacobian F → Jacobian F
  | infinity => infinity
  | finite x y z =>
    if y = 0 then finite (-(x + x)) 0 z
    else
      let xx := x * x
      let yy := y * y
      let m := xx + xx + xx
      let t := x * yy
      let s := (t + t) + (t + t)
      let x' := m * m - (s + s)
      let q := yy * yy
      let q4 := (q + q) + (q + q)
      let yz := y * z
      finite x' (m * (s - x') - (q4 + q4)) (yz + yz)

/-- The sum of two points. -/
@[specialize]
def add : Jacobian F → Jacobian F → Jacobian F
  | infinity, q => q
  | p, infinity => p
  | finite x₁ y₁ z₁, finite x₂ y₂ z₂ =>
    let zz₁ := z₁ * z₁
    let zz₂ := z₂ * z₂
    let u₁ := x₁ * zz₂
    let u₂ := x₂ * zz₁
    let s₁ := y₁ * (zz₂ * z₂)
    let s₂ := y₂ * (zz₁ * z₁)
    if u₁ = u₂ then
      if s₁ = s₂ then double (finite x₁ y₁ z₁) else infinity
    else
      let h := u₂ - u₁
      let r := s₂ - s₁
      let hh := h * h
      let hhh := hh * h
      let v := u₁ * hh
      let x := r * r - hhh - (v + v)
      finite x (r * (v - x) - s₁ * hhh) (h * (z₁ * z₂))

/-- The `n`-th multiple, by halving `n` and doubling the point. -/
@[specialize]
def nsmul (n : Nat) (p : Jacobian F) : Jacobian F :=
  if n = 0 then infinity
  else if n % 2 = 1 then add (nsmul (n / 2) (double p)) p
  else nsmul (n / 2) (double p)
termination_by n

end Jacobian

/-- The `n`-th multiple of a point. -/
@[specialize]
def Point.nsmul {F : Type} [CoordinateField F] (n : Nat) (p : Point F) : Point F :=
  ((Jacobian.ofPoint p).nsmul n).toPoint

end LiabilityProof
