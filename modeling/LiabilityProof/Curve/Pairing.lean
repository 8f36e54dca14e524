import LiabilityProof.Curve.Extension

/-!
# The optimal ate pairing

The second group lies on the sextic twist `y² = x³ + 3 / ξ` over `Fq2`; the point `(x, y)` of
the twist is the point `(x·w², y·w³)` of the curve over `Fq12`. A chord or tangent of slope
`λ` on the twist therefore has slope `λ·w` there, and its value at a point `(xₚ, yₚ)` of the
first group is `-yₚ + λ·xₚ·w + (y - λ·x)·w³`: three of six coefficients.

`millerLoop` multiplies these values along the binary digits of `ateLoopCount` and adds the
two lines through the images of the point under the Frobenius map. `finalPower` raises to
`(q¹² - 1) / r`, split as `(q⁶ - 1)·(q² + 1)·((q⁴ - q² + 1) / r)`, where the first two
factors are a conjugation and two Frobenius maps.

The pairing is not computed for points off their curves.
-/

namespace LiabilityProof

/-- A point of the first group's curve `y² = x³ + 3`, or any other pair of coordinates. -/
abbrev G1Point := Point Fq

/-- A point of the second group's curve `y² = x³ + 3 / (9 + i)`, or any other pair. -/
abbrev G2Point := Point Fq2

namespace Pairing

/-- The constant term of the first group's curve. -/
def curveConstant : Fq := Residue.ofNat 3

/-- The constant term of the second group's curve. -/
def twistConstant : Fq2 := Fq2.scale curveConstant (Fq2.mulXi 1)⁻¹

/-- Whether a point satisfies `y² = x³ + b`; the point at infinity does. -/
def onCurve {F : Type} [CoordinateField F] (b : F) : Point F → Bool
  | .infinity => true
  | .affine x y => decide (y * y = x * x * x + b)

/-- The value at `(xp, yp)` of the line of slope `m` through `(x, y)` on the twist. -/
def lineValue (m x y : Fq2) (xp yp : Fq) : Fq12 :=
  Fq12.ofPowers ⟨-yp, 0⟩ (m.scale xp) 0 (y - m * x) 0 0

/-- The value at `(xp, yp)` of the vertical line over the first coordinate `x`. -/
def verticalValue (x : Fq2) (xp : Fq) : Fq12 :=
  Fq12.ofPowers ⟨xp, 0⟩ 0 (-x) 0 0 0

/-- One step along the loop: the value of the line through two points of the twist, and the
sum of the points. -/
def lineStep (p q : G2Point) (xp yp : Fq) : Fq12 × G2Point :=
  match p, q with
  | .infinity, _ => (1, q)
  | _, .infinity => (1, p)
  | .affine x₁ y₁, .affine x₂ y₂ =>
    if x₁ = x₂ then
      if y₁ = y₂ then
        let m := (x₁ * x₁ + x₁ * x₁ + x₁ * x₁) * (y₁ + y₁)⁻¹
        (lineValue m x₁ y₁ xp yp, Point.onLine m x₁ y₁ x₁)
      else (verticalValue x₁ xp, .infinity)
    else
      let m := (y₂ - y₁) * (x₂ - x₁)⁻¹
      (lineValue m x₁ y₁ xp yp, Point.onLine m x₁ y₁ x₂)

/-- The length of the loop, six times the curve parameter plus two. -/
def ateLoopCount : Nat := 29793968203157093288

/-- The value of the loop along the lower `bits` binary digits of `ateLoopCount`, from the
value `f` and the multiple `r` reached so far. -/
def loopFrom (q : G2Point) (xp yp : Fq) : Nat → Fq12 → G2Point → Fq12 × G2Point
  | 0, f, r => (f, r)
  | bit + 1, f, r =>
    let (l, r2) := lineStep r r xp yp
    let f2 := f * f * l
    if ateLoopCount.testBit bit then
      let (l', r3) := lineStep r2 q xp yp
      loopFrom q xp yp bit (f2 * l') r3
    else loopFrom q xp yp bit f2 r2

/-- `ξ` to the power `j·(q - 1)/6`, by which the Frobenius map turns `wʲ`. -/
def frobeniusFactor (j : Nat) : Fq2 :=
  Fq2.mulXi 1 ^ (j * ((coordinateModulus - 1) / 6))

/-- The factors for `j = 1, …, 5`, computed once. -/
def frobeniusFactors : Fq2 × Fq2 × Fq2 × Fq2 × Fq2 :=
  (frobeniusFactor 1, frobeniusFactor 2, frobeniusFactor 3, frobeniusFactor 4,
    frobeniusFactor 5)

/-- The image of an element under raising to the coordinate modulus. -/
def frobenius (a : Fq12) : Fq12 :=
  let (g1, g2, g3, g4, g5) := frobeniusFactors
  ⟨⟨a.c0.c0.conj, a.c0.c1.conj * g2, a.c0.c2.conj * g4⟩,
   ⟨a.c1.c0.conj * g1, a.c1.c1.conj * g3, a.c1.c2.conj * g5⟩⟩

/-- The image of a point of the twist under the Frobenius map of the curve. -/
def frobeniusPoint : G2Point → G2Point
  | .infinity => .infinity
  | .affine x y =>
    let (_, g2, g3, _, _) := frobeniusFactors
    .affine (x.conj * g2) (y.conj * g3)

/-- The loop value before the final power. -/
def millerLoop (q : G2Point) (xp yp : Fq) : Fq12 :=
  let (f, r) := loopFrom q xp yp 64 1 q
  let q1 := frobeniusPoint q
  let q2 := (frobeniusPoint q1).neg
  let (l, r') := lineStep r q1 xp yp
  let (l', _) := lineStep r' q2 xp yp
  f * l * l'

/-- The part of the final power that is no combination of Frobenius maps. -/
def hardExponent (r : Nat) : Nat :=
  (Nat.pow coordinateModulus 4 - Nat.pow coordinateModulus 2 + 1) / r

/-- The power `(q¹² - 1) / r`. -/
def finalPower (r : Nat) (f : Fq12) : Fq12 :=
  let t := f.conj * f⁻¹
  let u := frobenius (frobenius t) * t
  u ^ hardExponent r

end Pairing

end LiabilityProof
