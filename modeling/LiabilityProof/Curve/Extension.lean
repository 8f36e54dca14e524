import LiabilityProof.Field.Residue
import LiabilityProof.Curve.Point

/-!
# The coordinate field and its extensions

Coordinates of the first group are residues modulo `coordinateModulus`, which is three modulo
four, so `-1` has no square root and `Fq2` adjoins one. Above it stand the sextic extension
`Fq6 = Fq2[v] / (v³ - ξ)` and `Fq12 = Fq6[w] / (w² - v)` with `ξ = 9 + i`; an element of
`Fq12` is therefore also a polynomial in `w` over `Fq2` with `w⁶ = ξ`.

A product in `Fq2` is the schoolbook one with one reduction for each coefficient; above it
products use three multiplications where the schoolbook takes four (`Fq12`) and six where it
takes nine (`Fq6`). An inverse is the conjugate over the norm, down to the residues,
so zero is its own inverse at every level.
-/

namespace LiabilityProof

/-- The prime modulus of the coordinates. -/
def coordinateModulus : Nat :=
  21888242871839275222246405745257275088696311157297823662689037894645226208583

instance : Modulus coordinateModulus := ⟨by decide⟩

/-- A coordinate of a point of the first group. -/
abbrev Fq := Residue coordinateModulus

instance : CoordinateField Fq where
  decEq := inferInstance

/-- The element `re + im·i` of the quadratic extension, with `i² = -1`. -/
structure Fq2 where
  /-- The coefficient of one. -/
  re : Fq
  /-- The coefficient of `i`. -/
  im : Fq
deriving DecidableEq, Inhabited

namespace Fq2

instance : Zero Fq2 := ⟨⟨0, 0⟩⟩

instance : One Fq2 := ⟨⟨1, 0⟩⟩

/-- The sum, coefficient by coefficient. -/
def add (a b : Fq2) : Fq2 := ⟨a.re + b.re, a.im + b.im⟩

/-- The difference, coefficient by coefficient. -/
def sub (a b : Fq2) : Fq2 := ⟨a.re - b.re, a.im - b.im⟩

/-- The negative, coefficient by coefficient. -/
def neg (a : Fq2) : Fq2 := ⟨-a.re, -a.im⟩

instance : Add Fq2 := ⟨add⟩

instance : Sub Fq2 := ⟨sub⟩

instance : Neg Fq2 := ⟨neg⟩

/-- The product. Each coefficient is reduced once, after its two products are combined. -/
def mul (a b : Fq2) : Fq2 :=
  ⟨Residue.ofNat (a.re.val * b.re.val +
      (coordinateModulus - a.im.val) * b.im.val),
   Residue.ofNat (a.re.val * b.im.val + a.im.val * b.re.val)⟩

instance : Mul Fq2 := ⟨mul⟩

/-- The conjugate, which is also the image under raising to the modulus. -/
def conj (a : Fq2) : Fq2 := ⟨a.re, -a.im⟩

/-- The multiple by a coordinate. -/
def scale (c : Fq) (a : Fq2) : Fq2 := ⟨c * a.re, c * a.im⟩

/-- The inverse: the conjugate over the norm. -/
def inv (a : Fq2) : Fq2 := scale (a.re * a.re + a.im * a.im)⁻¹ a.conj

instance : Inv Fq2 := ⟨inv⟩

instance : CoordinateField Fq2 where
  decEq := inferInstance

/-- Multiplication by `ξ = 9 + i`, the element whose sixth root generates the tower. -/
def mulXi (a : Fq2) : Fq2 :=
  let nine := fun c : Fq => let d := (c + c) + (c + c); (d + d) + c
  ⟨nine a.re - a.im, nine a.im + a.re⟩

instance : Pow Fq2 Nat := ⟨squaringPower⟩

end Fq2

/-- The element `c0 + c1·v + c2·v²` of the cubic extension of `Fq2`, with `v³ = ξ`. -/
structure Fq6 where
  /-- The coefficient of one. -/
  c0 : Fq2
  /-- The coefficient of `v`. -/
  c1 : Fq2
  /-- The coefficient of `v²`. -/
  c2 : Fq2
deriving DecidableEq

namespace Fq6

instance : Zero Fq6 := ⟨⟨0, 0, 0⟩⟩

instance : One Fq6 := ⟨⟨1, 0, 0⟩⟩

/-- The sum, coefficient by coefficient. -/
def add (a b : Fq6) : Fq6 := ⟨a.c0 + b.c0, a.c1 + b.c1, a.c2 + b.c2⟩

/-- The difference, coefficient by coefficient. -/
def sub (a b : Fq6) : Fq6 := ⟨a.c0 - b.c0, a.c1 - b.c1, a.c2 - b.c2⟩

/-- The negative, coefficient by coefficient. -/
def neg (a : Fq6) : Fq6 := ⟨-a.c0, -a.c1, -a.c2⟩

instance : Add Fq6 := ⟨add⟩

instance : Sub Fq6 := ⟨sub⟩

instance : Neg Fq6 := ⟨neg⟩

/-- The product, by six multiplications in the quadratic extension. -/
def mul (a b : Fq6) : Fq6 :=
  let t0 := a.c0 * b.c0
  let t1 := a.c1 * b.c1
  let t2 := a.c2 * b.c2
  ⟨t0 + ((a.c1 + a.c2) * (b.c1 + b.c2) - t1 - t2).mulXi,
   (a.c0 + a.c1) * (b.c0 + b.c1) - t0 - t1 + t2.mulXi,
   (a.c0 + a.c2) * (b.c0 + b.c2) - t0 - t2 + t1⟩

instance : Mul Fq6 := ⟨mul⟩

/-- Multiplication by `v`. -/
def mulV (a : Fq6) : Fq6 := ⟨a.c2.mulXi, a.c0, a.c1⟩

/-- The inverse: the product of the two conjugates over the norm. -/
def inv (a : Fq6) : Fq6 :=
  let t0 := a.c0 * a.c0 - (a.c1 * a.c2).mulXi
  let t1 := (a.c2 * a.c2).mulXi - a.c0 * a.c1
  let t2 := a.c1 * a.c1 - a.c0 * a.c2
  let n := (a.c0 * t0 + (a.c2 * t1 + a.c1 * t2).mulXi)⁻¹
  ⟨t0 * n, t1 * n, t2 * n⟩

instance : Inv Fq6 := ⟨inv⟩

end Fq6

/-- The element `c0 + c1·w` of the quadratic extension of `Fq6`, with `w² = v`. -/
structure Fq12 where
  /-- The coefficient of one. -/
  c0 : Fq6
  /-- The coefficient of `w`. -/
  c1 : Fq6
deriving DecidableEq

namespace Fq12

instance : One Fq12 := ⟨⟨1, 0⟩⟩

/-- The product, by three multiplications in the sextic extension. -/
def mul (a b : Fq12) : Fq12 :=
  let t0 := a.c0 * b.c0
  let t1 := a.c1 * b.c1
  ⟨t0 + t1.mulV, (a.c0 + a.c1) * (b.c0 + b.c1) - t0 - t1⟩

instance : Mul Fq12 := ⟨mul⟩

/-- The conjugate over `Fq6`, which is also the image under raising to the sixth power of the
coordinate modulus. -/
def conj (a : Fq12) : Fq12 := ⟨a.c0, -a.c1⟩

/-- The inverse: the conjugate over the norm. -/
def inv (a : Fq12) : Fq12 :=
  let n := (a.c0 * a.c0 - (a.c1 * a.c1).mulV)⁻¹
  ⟨a.c0 * n, -(a.c1 * n)⟩

instance : Inv Fq12 := ⟨inv⟩

instance : Pow Fq12 Nat := ⟨squaringPower⟩

/-- The element with the given coefficients of `1, w, …, w⁵` over `Fq2`. -/
def ofPowers (a0 a1 a2 a3 a4 a5 : Fq2) : Fq12 :=
  ⟨⟨a0, a2, a4⟩, ⟨a1, a3, a5⟩⟩

/-- The twelve coefficients of `1, w, …, w¹¹` over the coordinates. As `i = w⁶ - 9`, the
coefficient `a + b·i` of `wʲ` puts `a - 9b` at `j` and `b` at `j + 6`. -/
def coefficients (a : Fq12) : List Fq :=
  let powers := [a.c0.c0, a.c1.c0, a.c0.c1, a.c1.c1, a.c0.c2, a.c1.c2]
  powers.map (fun c => c.re - Residue.ofNat 9 * c.im) ++ powers.map (·.im)

end Fq12

end LiabilityProof
