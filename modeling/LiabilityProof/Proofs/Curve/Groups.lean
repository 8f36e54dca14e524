import LiabilityProof.Proofs.Curve.Multiples
import LiabilityProof.Proofs.Curve.Quadratic
import LiabilityProof.Proofs.Kzg.Laws

/-!
# The groups of the curves are lawful

The multiples of the two generators of `PairingGroups.bn254`, taken by the formulas of the
library, are copies of the scalars (`bn254_first_lawful`, `bn254_second_lawful`). Neither curve
has a point of vanishing `y`, because minus its constant is no cube, so the formulas compute in
the group of the curve; and both generators have the order `groupOrder`, which is prime.

Of the laws of the pairing groups only that of the pairing itself is left open. For any two
lawful groups `PairingGroups.ofLogarithms` has a pairing that satisfies it: the product of the
scalars that the points are multiples by.
-/

namespace LiabilityProof

open scoped Residue Fq2

/-- Minus the constant of a curve is no cube if its power with a third of the exponent of the
multiplicative group is not one. -/
theorem cube_add_ne_zero {F : Type} [Field F] [Fintype F] {b : F} (hb : b ≠ 0) {n : Nat}
    (hcard : Fintype.card F = 3 * n + 1) (hpow : (-b) ^ n ≠ 1) (x : F) : x * x * x + b ≠ 0 := by
  intro h
  have hcube : -b = x ^ 3 := by linear_combination -h
  have hx : x ≠ 0 := by
    rintro rfl
    exact hb (by simpa using h)
  apply hpow
  rw [hcube, ← pow_mul, ← Nat.add_sub_cancel (3 * n) 1, ← hcard,
    FiniteField.pow_card_sub_one_eq_one x hx]

/-! ### Groups of multiples -/

/-- The group that a point generates by the formulas. -/
abbrev PointGroup.generatedBy {F : Type} [CoordinateField F] (P : Point F) :
    PointGroup (Point F) :=
  ⟨P, Point.add, Point.neg, fun k Q => Q.nsmul k.val⟩

section Multiples

variable {F : Type} [Field F] {b x y : F}

theorem nonsingular_shortCurve (h2 : (2 : F) ≠ 0) (hy : y ≠ 0) (h : y * y = x * x * x + b) :
    (shortCurve b).Nonsingular x y := by
  refine (WeierstrassCurve.Affine.nonsingular_iff ..).mpr
    ⟨Point.equation_shortCurve.mpr h, .inr ?_⟩
  simp only [shortCurve, zero_mul, sub_zero]
  rw [Ne, eq_neg_iff_add_eq_zero, ← two_mul]
  exact mul_ne_zero h2 hy

variable [DecidableEq F] (hb : ∀ x : F, x * x * x + b ≠ 0) (h2 : (2 : F) ≠ 0)
  (hxy : y * y = x * x * x + b) {C : CoordinateField F} (hC : C = .ofField F)
  (horder : (Point.affine x y).nsmul groupOrder = .infinity)

include hb h2 hxy hC horder in
/-- The multiples of a point of the order of the scalars are those in the group of its curve. -/
theorem exists_multiple_eq_ofCurve : ∃ P : (shortCurve b).Point, addOrderOf P = groupOrder ∧
    .affine x y = Point.ofCurve P ∧
    ∀ a, (PointGroup.generatedBy (.affine x y)).multiple a = .ofCurve (a.val • P) := by
  subst hC
  have hy : y ≠ 0 := by
    rintro rfl
    rw [mul_zero] at hxy
    exact hb x hxy.symm
  set P : (shortCurve b).Point := .some x y (nonsingular_shortCurve h2 hy hxy)
  have hnsmul := fun n => Point.nsmul_ofCurve hb h2 n P
  have hzero : groupOrder • P = 0 :=
    Point.ofCurve_injective ((hnsmul groupOrder).symm.trans horder)
  have : Fact groupOrder.Prime := ⟨groupOrder_prime⟩
  exact ⟨P, addOrderOf_eq_prime hzero (WeierstrassCurve.Affine.Point.some_ne_zero _), rfl,
    fun a => hnsmul a.val⟩

include hb h2 hxy hC horder in
/-- A point of the order of the scalars generates a copy of them. -/
theorem lawful_generatedBy : (PointGroup.generatedBy (.affine x y)).Lawful .infinity := by
  obtain ⟨P, hP, hgenerator, hmultiple⟩ := exists_multiple_eq_ofCurve hb h2 hxy hC horder
  -- the factors may be reduced, because the point has the order of the scalars
  have hmod : ∀ n : Nat, (n % groupOrder) • P = n • P := by
    intro n
    rw [← mod_addOrderOf_nsmul P n, hP]
  have hadd : ∀ a c : Scalar, a.val • P + c.val • P = (a + c).val • P := by
    intro a c
    rw [← add_nsmul, Residue.val_add, hmod]
  have hone : (1 : Scalar).val = 1 := rfl
  subst hC
  constructor
  · rw [hmultiple, Residue.val_zero, zero_nsmul]
    rfl
  · rw [hmultiple, hone, one_nsmul, ← hgenerator]
  · intro a c
    rw [hmultiple, hmultiple, hmultiple, ← hadd, Point.ofCurve_add hb h2]
  · intro a
    have hneg : -(a.val • P) = (-a).val • P := by
      refine neg_eq_of_add_eq_zero_right ?_
      rw [hadd, add_neg_cancel, Residue.val_zero, zero_nsmul]
    rw [hmultiple, hmultiple, ← hneg, Point.ofCurve_neg]
  · intro a c
    rw [hmultiple, hmultiple]
    refine (Point.nsmul_ofCurve hb h2 a.val (c.val • P)).trans ?_
    rw [smul_smul, Residue.val_mul, hmod]
  · intro a c h
    rw [hmultiple, hmultiple] at h
    have hval := nsmul_inj_mod.mp (Point.ofCurve_injective h)
    rw [hP, Nat.mod_eq_of_lt a.isLt, Nat.mod_eq_of_lt c.isLt] at hval
    exact Residue.ext hval

include hb h2 hxy hC horder in
/-- The multiples lie on the curve. -/
theorem equation_of_multiple_eq {a : Scalar} {u v : F}
    (h : (PointGroup.generatedBy (.affine x y)).multiple a = .affine u v) :
    (shortCurve b).Equation u v := by
  obtain ⟨P, -, -, hmultiple⟩ := exists_multiple_eq_ofCurve hb h2 hxy hC horder
  rw [hmultiple] at h
  cases hQ : a.val • P with
  | zero =>
    rw [hQ] at h
    exact absurd h (by simp [Point.ofCurve])
  | some x' y' hxy' =>
    rw [hQ] at h
    obtain ⟨rfl, rfl⟩ : x' = u ∧ y' = v := by simpa [Point.ofCurve] using h
    exact hxy'.1

end Multiples

/-! ### The curves of the library -/

namespace PairingGroups

theorem curve_cube_add_ne_zero (x : Fq) : x * x * x + Pairing.curveConstant ≠ 0 := by
  have hcard : Fintype.card Fq = 3 * ((coordinateModulus - 1) / 3) + 1 := by
    rw [Residue.card]
    decide
  refine cube_add_ne_zero (by decide) hcard ?_ x
  rw [← squaringPower_eq_pow]
  decide +kernel

theorem twist_cube_add_ne_zero (x : Fq2) : x * x * x + Pairing.twistConstant ≠ 0 := by
  have hcard : Fintype.card Fq2 = 3 * ((coordinateModulus ^ 2 - 1) / 3) + 1 := by
    rw [Fq2.card]
    decide
  refine cube_add_ne_zero (by decide +kernel) hcard ?_ x
  rw [← squaringPower_eq_pow]
  decide +kernel

theorem bn254_first_generator_nsmul : bn254.first.generator.nsmul groupOrder = .infinity := by
  decide +kernel

theorem bn254_second_generator_nsmul : bn254.second.generator.nsmul groupOrder = .infinity := by
  decide +kernel

/-- The first group is a copy of the scalars. -/
theorem bn254_first_lawful : bn254.first.Lawful .infinity :=
  lawful_generatedBy curve_cube_add_ne_zero (by decide) (by decide) rfl bn254_first_generator_nsmul

/-- The second group is a copy of the scalars. -/
theorem bn254_second_lawful : bn254.second.Lawful .infinity :=
  lawful_generatedBy twist_cube_add_ne_zero (by decide) (by decide +kernel) rfl
    bn254_second_generator_nsmul

/-- The pair of two zeros does not lie on the curve. -/
theorem bn254_first_multiple_ne_zero (a : Scalar) : bn254.first.multiple a ≠ .affine 0 0 := by
  intro h
  have hzero := equation_of_multiple_eq curve_cube_add_ne_zero (by decide) (by decide) rfl
    bn254_first_generator_nsmul h
  exact absurd (Point.equation_shortCurve.mp hzero) (by decide)

/-! ### A pairing by logarithms -/

/-- Two groups with the pairing of multiples by the product of their scalars. It is not
computable, but on lawful groups it is a pairing. -/
noncomputable def ofLogarithms (first : PointGroup G1Point) (second : PointGroup G2Point) :
    PairingGroups where
  first := first
  second := second
  Target := Scalar
  decEqTarget := inferInstance
  pair Q P := .ok (Function.invFun first.multiple P * Function.invFun second.multiple Q)

theorem ofLogarithms_lawful {first : PointGroup G1Point} {second : PointGroup G2Point}
    (hfirst : first.Lawful .infinity) (hsecond : second.Lawful .infinity) :
    (ofLogarithms first second).Lawful where
  first := hfirst
  second := hsecond
  pair_multiple := by
    refine ⟨id, Function.injective_id, fun a b => ?_⟩
    have ha := Function.leftInverse_invFun hfirst.multiple_injective a
    have hb := Function.leftInverse_invFun hsecond.multiple_injective b
    exact congrArg Except.ok (congrArg₂ (· * ·) ha hb)

/-- The curves of the library with the pairing by logarithms. -/
noncomputable def bn254Logarithms : PairingGroups := ofLogarithms bn254.first bn254.second

theorem bn254Logarithms_lawful : bn254Logarithms.Lawful :=
  ofLogarithms_lawful bn254_first_lawful bn254_second_lawful

end PairingGroups

end LiabilityProof
