import LiabilityProof.Proofs.Polynomial.Division

/-!
# Canonical form

Polynomials come about in six ways: from coefficients, as zero, as the difference to a polynomial or
to a number, as a quotient, and by interpolation (`Poly.Origin`). Each of them pads, cancels or
drops coefficients. The meaning of an origin is computed in the ring of polynomials, where there
are no coefficients to keep in order, and the coefficients of the polynomial that comes about are
those of the meaning, from the constant one to the leading one (`Poly.Origin.coeffs_eq`).

So equality of the lists of coefficients is equality of polynomials, whatever their origins are,
and it is told by the difference being zero (`Poly.Origin.coeffs_canonical`).
-/

namespace LiabilityProof

open Polynomial
open scoped Residue
open Transform (coefficientDatum coefficientClass)

namespace Poly

/-! ### Coefficients in canonical form -/

/-- The coefficients of a polynomial, from the constant one to the leading one. -/
noncomputable def canonicalCoeffs (p : Scalar[X]) : List Scalar :=
  (List.range (p.natDegree + 1)).map p.coeff

theorem coeffs_eq_canonicalCoeffs (f : Poly) : f.coeffs = canonicalCoeffs f.toPolynomial := by
  have hlength : f.coeffs.length = (canonicalCoeffs f.toPolynomial).length := by
    rw [canonicalCoeffs, List.length_map, List.length_range, natDegree_toPolynomial, length_coeffs]
  refine List.ext_getElem hlength fun i hi hi' => ?_
  simp only [canonicalCoeffs, List.getElem_map, List.getElem_range]
  rw [toPolynomial, coeff_ofList, List.getD_eq_getElem _ _ hi]

theorem coeffs_inj {f g : Poly} : f.coeffs = g.coeffs ↔ f = g := by
  cases f
  cases g
  simp

theorem coeffs_constant (a : Scalar) : (constant a).coeffs = [a] := by
  rw [coeffs_eq_canonicalCoeffs, toPolynomial_constant, canonicalCoeffs, natDegree_C]
  simp

theorem isZero_iff {f : Poly} : f.isZero = true ↔ f = 0 := by
  rw [isZero, decide_eq_true_iff, ← coeffs_constant, coeffs_inj]
  exact Iff.rfl

theorem eq_iff_getD_eq {f g : Poly} : f = g ↔ ∀ i, f.coeffs.getD i 0 = g.coeffs.getD i 0 := by
  simp only [← toPolynomial_injective.eq_iff, Polynomial.ext_iff, toPolynomial, coeff_ofList]

/-! ### Differences -/

/-- `h` is the difference of `f` and an operand that has the given coefficients and values, and it
tells whether `f` is found `equal` to the operand. -/
structure IsDifference (f : Poly) (coeff : Nat → Scalar) (value : Scalar → Scalar) (equal : Prop)
    (h : Poly) : Prop where
  /-- The values are the differences of the values. -/
  eval : ∀ x, h.eval x = f.eval x - value x
  /-- Equality is found exactly if the difference is zero. -/
  equal_iff : equal ↔ h.isZero = true
  /-- The difference is zero exactly if all coefficients agree. -/
  isZero_iff : h.isZero = true ↔ ∀ i, f.coeffs.getD i 0 = coeff i

theorem isDifference_sub (f g : Poly) :
    IsDifference f (g.coeffs.getD · 0) g.eval (f.coeffs = g.coeffs) (f - g) := by
  have hzero : (f - g).isZero = true ↔ f = g := by
    rw [isZero_iff, ← toPolynomial_injective.eq_iff, toPolynomial_sub, toPolynomial_zero,
      sub_eq_zero, toPolynomial_injective.eq_iff]
  exact ⟨eval_sub f g, coeffs_inj.trans hzero.symm, hzero.trans eq_iff_getD_eq⟩

/-- A number as an operand counts as the constant of its class. -/
theorem isDifference_number (f : Poly) (c : Int ⊕ Scalar) :
    ∃ h found, Wire.subtract f (coefficientDatum c) = .ok h ∧
      Wire.equals f (coefficientDatum c) = .ok found ∧
      IsDifference f (fun i => if i = 0 then coefficientClass c else 0)
        (fun _ => coefficientClass c) (found = true) h := by
  have hequals : Wire.equals f (coefficientDatum c) =
      .ok (decide (f = constant (coefficientClass c))) := by
    rw [Wire.equals, Wire.operand?_coefficientDatum]
    rfl
  refine ⟨_, _, Wire.subtract_coefficientDatum f c, hequals, ?_⟩
  obtain ⟨heval, hequal, hzero⟩ := isDifference_sub f (constant (coefficientClass c))
  refine ⟨fun x => ?_, ?_, ?_⟩
  · rw [heval, ← eval_toPolynomial (constant _), toPolynomial_constant, eval_C]
  · rw [decide_eq_true_iff, ← coeffs_inj, hequal]
  · rw [hzero, coeffs_constant]
    refine forall_congr' fun i => ?_
    cases i with
    | zero => simp
    | succ i => simp

/-! ### Origins -/

/-- How a polynomial comes about. -/
inductive Origin where
  /-- From coefficients, lowest first, that are not trusted. -/
  | coefficients (d : Datum)
  /-- As the zero polynomial. -/
  | zero
  /-- As a difference of polynomials. -/
  | difference (a b : Origin)
  /-- As the difference of a polynomial and a number. -/
  | reduced (a : Origin) (c : Int ⊕ Scalar)
  /-- As a quotient by `x - z`. -/
  | quotient (a : Origin) (z : Scalar)
  /-- By interpolation of values, which are not trusted, at the powers of a root. -/
  | interpolant (values : List Datum) (ω : Scalar)

namespace Origin

/-- The polynomial that comes about. -/
def poly : Origin → Except Failure Poly
  | coefficients d => Wire.polynomial d
  | zero => .ok 0
  | difference a b => do return (← a.poly) - (← b.poly)
  | reduced a c => do Wire.subtract (← a.poly) (coefficientDatum c)
  | quotient a z => do return (← a.poly).quotient z
  | interpolant values ω => do
    Transform.interpolate (← Transform.valuesOfData values Datum.residue) ω

/-- The polynomial that is meant. -/
noncomputable def meaning : Origin → Except Failure Scalar[X]
  | coefficients d =>
    if d.isPresent then do return ofList (← (← d.elements).mapM Datum.residue) else .ok 0
  | zero => .ok 0
  | difference a b => do return (← a.meaning) - (← b.meaning)
  | reduced a c => do return (← a.meaning) - C (coefficientClass c)
  | quotient a z => do return (← a.meaning) /ₘ (X - C z)
  | interpolant values ω => do
    let values ← Transform.valuesOfData values Datum.residue
    return ofList (← Transform.backward values ω)

/-- The polynomial that comes about is the one that is meant. -/
theorem map_poly (o : Origin) : toPolynomial <$> o.poly = o.meaning := by
  induction o with
  | coefficients d =>
    rw [poly, meaning, Wire.polynomial]
    split
    next => simp only [map_bind, map_pure, toPolynomial_ofCoeffs]
    next => exact congrArg Except.ok toPolynomial_zero
  | zero => exact congrArg Except.ok toPolynomial_zero
  | difference a b iha ihb =>
    simp only [poly, meaning, ← iha, ← ihb, map_bind, bind_map_left, map_pure, toPolynomial_sub]
  | reduced a c ih =>
    have hsubtract : ∀ f : Poly, toPolynomial <$> Wire.subtract f (coefficientDatum c) =
        pure (f.toPolynomial - C (coefficientClass c)) := by
      intro f
      rw [Wire.subtract_coefficientDatum, ← toPolynomial_constant, ← toPolynomial_sub]
      rfl
    simp only [poly, meaning, ← ih, map_bind, bind_map_left, hsubtract]
  | quotient a z ih =>
    simp only [poly, meaning, ← ih, map_bind, bind_map_left, map_pure, toPolynomial_quotient]
  | interpolant values ω =>
    have hinterpolate : ∀ values : List Scalar, toPolynomial <$> Transform.interpolate values ω =
        Transform.backward values ω >>= fun cs => pure (ofList cs) := by
      intro values
      rw [Transform.interpolate]
      cases Transform.backward values ω with
      | error failure => rfl
      | ok cs => exact congrArg Except.ok (toPolynomial_ofCoeffs cs)
    simp only [poly, meaning, map_bind, hinterpolate]

/-- The coefficients of what comes about are those of what is meant. -/
theorem coeffs_eq {o : Origin} {f : Poly} (h : o.poly = .ok f) :
    ∃ p, o.meaning = .ok p ∧ f.coeffs = canonicalCoeffs p := by
  refine ⟨f.toPolynomial, ?_, coeffs_eq_canonicalCoeffs f⟩
  rw [← map_poly, h]
  rfl

/-- However polynomials come about, their coefficients are in canonical form: there is one, the last
is zero in the zero polynomial only, and they are those of the polynomial that is meant. Therefore
equality of the lists, a difference of zero, and agreement of the coefficients are the same. -/
theorem coeffs_canonical {a b : Origin} {f g : Poly} (hf : a.poly = .ok f) (hg : b.poly = .ok g) :
    (f.coeffs ≠ [] ∧ (f.coeffs.getLast? = some 0 → f.coeffs = [0])) ∧
      (∃ p, a.meaning = .ok p ∧ f.coeffs = canonicalCoeffs p) ∧
      (a.difference b).poly = .ok (f - g) ∧
      IsDifference f (g.coeffs.getD · 0) g.eval (f.coeffs = g.coeffs) (f - g) ∧
      ∀ c : Int ⊕ Scalar, ∃ h found, Wire.subtract f (coefficientDatum c) = .ok h ∧
        Wire.equals f (coefficientDatum c) = .ok found ∧
        IsDifference f (fun i => if i = 0 then coefficientClass c else 0)
          (fun _ => coefficientClass c) (found = true) h := by
  have hdifference : (a.difference b).poly = .ok (f - g) := by
    rw [poly, hf, hg]
    rfl
  exact ⟨⟨f.coeffs_ne_nil, f.eq_zero_of_getLast?⟩, coeffs_eq hf, hdifference,
    isDifference_sub f g, isDifference_number f⟩

/-- A difference in which the leading coefficients cancel, one of them a negative integer and the
other the element of its class, and a quotient, less a number, of which nothing is left. -/
theorem coeffs_canonical_cancelled :
    let a := difference (.coefficients (.array [.integer 1, .integer 2, .integer (-3)]))
      (.coefficients (.array [.integer 0, .integer 0, .scalar (-Scalar.encode 3)]))
    let b := reduced (.quotient (.coefficients (.array [.integer 7, .integer 5])) 4) (.inl 5)
    let f := ofCoeffs [Scalar.encode 1, Scalar.encode 2]
    a.poly = .ok f ∧ b.poly = .ok 0 ∧
      (f.coeffs ≠ [] ∧ (f.coeffs.getLast? = some 0 → f.coeffs = [0])) ∧
      (∃ p, a.meaning = .ok p ∧ f.coeffs = canonicalCoeffs p) ∧
      (a.difference b).poly = .ok (f - 0) ∧
      IsDifference f ((0 : Poly).coeffs.getD · 0) (0 : Poly).eval (f.coeffs = (0 : Poly).coeffs)
        (f - 0) ∧
      ∀ c : Int ⊕ Scalar, ∃ h found, Wire.subtract f (coefficientDatum c) = .ok h ∧
        Wire.equals f (coefficientDatum c) = .ok found ∧
        IsDifference f (fun i => if i = 0 then coefficientClass c else 0)
          (fun _ => coefficientClass c) (found = true) h :=
  ⟨rfl, rfl, coeffs_canonical rfl rfl⟩

end Origin

end Poly

end LiabilityProof
