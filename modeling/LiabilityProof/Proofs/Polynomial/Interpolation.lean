import Mathlib.LinearAlgebra.Lagrange
import LiabilityProof.Proofs.Polynomial.Transform

/-!
# Values and coefficients determine each other

Coefficients of a polynomial of a degree below `2 ^ k` are determined by its values at `2 ^ k`
different points. So the transform and its inverse undo each other on all lists of that length, and
`Transform.interpolate` gives the only polynomial that has the given values
(`interpolate_eq_ok_unique`).
-/

namespace LiabilityProof

open scoped Residue

namespace Poly

theorem degree_ofList_lt {cs : List Scalar} {n : Nat} (hcs : cs.length ≤ n) :
    (ofList cs).degree < n := by
  refine (Polynomial.degree_lt_iff_coeff_zero _ _).mpr fun i hi => ?_
  rw [coeff_ofList, List.getD_eq_default _ _ (hcs.trans hi)]

/-- Coefficients with the same values at the powers of a root are those of one polynomial. -/
theorem ofList_eq_of_horner_eq {k : Nat} {ω : Scalar} (hω : HalfTurn k ω) {cs cs' : List Scalar}
    (hcs : cs.length ≤ 2 ^ k) (hcs' : cs'.length ≤ 2 ^ k)
    (h : ∀ i < 2 ^ k, horner (ω ^ i) cs = horner (ω ^ i) cs') : ofList cs = ofList cs' := by
  have hpoints : Set.InjOn (fun i => ω ^ i) (Finset.range (2 ^ k)) := by
    intro i hi j hj heq
    exact hω.pow_inj (Finset.mem_range.mp hi) (Finset.mem_range.mp hj) heq
  refine Polynomial.eq_of_degrees_lt_of_eval_index_eq (Finset.range (2 ^ k)) hpoints ?_ ?_ ?_
  · rw [Finset.card_range]
    exact degree_ofList_lt hcs
  · rw [Finset.card_range]
    exact degree_ofList_lt hcs'
  · intro i hi
    rw [eval_ofList, eval_ofList]
    exact h i (Finset.mem_range.mp hi)

/-- A polynomial of a degree below the number of points is determined by its values there. -/
theorem eq_of_eval_eq {k : Nat} {ω : Scalar} (hω : HalfTurn k ω) {f g : Poly}
    (hf : f.degree < 2 ^ k) (hg : g.degree < 2 ^ k)
    (h : ∀ i < 2 ^ k, f.eval (ω ^ i) = g.eval (ω ^ i)) : f = g := by
  refine toPolynomial_injective (ofList_eq_of_horner_eq hω ?_ ?_ h)
  · rw [length_coeffs]
    exact hf
  · rw [length_coeffs]
    exact hg

end Poly

namespace Transform

variable {k : Nat} {ω : Scalar} {values : List Scalar}

/-- Coefficients of the same number are determined by their values. -/
theorem eq_of_horner_eq (hω : HalfTurn k ω) {cs cs' : List Scalar} (hcs : cs.length = 2 ^ k)
    (hcs' : cs'.length = 2 ^ k)
    (h : ∀ i < 2 ^ k, Poly.horner (ω ^ i) cs = Poly.horner (ω ^ i) cs') :
    cs = cs' := by
  have heq := Poly.ofList_eq_of_horner_eq hω hcs.le hcs'.le h
  refine List.ext_getElem (hcs.trans hcs'.symm) fun i hi hi' => ?_
  have hcoeff := congrArg (fun p => p.coeff i) heq
  simp only [Poly.coeff_ofList] at hcoeff
  rwa [List.getD_eq_getElem _ _ hi, List.getD_eq_getElem _ _ hi'] at hcoeff

/-- The values of the coefficients that are found for some values are these values. -/
theorem forward_coefficients (hω : HalfTurn k ω) (hvalues : values.length = 2 ^ k) :
    forward (coefficients k ω values) ω = .ok values := by
  rw [forward_eq_ok hω (length_coefficients k ω values)]
  congr 1
  refine List.ext_getElem (by simp [hvalues]) fun i hi hi' => ?_
  have hlt : i < 2 ^ k := hvalues ▸ hi'
  rw [List.getElem_map, List.getElem_range, horner_coefficients hω hvalues hlt,
    List.getD_eq_getElem _ _ hi']

/-- The coefficients that are found for the values of some coefficients are these coefficients. -/
theorem coefficients_map_horner (hω : HalfTurn k ω) (hvalues : values.length = 2 ^ k) :
    coefficients k ω ((List.range (2 ^ k)).map fun i => Poly.horner (ω ^ i) values) = values := by
  refine eq_of_horner_eq hω (length_coefficients _ _ _) hvalues fun i hi => ?_
  rw [horner_coefficients hω (by simp) hi, List.getD_eq_getElem _ _ (by simpa using hi),
    List.getElem_map, List.getElem_range]

/-- The transform and its inverse undo each other, and the polynomial that is found for some values
is the only one of a degree below their number that has them. -/
theorem interpolate_eq_ok_unique (hω : HalfTurn k ω) (hvalues : values.length = 2 ^ k) :
    (forward values ω >>= fun evaluations => backward evaluations ω) = .ok values ∧
      (backward values ω >>= fun cs => forward cs ω) = .ok values ∧
      ∃ f, interpolate values ω = .ok f ∧
        ∀ g : Poly, (g.degree < 2 ^ k ∧
          (List.range (2 ^ k)).map (fun i => g.eval (ω ^ i)) = values) ↔ g = f := by
  refine ⟨?_, ?_, ?_⟩
  · rw [forward_eq_ok hω hvalues]
    refine (backward_eq_ok hω (by simp)).trans ?_
    rw [coefficients_map_horner hω hvalues]
  · rw [backward_eq_ok hω hvalues]
    exact forward_coefficients hω hvalues
  · obtain ⟨f, hf, hdegree, heval⟩ := interpolate_eq_ok hω hvalues
    have hlist : (List.range (2 ^ k)).map (fun i => f.eval (ω ^ i)) = values := by
      refine List.ext_getElem (by simp [hvalues]) fun i hi hi' => ?_
      have hlt : i < 2 ^ k := hvalues ▸ hi'
      rw [List.getElem_map, List.getElem_range, heval i hlt, List.getD_eq_getElem _ _ hi']
    refine ⟨f, hf, fun g => ⟨?_, ?_⟩⟩
    · rintro ⟨hg, hgvalues⟩
      refine Poly.eq_of_eval_eq hω hg hdegree fun i hi => ?_
      have hi' : i ∈ List.range (2 ^ k) := List.mem_range.mpr hi
      exact List.map_inj_left.mp (hgvalues.trans hlist.symm) i hi'
    · rintro rfl
      exact ⟨hdegree, hlist⟩

/-- Four values, two of them zero, at the powers of a root of order four. -/
theorem interpolate_eq_ok_unique_four :
    let ω := Scalar.twoPowerRoot 2
    let values := [Scalar.encode 10, 0, Scalar.encode 30, 0]
    HalfTurn 2 ω ∧ values.length = 2 ^ 2 ∧
      (forward values ω >>= fun evaluations => backward evaluations ω) = .ok values ∧
      (backward values ω >>= fun cs => forward cs ω) = .ok values ∧
      ∃ f, interpolate values ω = .ok f ∧
        ∀ g : Poly, (g.degree < 2 ^ 2 ∧
          (List.range (2 ^ 2)).map (fun i => g.eval (ω ^ i)) = values) ↔ g = f :=
  have hω : HalfTurn 2 (Scalar.twoPowerRoot 2) := Scalar.halfTurn_twoPowerRoot (by decide)
  ⟨hω, rfl, interpolate_eq_ok_unique hω rfl⟩

end Transform

end LiabilityProof
