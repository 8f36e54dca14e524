import LiabilityProof.Wire.Polynomial
import LiabilityProof.Proofs.Outcome
import LiabilityProof.Proofs.Polynomial.Transform

/-!
# The transform and Horner's rule

Coefficients come from outside as integers, which are reduced, and as field elements. Whatever
their mixture, a transform of `2 ^ k` of them lists the values of the polynomial that they are, at
the powers of a root that takes a half turn; and there is a transform of no other number of them but
none (`forward_evaluates`).
-/

namespace LiabilityProof

open scoped Residue

namespace Transform

/-- A coefficient from outside. -/
def coefficientDatum : Int ⊕ Scalar → Datum := Sum.elim Datum.integer Datum.scalar

/-- The class of a coefficient: an integer is reduced, and a field element stays as it is. -/
def coefficientClass : Int ⊕ Scalar → Scalar := Sum.elim Residue.ofInt id

theorem mapM_residue (cs : List (Int ⊕ Scalar)) :
    (cs.map coefficientDatum).mapM Datum.residue = .ok (cs.map coefficientClass) := by
  refine mapM_map_eq_ok_map ?_
  rintro (n | a) -
  · rfl
  · rfl

theorem polynomial_data {cs : List (Int ⊕ Scalar)} (hcs : cs ≠ []) :
    Wire.polynomial (.array (cs.map coefficientDatum)) =
      .ok (Poly.ofCoeffs (cs.map coefficientClass)) := by
  have hpresent : (Datum.array (cs.map coefficientDatum)).isPresent = true := by
    simpa [Datum.isPresent] using hcs
  rw [Wire.polynomial, if_pos hpresent]
  change ((cs.map coefficientDatum).mapM Datum.residue >>= fun values => _) = _
  rw [mapM_residue]
  rfl

theorem isLength_iff {n : Nat} : isLength n = true ↔ n = 0 ∨ ∃ k, n = 2 ^ k := by
  rcases Nat.eq_zero_or_pos n with rfl | hn
  · simp [isLength]
  · rw [isLength, decide_eq_true_iff, Nat.and_sub_one_eq_zero_iff_isPowerOfTwo hn.ne',
      Nat.isPowerOfTwo, or_iff_right hn.ne']

/-- A transform of `2 ^ k` coefficients lists the values of their polynomial at the powers of a root
that takes a half turn, as the roots of all domains do. A number of coefficients that is neither
zero nor a power of two is refused, whatever the coefficients and the root. -/
theorem forward_evaluates :
    (∀ (k : Nat) (ω : Scalar) (cs : List (Int ⊕ Scalar)), cs.length = 2 ^ k → HalfTurn k ω →
      ∃ f, Wire.polynomial (.array (cs.map coefficientDatum)) = .ok f ∧
        (valuesOfData (cs.map coefficientDatum) Datum.residue >>= fun values =>
          forward values ω) = .ok ((List.range (2 ^ k)).map fun i => f.eval (ω ^ i))) ∧
      (∀ k ≤ Scalar.maxDomainExponent, ∃ ω, Scalar.rootOfUnity (Nat.pow 2 k : Nat) = .ok ω ∧
        HalfTurn k ω) ∧
      ∀ (data : List Datum) (ω : Scalar), data.length ≠ 0 → (∀ k, data.length ≠ 2 ^ k) →
        (valuesOfData data Datum.residue >>= fun values => forward values ω) =
          .error (.transformLength data.length) ∧
          (Failure.transformLength data.length).kind = .value := by
  refine ⟨?_, ?_, ?_⟩
  · intro k ω cs hlength hω
    have hne : cs ≠ [] := by
      rintro rfl
      exact absurd hlength.symm (by positivity)
    have hvalues : valuesOfData (cs.map coefficientDatum) Datum.residue =
        .ok (cs.map coefficientClass) := by
      rw [valuesOfData, List.length_map, hlength, isLength_two_pow, if_pos rfl, mapM_residue]
    refine ⟨_, polynomial_data hne, ?_⟩
    rw [hvalues]
    refine (forward_eq_ok hω (by rw [List.length_map, hlength])).trans ?_
    congr 1
    exact List.map_congr_left fun i _ => (Poly.eval_ofCoeffs _ _).symm
  · intro k hk
    exact ⟨_, Scalar.rootOfUnity_two_pow hk, Scalar.halfTurn_twoPowerRoot hk⟩
  · intro data ω hzero hpower
    have hlength : ¬isLength data.length = true := by
      rw [isLength_iff]
      rintro (h | ⟨k, h⟩)
      · exact hzero h
      · exact hpower k h
    refine ⟨?_, rfl⟩
    rw [valuesOfData, if_neg hlength]
    rfl

/-- Two coefficients, a negative integer and a field element, at the powers of minus one; and three
values that are no numbers. -/
theorem forward_evaluates_two :
    let cs : List (Int ⊕ Scalar) := [.inl (-1), .inr (Scalar.encode 3)]
    let data : List Datum := [.null, .null, .null]
    HalfTurn 1 (-1) ∧ (∃ f, Wire.polynomial (.array (cs.map coefficientDatum)) = .ok f ∧
        (valuesOfData (cs.map coefficientDatum) Datum.residue >>= fun values =>
          forward values (-1)) = .ok ((List.range (2 ^ 1)).map fun i => f.eval ((-1) ^ i))) ∧
      (valuesOfData data Datum.residue >>= fun values => forward values (-1)) =
        .error (.transformLength data.length) ∧
        (Failure.transformLength data.length).kind = .value := by
  intro cs data
  have hω : HalfTurn 1 (-1) := by
    intro m hm
    obtain rfl : m = 0 := by omega
    exact pow_one (-1)
  have hpower : ∀ k, data.length ≠ 2 ^ k := by
    intro k
    rcases k with - | - | k
    · decide
    · decide
    · have hle : 1 ≤ 2 ^ k := Nat.one_le_two_pow
      have hlength : data.length = 3 := rfl
      rw [hlength, pow_succ, pow_succ]
      omega
  exact ⟨hω, forward_evaluates.1 1 (-1) cs rfl hω,
    forward_evaluates.2.2 data (-1) (by decide) hpower⟩

end Transform

end LiabilityProof
