import LiabilityProof.Proofs.Wire.Integer
import LiabilityProof.Wire.Parameters

/-!
# Parameters are read back

A coordinate is a least residue, so its decimal text is short enough to be read, and reducing what
is read changes nothing. Therefore points of both groups, infinity included, and whole parameters
are read back from what is written of them (`Wire.parameters_ofParameters`).
-/

namespace LiabilityProof

namespace Wire

/-! ### Numbers -/

theorem unsigned_decimal {n : Nat} (h : n < 10 ^ Text.maxDigits) :
    (decimal n).unsigned = .ok n := by
  have hascii : ∀ c ∈ Text.decimal n, Text.isAsciiDigit c = true :=
    fun _ => Text.isAsciiDigit_of_mem_decimal
  have hdigits : Text.isDigits (Text.decimal n) = true :=
    Datum.isDigits_iff.mpr ⟨Text.decimal_ne_nil n, hascii⟩
  have hlength : ¬Text.maxDigits < (Text.decimal n).length :=
    not_lt.mpr (Text.length_decimal_le (by decide) h)
  rw [decimal, Datum.unsigned]
  simp only [Text.ofNat, String.toList_ofList]
  rw [if_pos hdigits, if_neg hlength, Datum.filterMap_digitValue? hascii, ← Text.digitsOf,
    Text.ofDigits_digitsOf]

theorem coordinateModulus_lt : coordinateModulus < 10 ^ Text.maxDigits :=
  Text.lt_pow_maxDigits (by decide : coordinateModulus < 10 ^ 78) (by decide)

theorem coordinate_decimal (a : Fq) : coordinate (decimal a.val) = .ok a := by
  rw [coordinate, unsigned_decimal (a.isLt.trans coordinateModulus_lt)]
  exact congrArg Except.ok (Residue.ofNat_val a)

/-! ### Points -/

theorem pair_decimal (a b : Fq) :
    pair (.array [decimal a.val, decimal b.val]) = .ok (a, b) := by
  change (coordinate (decimal a.val) >>= fun x => coordinate (decimal b.val) >>= fun y =>
    pure (x, y)) = _
  rw [coordinate_decimal, coordinate_decimal]
  rfl

theorem g1_ofG1 (P : G1Point) : g1 (ofG1 P) = .ok P := by
  cases P with
  | infinity => rfl
  | affine x y =>
    rw [ofG1, g1, pair_decimal]
    · rfl
    · exact Datum.noConfusion

theorem fq2_ofFq2 (a : Fq2) : fq2 (ofFq2 a) = .ok a := by
  rw [fq2, ofFq2, pair_decimal]
  rfl

theorem g2_ofG2 (P : G2Point) : g2 (ofG2 P) = .ok P := by
  cases P with
  | infinity => rfl
  | affine x y =>
    change (fq2 (ofFq2 x) >>= fun x => fq2 (ofFq2 y) >>= fun y => pure (Point.affine x y)) = _
    rw [fq2_ofFq2, fq2_ofFq2]
    rfl

/-! ### Parameters -/

/-- Parameters are read back as they are, whatever their degree is. -/
theorem parameters_ofParameters (p : Parameters) : parameters (ofParameters p) = .ok p := by
  change ((p.powers1.map ofG1).mapM g1 >>= fun powers1 => (p.powers2.map ofG2).mapM g2 >>=
    fun powers2 => pure (Parameters.mk powers1 powers2 p.maxDegree)) = _
  rw [mapM_map_eq_ok fun P _ => g1_ofG1 P, mapM_map_eq_ok fun P _ => g2_ofG2 P]
  rfl

end Wire

end LiabilityProof
