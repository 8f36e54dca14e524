import LiabilityProof.Wire.Field
import LiabilityProof.Kzg.Parameters

/-!
# Parameters in documents

Parameters are an object of two arrays of points and the largest degree. When they are read, the
degree is taken as it stands.
-/

namespace LiabilityProof

namespace Wire

/-- Parameters as an object. -/
def ofParameters (p : Parameters) : Datum :=
  .object
    [("g1_powers", .array (p.powers1.map ofG1)),
     ("g2_powers", .array (p.powers2.map ofG2)),
     ("max_degree", p.maxDegree)]

/-- The parameters that a value writes. -/
def parameters (d : Datum) : Except Failure Parameters := do
  let powers1 ← (← (← d.field "g1_powers").elements) |>.mapM g1
  let powers2 ← (← (← d.field "g2_powers").elements) |>.mapM g2
  let maxDegree ← d.field "max_degree"
  pure ⟨powers1, powers2, maxDegree⟩

end Wire

end LiabilityProof
