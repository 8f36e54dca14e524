import LiabilityProof.Curve.Pairing
import LiabilityProof.Failure
import LiabilityProof.Text.Hex

/-!
# Points as bytes

A point of the first group is written as its two coordinates, 32 bytes each, most significant
byte first; the point at infinity is 64 zero bytes. Coordinates that are read are reduced, so
two byte strings may be read as one point, but no byte string is read as two.
-/

namespace LiabilityProof

namespace G1

/-- The number of bytes of a point. -/
def byteLength : Nat := 2 * Scalar.byteWidth

/-- The bytes of a point. -/
def toBytes : G1Point → List UInt8
  | .infinity => List.replicate byteLength 0
  | .affine x y =>
    Text.bigEndian Scalar.byteWidth x.val ++ Text.bigEndian Scalar.byteWidth y.val

/-- The point that bytes write. -/
def ofBytes (bytes : List UInt8) : Except Failure G1Point :=
  if bytes.length ≠ byteLength then .error (.pointWidth bytes.length)
  else if bytes = List.replicate byteLength 0 then .ok .infinity
  else
    .ok (.affine (Residue.ofNat (Text.ofBigEndian (bytes.take Scalar.byteWidth)))
      (Residue.ofNat (Text.ofBigEndian (bytes.drop Scalar.byteWidth))))

end G1

end LiabilityProof
